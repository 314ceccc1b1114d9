import HtmlTemplate.Entries
import HtmlTemplate.Files.Fault
import HtmlTemplate.Files.Path

/-!
A tree of files, directories and symbolic links, and what operations on paths do to it. Paths are
followed from the root of the tree. A file is known by a number, and may have several names.
-/

set_option autoImplicit false

namespace HtmlTemplate.Files

inductive Entry where
  | file (number : Nat)
  | directory (entries : List (Bytes × Entry))
  | link (target : Bytes)
  /-- A device or the like: it gives something to read, and keeps nothing that is written to it. -/
  | special (given : ByteArray)
deriving Inhabited

/-- The entries of a root directory, and the contents of the files by their numbers. -/
structure Tree where
  entries : List (Bytes × Entry)
  contents : Nat → ByteArray

namespace Tree

def empty : Tree := ⟨[], fun _ => .empty⟩

def entriesAt? (entries : List (Bytes × Entry)) : List Bytes → Option (List (Bytes × Entry))
  | [] => some entries
  | name :: rest =>
    match Entries.get? entries name with
    | some (.directory inner) => entriesAt? inner rest
    | _ => none

def putAt (entries : List (Bytes × Entry)) (name : Bytes) (entry : Entry) :
    List Bytes → List (Bytes × Entry)
  | [] => Entries.set entries name entry
  | step :: rest =>
    match Entries.get? entries step with
    | some (.directory inner) => Entries.set entries step (.directory (putAt inner name entry rest))
    | _ => entries

/-- Where a path leads: to the root, or to a name in a directory, which may be absent. -/
inductive Place where
  | root
  | within (directory : List Bytes) (name : Bytes)

def nameLimit : Nat := 255

def pathLimit : Nat := 4095

def linkLimit : Nat := 40

/-- Follows components from a directory; a link in the last place is followed as well. -/
def follow (tree : Tree) (links : Nat) (directory : List Bytes) (components : List Bytes) :
    Except Fault Place :=
  match components with
  | [] => .ok (match directory.getLast? with
    | none => .root
    | some name => .within directory.dropLast name)
  | name :: rest =>
    if name = Path.here then tree.follow links directory rest
    else if name = Path.up then tree.follow links directory.dropLast rest
    else if nameLimit < name.length then .error .nameTooLong
    else
      match (entriesAt? tree.entries directory).bind (Entries.get? · name) with
      | none => if rest.isEmpty then .ok (.within directory name) else .error .notFound
      | some (.file _) | some (.special _) =>
        if rest.isEmpty then .ok (.within directory name) else .error .notADirectory
      | some (.directory _) => tree.follow links (directory ++ [name]) rest
      | some (.link target) =>
        match links with
        | 0 => .error .tooManyLinks
        | links + 1 =>
          tree.follow links (if Path.isAbsolute target then [] else directory)
            (Path.parts target ++ rest)
termination_by (links, components.length)

/-- Follows a path that must not be empty; behind a slash at its end there must be a directory. -/
def find (tree : Tree) (path : Bytes) : Except Fault Place :=
  if path.contains 0 then .error .nulInName
  else if path = [] then .error .notFound
  else if pathLimit < path.length then .error .nameTooLong
  else
    tree.follow linkLimit [] (Path.parts path ++ if Path.endsInSlash path then [Path.here] else [])

def at? (tree : Tree) : Place → Option Entry
  | .root => some (.directory tree.entries)
  | .within directory name => (entriesAt? tree.entries directory).bind (Entries.get? · name)

def put (tree : Tree) (place : Place) (entry : Entry) : Tree :=
  match place with
  | .root => tree
  | .within directory name => { tree with entries := putAt tree.entries name entry directory }

def get (tree : Tree) (path : Bytes) : Except Fault Entry :=
  match tree.find path with
  | .error fault => .error fault
  | .ok place =>
    match tree.at? place with
    | none => .error .notFound
    | some entry => .ok entry

def isDirectory (tree : Tree) (path : Bytes) : Bool :=
  match tree.get path with
  | .ok (.directory _) => true
  | _ => false

def read (tree : Tree) (path : Bytes) : Except Fault ByteArray :=
  match tree.get path with
  | .error fault => .error fault
  | .ok (.file number) => .ok (tree.contents number)
  | .ok (.special given) => .ok given
  | .ok (.directory _) => .error .isADirectory
  | .ok (.link _) => .error .tooManyLinks

mutual
def aboveEntry : Entry → Nat
  | .file number => number + 1
  | .directory entries => aboveEntries entries
  | .link _ | .special _ => 0
def aboveEntries : List (Bytes × Entry) → Nat
  | [] => 0
  | (_, entry) :: rest => max (aboveEntry entry) (aboveEntries rest)
end

def fill (tree : Tree) (number : Nat) (content : ByteArray) : Tree :=
  { tree with contents := fun other => if other = number then content else tree.contents other }

/-- A path without slashes at its end, apart from the one of the root. -/
def dropSlashes (path : Bytes) : Bytes :=
  match (path.reverse.dropWhile (· = Path.slash)).reverse with
  | [] => path.take 1
  | bare => bare

/-- Opens a file for writing, which empties it or makes it if it is absent, and gives its number if
it keeps what is written. A path with a slash at its end names no file. -/
def openFile (tree : Tree) (path : Bytes) : Except Fault (Tree × Option Nat) :=
  match tree.find (if Path.endsInSlash path then dropSlashes path else path) with
  | .error fault => .error fault
  | .ok place =>
    if Path.endsInSlash path then .error .isADirectory
    else
      match tree.at? place with
      | none =>
        let number := aboveEntries tree.entries
        .ok ((tree.put place (.file number)).fill number .empty, some number)
      | some (.file number) => .ok (tree.fill number .empty, some number)
      | some (.special _) => .ok (tree, none)
      | some (.directory _) => .error .isADirectory
      | some (.link _) => .error .tooManyLinks

def pour (tree : Tree) (opened : Option Nat) (content : ByteArray) : Tree :=
  match opened with
  | some number => tree.fill number content
  | none => tree

def makeDirectory (tree : Tree) (path : Bytes) : Except Fault Tree :=
  match tree.find (dropSlashes path) with
  | .error fault => .error fault
  | .ok place =>
    match tree.at? place with
    | some _ => .error .alreadyExists
    | none => .ok (tree.put place (.directory []))

def names (tree : Tree) (path : Bytes) : Except Fault (List (Bytes × Bool)) :=
  match tree.get path with
  | .error fault => .error fault
  | .ok (.directory entries) =>
    .ok (entries.map fun (name, entry) => (name, entry matches .file _))
  | .ok _ => .error .notADirectory

mutual
/-- The paths of all files and directories below an entry, but not of what is special, and not of
links. Directories end in a slash and hold no content. -/
def listing (contents : Nat → ByteArray) (path : Bytes) : Entry → List (Bytes × Option ByteArray)
  | .file number => [(path, some (contents number))]
  | .link _ | .special _ => []
  | .directory entries =>
    (path ++ [Path.slash], none) :: listingOf contents (path ++ [Path.slash]) entries
def listingOf (contents : Nat → ByteArray) (above : Bytes) :
    List (Bytes × Entry) → List (Bytes × Option ByteArray)
  | [] => []
  | (name, entry) :: rest =>
    listing contents (above ++ name) entry ++ listingOf contents above rest
end

def toList (tree : Tree) : List (Bytes × Option ByteArray) :=
  listingOf tree.contents [] tree.entries

end Tree

end HtmlTemplate.Files
