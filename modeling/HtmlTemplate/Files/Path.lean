import HtmlTemplate.Text.Bytes

/-!
Paths as bytes. Components are parted by slashes; a single dot means the same directory and counts
only at the very front.
-/

set_option autoImplicit false

namespace HtmlTemplate.Files.Path

def slash : UInt8 := 0x2F

def dot : UInt8 := 0x2E

def here : Bytes := [dot]

def up : Bytes := [dot, dot]

/-- The parts between slashes, empty ones included; never none. -/
def split : Bytes → List Bytes
  | [] => [[]]
  | byte :: rest =>
    if byte = slash then [] :: split rest
    else
      match split rest with
      | [] => [[byte]]
      | part :: parts => (byte :: part) :: parts

def parts (path : Bytes) : List Bytes :=
  (split path).filter fun part => !part.isEmpty

def isAbsolute (path : Bytes) : Bool :=
  path.head? = some slash

def endsInSlash (path : Bytes) : Bool :=
  path.getLast? = some slash

/-- Slashes and lone dots at the end of a path that is given from its end. -/
def dropTail : Bytes → Bytes
  | [] => []
  | byte :: rest =>
    if byte = slash || byte = dot && rest.head? = some slash then dropTail rest else byte :: rest

def parent? (path : Bytes) : Option Bytes :=
  match dropTail path.reverse with
  | [] => none
  | backwards =>
    let front := backwards.dropWhile (· ≠ slash)
    match dropTail front with
    | [] => some (if isAbsolute path && !front.isEmpty then [slash] else [])
    | kept => some kept.reverse

/-- The last component, unless it is a dot or two dots. -/
def fileName? (path : Bytes) : Option Bytes :=
  let last := ((dropTail path.reverse).takeWhile (· ≠ slash)).reverse
  if last = [] || last = here || last = up then none else some last

/-- A name before and after its last dot. A dot at the front parts nothing. -/
def partName (name : Bytes) : Bytes × Option Bytes :=
  let backwards := name.reverse
  let extension := backwards.takeWhile (· ≠ dot)
  match backwards.drop extension.length with
  | [] | [_] => (name, none)
  | _ :: stem => (stem.reverse, some extension.reverse)

def stem? (path : Bytes) : Option Bytes :=
  (fileName? path).map fun name => (partName name).1

def extension? (path : Bytes) : Option Bytes :=
  (fileName? path).bind fun name => (partName name).2

def join (directory path : Bytes) : Bytes :=
  if isAbsolute path || directory = [] then path
  else if endsInSlash directory then directory ++ path
  else directory ++ slash :: path

end HtmlTemplate.Files.Path
