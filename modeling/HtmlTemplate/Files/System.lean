import HtmlTemplate.Error
import HtmlTemplate.Files.Tree
import HtmlTemplate.Node.Reader

set_option autoImplicit false

namespace HtmlTemplate.Files

inductive Listing where
  | opening
  | reading
  | asking
deriving DecidableEq, Repr

class System (m : Type → Type) where
  isDirectory : Bytes → m Bool
  readBytes : Bytes → m (Except Fault ByteArray)
  /-- Empties a file, or makes it, and then writes its content; only a part may have been written
  when it fails. -/
  writeBytes : Bytes → ByteArray → m (Except Fault Unit)
  makeDirectory : Bytes → m (Except Fault Unit)
  /-- The names in a directory, in no particular order, each with whether it is that of a plain
  file. -/
  names : Bytes → m (Except (Listing × Fault) (List (Bytes × Bool)))

variable {m : Type → Type} [Monad m]

/-- An operation on files; a fault is told with what was being done. -/
def doing {α : Type} (activity : Activity) (operation : m (Except Fault α)) :
    ExceptT Error m α :=
  ExceptT.mk do return (← operation).mapError fun fault => .during activity (.file fault)

variable [System m]

def readText (path : Bytes) : ExceptT Error m String :=
  doing (.readingFile path) do
    match ← System.readBytes path with
    | .error fault => return .error fault
    | .ok bytes =>
      match String.fromUTF8? bytes with
      | some text => return .ok text
      | none => return .error .notText

def loadTemplate (path : Bytes) : ExceptT Error m Node := do
  let text ← readText path
  match Node.fromText text with
  | .ok node => return node
  | .error e => throw (.during (.loadingTemplate path) e)

/-- A directory that could not be made is no fault if it is there. -/
def tolerate (path : Bytes) (outcome : Except Fault Unit) : m (Except Fault Unit) := do
  match outcome with
  | .ok () => return .ok ()
  | .error fault => if ← System.isDirectory path then return .ok () else return .error fault

def makeDirectories (path : Bytes) : (steps : Nat) → m (Except Fault Unit)
  | 0 => return .error .notFound
  | steps + 1 => do
    if path = [] then return .ok ()
    match ← System.makeDirectory path with
    | .error .notFound =>
      match Path.parent? path with
      | none => return .error (.other "failed to create whole tree")
      | some parent =>
        match ← makeDirectories parent steps with
        | .error fault => return .error fault
        | .ok () => tolerate path (← System.makeDirectory path)
    | outcome => tolerate path outcome

def writeText (path : Bytes) (text : String) : ExceptT Error m Unit := do
  match Path.parent? path with
  | none => pure ()
  | some parent =>
    if parent = [] then pure ()
    else doing (.creatingDirectory parent) (makeDirectories parent (parent.length + 1))
  doing (.writingFile path) (System.writeBytes path text.toUTF8)

/-- What goes wrong in the listing of a directory. A fault is told with what was being done, unless
the kind of an entry was being asked for. -/
def Listing.error (directory : Bytes) (fault : Fault) : Listing → Error
  | .opening => .during (.openingDirectory directory) (.file fault)
  | .reading => .during (.readingDirectory directory) (.file fault)
  | .asking => .file fault

def filesWithExtension (directory : Bytes) (extension : String) :
    ExceptT Error m (List Bytes) := do
  match ← ExceptT.lift (System.names directory) with
  | .error (listing, fault) => throw (listing.error directory fault)
  | .ok entries =>
    let chosen := entries.filter fun (name, plain) =>
      plain && Path.extension? name = some (Bytes.ofText extension)
    let names := chosen.map Prod.fst
    return (names.mergeSort fun a b => decide (a ≤ b)).map (Path.join directory)

end HtmlTemplate.Files
