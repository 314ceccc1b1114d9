import HtmlTemplate.Files.Tree
import HtmlTemplate.Tool.Convert

/-!
The tool on a tree of files, with what it prints kept in order. Its operations can fail for reasons
that do not lie in the tree.
-/

set_option autoImplicit false

namespace HtmlTemplate.Tool

/-- A failure of an operation, and how many bytes a writing one has written by then. -/
structure Mishap where
  fault : Files.Fault
  written : Nat

structure Session where
  tree : Files.Tree
  /-- What goes wrong in the operations to come, in their order; nothing behind the end. -/
  mishaps : List (Option Mishap)
  /-- The texts printed, the latest first. -/
  output : List String
  errors : List String

namespace Session

def on (tree : Files.Tree) : Session := ⟨tree, [], [], []⟩

def outputText (session : Session) : String :=
  String.join session.output.reverse

def behind (session : Session) (operations : Nat) : Session :=
  { session with mishaps := session.mishaps.drop operations }

def mishap? (session : Session) : Option Mishap :=
  session.mishaps.head?.join

def withTree (session : Session) (tree : Files.Tree) : Session :=
  { session with tree := tree }

def attempt {α : Type} (failed : Mishap → StateM Session α) (operation : StateM Session α) :
    StateM Session α := do
  let session ← get
  set (session.behind 1)
  match session.mishap? with
  | some mishap => failed mishap
  | none => operation

def wholly {α : Type} (operation : Files.Tree → Except Files.Fault (Files.Tree × α)) :
    StateM Session (Except Files.Fault α) :=
  attempt (fun mishap => return .error mishap.fault) do
    let session ← get
    match operation session.tree with
    | .ok (tree, a) =>
      set (session.withTree tree)
      return .ok a
    | .error fault => return .error fault

/-- Writes to the file that was opened; a part of the content may be all that is written. -/
def pour (opened : Option Nat) (content : ByteArray) : StateM Session (Except Files.Fault Unit) :=
  let write (content : ByteArray) : StateM Session Unit :=
    modify fun session => session.withTree (session.tree.pour opened content)
  attempt
    (fun mishap => do
      write (content.extract 0 mishap.written)
      return .error mishap.fault)
    (do
      write content
      return .ok ())

/-- A listing is opened, then read, and then asked about. -/
def listNames (path : Bytes) :
    StateM Session (Except (Files.Listing × Files.Fault) (List (Bytes × Bool))) := do
  match ← wholly fun tree => (tree.names path).map (tree, ·) with
  | .error fault => return .error (.opening, fault)
  | .ok names =>
    attempt (fun mishap => return .error (.reading, mishap.fault))
      (attempt (fun mishap => return .error (.asking, mishap.fault)) (return .ok names))

instance : Files.System (StateM Session) where
  isDirectory path := attempt (fun _ => return false) do return (← get).tree.isDirectory path
  readBytes path := wholly fun tree => (tree.read path).map (tree, ·)
  writeBytes path content := do
    match ← wholly (·.openFile path) with
    | .error fault => return .error fault
    | .ok opened => pour opened content
  makeDirectory path := wholly fun tree => (tree.makeDirectory path).map (·, ())
  names := listNames

instance : Console (StateM Session) where
  print text := modify fun session => { session with output := text :: session.output }
  printError line := modify fun session => { session with errors := line :: session.errors }

end Session

end HtmlTemplate.Tool
