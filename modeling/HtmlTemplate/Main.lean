import HtmlTemplate.Tool.Convert

set_option autoImplicit false

namespace HtmlTemplate

/-- The fault behind an error of the system, by its code, which may come negated. -/
def faultOf (e : IO.Error) : Files.Fault :=
  let coded (given : UInt32) (details : String) : Files.Fault :=
    let code := min given (0 - given)
    if code = 2 then .notFound
    else if code = 17 then .alreadyExists
    else if code = 20 then .notADirectory
    else if code = 21 then .isADirectory
    else if code = 36 then .nameTooLong
    else if code = 40 then .tooManyLinks
    else .other (details ++ " (os error " ++ toString code ++ ")")
  match e with
  | .noFileOrDirectory _ code details => coded code details
  | .alreadyExists _ code details => coded code details
  | .inappropriateType _ code details => coded code details
  | .invalidArgument _ code details => coded code details
  | .permissionDenied _ code details => coded code details
  | .resourceExhausted _ code details => coded code details
  | .noSuchThing _ code details => coded code details
  | .otherError code details => coded code details
  | .resourceBusy code details => coded code details
  | .unsatisfiedConstraints code details => coded code details
  | .illegalOperation code details => coded code details
  | other => .other other.toString

/-- An operation on the path that some bytes are. Only a text can be one here. -/
def attempt {α : Type} (path : Bytes) (operation : String → IO α) :
    IO (Except Files.Fault α) := do
  if path.contains 0 then return .error .nulInName
  match path.text? with
  | none => return .error (.other "path is not UTF-8")
  | some path =>
    try
      return .ok (← operation path)
    catch e => return .error (faultOf e)

def listNames (path : Bytes) :
    IO (Except (Files.Listing × Files.Fault) (List (Bytes × Bool))) := do
  match ← attempt path fun path => do ((← IO.currentDir) / path).readDir with
  | .error fault => return .error (.opening, fault)
  | .ok entries =>
    let mut names : List (Bytes × Bool) := []
    for entry in entries do
      match ← attempt path fun _ => entry.path.symlinkMetadata with
      | .error fault => return .error (.asking, fault)
      | .ok found => names := (Bytes.ofText entry.fileName, found.type == .file) :: names
    return .ok names

instance : Files.System IO where
  isDirectory path := do
    if path.isEmpty then return false
    match ← attempt path fun path => do ((← IO.currentDir) / path).isDir with
    | .ok there => return there
    | .error _ => return false
  readBytes path := attempt path fun path => IO.FS.readBinFile path
  writeBytes path content := attempt path fun path => IO.FS.writeBinFile path content
  makeDirectory path := attempt path fun path => IO.FS.createDir path
  names := listNames

instance : Tool.Console IO where
  print text := do
    let stream ← IO.getStdout
    stream.putStr text
    stream.flush
  printError line := do
    let stream ← IO.getStderr
    stream.putStr (line ++ "\n")
    stream.flush

end HtmlTemplate

def main (arguments : List String) : IO UInt32 := do
  let code : Nat ← HtmlTemplate.Tool.runArguments (arguments.map HtmlTemplate.Bytes.ofText)
  return code.toUInt32
