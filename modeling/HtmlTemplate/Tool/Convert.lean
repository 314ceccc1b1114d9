import HtmlTemplate.Files.System
import HtmlTemplate.Node.OfDom
import HtmlTemplate.Node.Writer
import HtmlTemplate.Tool.Request

/-!
The command line tool: converts one file, or every file of a directory with the right extension,
between JSON templates and HTML.
-/

set_option autoImplicit false

namespace HtmlTemplate.Tool

class Console (m : Type → Type) where
  print : String → m Unit
  printError : String → m Unit

variable {m : Type → Type} [Monad m] [Files.System m] [Console m]

def tell (channel : Channel) (notices : List Notice) : ExceptT Error m Unit :=
  (channel.lines notices).forM fun line => ExceptT.lift (Console.printError line)

def hold {α : Type} : Except Error α → ExceptT Error m α
  | .ok a => pure a
  | .error e => throw e

def unknownTemplates (path : Bytes) (node : Node) : List Notice :=
  node.references.map fun r => .unknownTemplate path r.name

/-- The HTML of a template file. There are no templates that it could refer to. -/
def compileFile (channel : Channel) (limit : Nat) (path : Bytes) : ExceptT Error m String := do
  let node ← Files.loadTemplate path
  tell channel (unknownTemplates path node)
  hold ((node.render Registry.empty limit).account []).outcome

def parseFile (channel : Channel) (options : Dom.Options) (compact : Bool) (path : Bytes) :
    ExceptT Error m String := do
  let text ← Files.readText path
  let report := Node.parse options text
  tell channel report.notices
  let node ← hold report.outcome
  let json ← hold (node.encode (if compact then Json.compact else Json.pretty))
  return json ++ "\n"

def Command.convert (channel : Channel) (command : Command) (path : Bytes) :
    ExceptT Error m String :=
  match command with
  | .compile limit => compileFile channel limit path
  | .parse options compact => parseFile channel options compact path

def Command.inputExtension : Command → String
  | .compile _ => "json"
  | .parse _ _ => "html"

def Command.outputExtension : Command → String
  | .compile _ => "html"
  | .parse _ _ => "json"

def Command.outputPath (command : Command) (directory stem : Bytes) : Bytes :=
  Files.Path.join directory (Bytes.ofText (stem.lossy ++ "." ++ command.outputExtension))

def convertInto (channel : Channel) (command : Command) (directory : Bytes) :
    List Bytes → ExceptT Error m Unit
  | [] => pure ()
  | path :: rest => do
    match Files.Path.stem? path with
    | none => throw (.failure ("path without file name: " ++ Text.quotedPath path))
    | some stem =>
      let output := command.outputPath directory stem
      tell channel [.converting path output]
      let text ← command.convert channel path
      Files.writeText output text
      convertInto channel command directory rest

def Request.run (request : Request) : ExceptT Error m Unit := do
  let channel := Channel.quiet.setVerbose request.verbose
  if ← ExceptT.lift (Files.System.isDirectory request.input) then
    let extension := request.command.inputExtension
    let paths ← Files.filesWithExtension request.input extension
    if paths.isEmpty then tell channel [.noInputs extension request.input]
    convertInto channel request.command (request.output.getD request.input) paths
  else
    let text ← request.command.convert channel request.input
    match request.output with
    | some path =>
      tell channel [.converting request.input path]
      Files.writeText path text
    | none => ExceptT.lift (Console.print text)

def indent (text : String) : String :=
  "    " ++ "\n    ".intercalate (text.splitOn "\n")

def numbered (n : Nat) : List String → List String
  | [] => []
  | text :: rest =>
    ("    " ++ toString n ++ ": " ++ "\n       ".intercalate (text.splitOn "\n")) ::
      numbered (n + 1) rest

def failureText (e : Error) : String :=
  match e.messages with
  | [] => "Error: "
  | [only] => "Error: " ++ only
  | [first, cause] => "Error: " ++ first ++ "\n\nCaused by:\n" ++ indent cause
  | first :: causes =>
    "Error: " ++ first ++ "\n\nCaused by:\n" ++ "\n".intercalate (numbered 0 causes)

def runArguments (arguments : List Bytes) : m Nat := do
  match Request.ofArguments? arguments with
  | none => return 2
  | some request =>
    match ← ExceptT.run request.run with
    | .ok () => return 0
    | .error e =>
      Console.printError (failureText e)
      return 1

end HtmlTemplate.Tool
