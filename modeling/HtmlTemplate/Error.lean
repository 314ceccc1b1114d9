import HtmlTemplate.Files.Fault
import HtmlTemplate.Json.Refusal
import HtmlTemplate.Markup.Flaw
import HtmlTemplate.Text.Quoted

set_option autoImplicit false

namespace HtmlTemplate

inductive Activity where
  | readingFile (path : Bytes)
  | loadingTemplate (path : Bytes)
  | creatingDirectory (path : Bytes)
  | writingFile (path : Bytes)
  | openingDirectory (path : Bytes)
  | readingDirectory (path : Bytes)
deriving DecidableEq, Repr

def Activity.message : Activity → String
  | .readingFile path => "opening path for reading: " ++ Text.quotedPath path
  | .loadingTemplate path => "loading template from " ++ Text.quotedPath path
  | .creatingDirectory path => "creating directory " ++ Text.quotedPath path
  | .writingFile path => "writing to " ++ Text.quotedPath path
  | .openingDirectory path => "can't open directory for reading: " ++ Text.quoted path.lossy
  | .readingDirectory path => "reading directory: " ++ Text.quoted path.lossy

inductive Error where
  /-- The JSON value at `path` does not describe a node. -/
  | invalidNode (path reason : String)
  /-- The value at `path` is deferred, so it has no JSON form. -/
  | deferredValue (path : String)
  | tooDeep (limit : Nat)
  | malformedJson (m : Json.Malformed)
  | refusedJson (r : Json.Refusal)
  | malformedMarkup (flaw : Markup.Flaw)
  | failure (message : String)
  | file (fault : Files.Fault)
  | during (activity : Activity) (cause : Error)

namespace Error

/-- The whole value is written as a slash. -/
def pathText (path : String) : String :=
  if path = "" then "/" else path

def messages : Error → List String
  | .invalidNode path reason => ["invalid template node at " ++ pathText path ++ ": " ++ reason]
  | .deferredValue path => ["can't serialize the deferred value at " ++ pathText path]
  | .tooDeep limit => ["template nesting deeper than " ++ toString limit ++ " levels"]
  | .malformedJson m => [m.message]
  | .refusedJson r => [r.message]
  | .malformedMarkup flaw => ["HTML5 parsing error: " ++ flaw.code]
  | .failure message => [message]
  | .file fault => [fault.message]
  | .during activity cause => activity.message :: messages cause

def message (e : Error) : String :=
  ": ".intercalate e.messages

def root : Error → Error
  | .during _ cause => cause.root
  | e => e

end Error

end HtmlTemplate
