import HtmlTemplate.Markup.Flaw
import HtmlTemplate.Text.Quoted

/-!
Notices to the user: warnings, and information about progress that is shown on request only.
-/

set_option autoImplicit false

namespace HtmlTemplate

inductive Notice where
  | ignoredFlaw (flaw : Markup.Flaw)
  | strayEndTag (name : String)
  | leftOpen (count : Nat)
  | unknownTemplate (path : Bytes) (name : String)
  | noInputs (extension : String) (path : Bytes)
  | converting (input output : Bytes)
deriving DecidableEq, Repr

namespace Notice

def isWarning : Notice → Bool
  | .ignoredFlaw _ | .strayEndTag _ | .unknownTemplate _ _ | .noInputs _ _ => true
  | .leftOpen _ | .converting _ _ => false

def message : Notice → String
  | .ignoredFlaw flaw => "HTML5 parsing error (ignored): " ++ flaw.code
  | .strayEndTag name => "ignoring end tag </" ++ name ++ "> without matching start tag"
  | .leftOpen count => "closing " ++ toString count ++ " element(s) left open at the end of input"
  | .unknownTemplate path name =>
    Text.quotedPath path ++ ": no template " ++ Text.quoted name ++
      " available, it compiles to the empty string"
  | .noInputs extension path => "no *." ++ extension ++ " files in " ++ Text.quotedPath path
  | .converting input output => Text.quotedPath input ++ " -> " ++ Text.quotedPath output

/-- The place in the program that raised a warning, which is shown behind it, is left out. -/
def line (notice : Notice) : String :=
  (if notice.isWarning then "W: " else "I: ") ++ notice.message

end Notice

structure Channel where
  verbose : Bool

namespace Channel

def quiet : Channel := ⟨false⟩

def setVerbose (channel : Channel) (on : Bool) : Channel :=
  { channel with verbose := on }

def shows (channel : Channel) (notice : Notice) : Bool :=
  notice.isWarning || channel.verbose

def lines (channel : Channel) (notices : List Notice) : List String :=
  (notices.filter channel.shows).map Notice.line

end Channel

end HtmlTemplate
