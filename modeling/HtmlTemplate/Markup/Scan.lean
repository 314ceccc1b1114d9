import HtmlTemplate.Markup.Named
import HtmlTemplate.Markup.Token

/-!
The state of a tokenizer between two characters. What is under construction (a tag, a comment, a
name) is part of the state that builds it; what is finished is in the sink.
-/

set_option autoImplicit false

namespace HtmlTemplate.Markup

/-- Tokens found so far. Text is held back until another token or the end follows it, flaws are
not. Flaws that show at a character outside of ASCII wait until the next character is read. -/
structure Sink where
  /-- The latest first. -/
  tokens : List Token
  text : String
  waiting : List Flaw
  wide : Bool
  lastStart : String

namespace Sink

def empty : Sink := ⟨[], "", [], false, ""⟩

def put (sink : Sink) (c : Char) : Sink :=
  { sink with text := sink.text.push c }

def write (sink : Sink) (s : String) : Sink :=
  { sink with text := sink.text ++ s }

def flush (sink : Sink) : Sink :=
  if sink.text = "" then sink
  else { sink with tokens := .text sink.text :: sink.tokens, text := "" }

def emit (sink : Sink) (token : Token) : Sink :=
  let sink := sink.flush
  { sink with tokens := token :: sink.tokens }

def reportNow (sink : Sink) (flaw : Flaw) : Sink :=
  { sink with tokens := .flaw flaw :: sink.tokens }

def report (sink : Sink) (flaw : Flaw) : Sink :=
  if sink.wide then { sink with waiting := flaw :: sink.waiting } else sink.reportNow flaw

def release (sink : Sink) : Sink :=
  { sink with tokens := sink.waiting.map .flaw ++ sink.tokens, waiting := [] }

end Sink

/-- A tag under construction, its attributes sorted by name. The attribute read last is not among
them before the next one begins or the tag ends. -/
structure Tag where
  closing : Bool
  name : String
  attributes : List (String × String)
  latest : Option (String × String)

/-- Texts in which only one end tag is markup. -/
inductive Raw where
  | rcdata
  | rawtext
  | script
  | escapedScript
deriving DecidableEq, Repr

inductive ScriptState where
  | escapeStart
  | escapeStartDash
  | escapedDash
  | escapedDashDash
  | doubleEscapeStart (word : String)
  | doubleEscaped
  | doubleEscapedDash
  | doubleEscapedDashDash
  | doubleEscapedLess
  | doubleEscapeEnd (word : String)

inductive Quotation where
  | double
  | single
deriving DecidableEq, Repr

def Quotation.mark : Quotation → Char
  | .double => '"'
  | .single => '\''

inductive TagState where
  | name
  | beforeAttribute
  | attributeName
  | afterAttributeName
  | beforeValue
  | quotedValue (q : Quotation)
  | bareValue
  | afterQuotedValue
  | selfClosing

inductive CommentState where
  | start
  | startDash
  | inside
  | less
  | lessBang
  | lessBangDash
  | lessBangDashDash
  | endDash
  | ending
  | endBang
  | bogus

inductive DoctypeState where
  | start
  | beforeName
  | name
  | afterName
  | afterPublicKeyword
  | beforePublicId
  | publicId (q : Quotation)
  | afterPublicId
  | betweenIds
  | afterSystemKeyword
  | beforeSystemId
  | systemId (q : Quotation)
  | afterSystemId
  | bogus

inductive Place where
  | data
  | rcdata
  | value (state : TagState) (tag : Tag)

inductive ReferenceState where
  | start
  | afterName (named : Named)
  | ambiguous
  | number
  | hexStart (mark : Char)
  | hex (value : Nat)
  | decimal (value : Nat)

inductive State where
  | data
  | plaintext
  | raw (r : Raw)
  | script (s : ScriptState)
  | tagOpen
  | endTagOpen
  | declarationOpen
  | rawLess (r : Raw)
  | rawEndOpen (r : Raw)
  | rawEndName (r : Raw) (letters : String)
  | tag (s : TagState) (tag : Tag)
  | comment (s : CommentState) (text : String)
  | doctype (s : DoctypeState) (name : String)
  | reference (s : ReferenceState) (place : Place)

/-- A state, the number of following characters that it has already looked at, and the sink. -/
structure Scan where
  state : State
  skip : Nat
  sink : Sink

namespace Scan

def go (state : State) (sink : Sink) : Scan := ⟨state, 0, sink⟩

end Scan

def isSpace (c : Char) : Bool :=
  c = ' ' || c = '\n' || c = '\t' || c = '\x0c'

def lower (c : Char) : Char := c.toLower

def replacement : Char := '\ufffd'

end HtmlTemplate.Markup
