import HtmlTemplate.Dom.Basic
import HtmlTemplate.Error
import HtmlTemplate.Markup.Tokenizer
import HtmlTemplate.Notice

/-!
A document from tokens, by a stack of open elements. An end tag closes the innermost open element
of its name and all inside of it; one that closes nothing is ignored. What is open at the end is
closed there.
-/

set_option autoImplicit false

namespace HtmlTemplate

namespace Dom

open Markup (Token)

def voidElements : List String :=
  ["area", "base", "br", "col", "command", "embed", "hr", "img", "input", "keygen", "link", "meta",
    "param", "source", "track", "wbr"]

def isVoid (name : String) : Bool :=
  voidElements.contains name

/-- How documents are built: whether the first flaw of the markup ends building, and how many
elements may be open at once. -/
structure Options where
  strict : Bool
  limit : Nat

def Options.default : Options := ⟨false, 512⟩

/-- An element whose end tag is still to come; its children so far, the latest first. -/
structure Frame where
  name : String
  attributes : List (String × String)
  children : List Dom

def Frame.close (frame : Frame) : Dom :=
  .element frame.name frame.attributes frame.children.reverse

/-- The open elements, the innermost first; the finished top level nodes and the notices so far, the
latest first. -/
structure Builder where
  opened : List Frame
  top : List Dom
  notices : List Notice

namespace Builder

def empty : Builder := ⟨[], [], []⟩

def modifyCurrent (b : Builder) (f : List Dom → List Dom) : Builder :=
  match b.opened with
  | [] => { b with top := f b.top }
  | frame :: outer => { b with opened := { frame with children := f frame.children } :: outer }

def push (b : Builder) (node : Dom) : Builder :=
  b.modifyCurrent (node :: ·)

def joinText (s : String) : List Dom → List Dom
  | .text before :: rest => .text (before ++ s) :: rest
  | nodes => .text s :: nodes

def pushText (b : Builder) (s : String) : Builder :=
  b.modifyCurrent (joinText s)

def notice (b : Builder) (n : Notice) : Builder :=
  { b with notices := n :: b.notices }

def closeInnermost (b : Builder) : Builder :=
  match b.opened with
  | [] => b
  | frame :: outer => { b with opened := outer }.push frame.close

def close : Nat → Builder → Builder
  | 0, b => b
  | n + 1, b => close n b.closeInnermost

def startTag (limit : Nat) (b : Builder) (name : String) (attributes : List (String × String))
    (selfClosing : Bool) : Except Error Builder :=
  if selfClosing || isVoid name then .ok (b.push (.element name attributes []))
  else if limit ≤ b.opened.length then .error (.tooDeep limit)
  else .ok { b with opened := ⟨name, attributes, []⟩ :: b.opened }

def endTag (b : Builder) (name : String) : Builder :=
  match b.opened.findIdx? (·.name = name) with
  | some depth => close (depth + 1) b
  | none => if isVoid name then b else b.notice (.strayEndTag name)

def step (options : Options) (b : Builder) : Token → Except Error Builder
  | .startTag name attributes selfClosing => b.startTag options.limit name attributes selfClosing
  | .endTag name => .ok (b.endTag name)
  | .text s => .ok (b.pushText s)
  | .comment s => .ok (b.push (.comment s))
  | .doctype name => .ok (b.push (.doctype name))
  | .flaw flaw =>
    if options.strict then .error (.malformedMarkup flaw) else .ok (b.notice (.ignoredFlaw flaw))

def run (options : Options) (b : Builder) : List Token → Builder × Option Error
  | [] => (b, none)
  | token :: rest =>
    match b.step options token with
    | .ok b => b.run options rest
    | .error e => (b, some e)

def finish (b : Builder) : Builder :=
  match b.opened.length with
  | 0 => b
  | count => close count (b.notice (.leftOpen count))

end Builder

structure Report (α : Type) where
  outcome : Except Error α
  notices : List Notice

def Report.map {α β : Type} (f : α → β) (report : Report α) : Report β :=
  ⟨report.outcome.map f, report.notices⟩

def build (options : Options) (tokens : List Token) : Report (List Dom) :=
  match Builder.empty.run options tokens with
  | (b, some e) => ⟨.error e, b.notices.reverse⟩
  | (b, none) =>
    let b := b.finish
    ⟨.ok b.top.reverse, b.notices.reverse⟩

def parse (options : Options) (text : String) : Report (List Dom) :=
  build options (Markup.tokenize text)

end Dom

end HtmlTemplate
