import HtmlTemplate.Markup.Reference

/-!
Markup text as tokens, after the tokenization rules of the HTML standard. The text is read one
character at a time; a state that has looked ahead skips what it has seen.
-/

set_option autoImplicit false

namespace HtmlTemplate.Markup

def State.step (state : State) (sink : Sink) (c : Char) (rest : List Char) : Scan :=
  match state with
  | .data => Content.onData sink c
  | .plaintext => Content.keep .plaintext sink c
  | .raw r => Content.onRaw r sink c
  | .script s => Content.onScript s sink c
  | .tagOpen => Content.onTagOpen sink c
  | .endTagOpen => Content.onEndTagOpen sink c
  | .declarationOpen => Content.onDeclarationOpen sink c rest
  | .rawLess r => Content.onRawLess r sink c
  | .rawEndOpen r => Content.onRawEndOpen r sink c
  | .rawEndName r letters => Content.onRawEndName r sink letters c
  | .tag s current => Tag.step s sink current c
  | .comment s text => Comment.step s sink text c
  | .doctype s name => Doctype.step s sink name c rest
  | .reference s place => Reference.step s sink place c rest

/-- The end of the text in a state. A tag that is not complete is dropped. -/
def State.stop (state : State) (sink : Sink) : Sink :=
  match state with
  | .data | .plaintext => sink
  | .raw r => Content.stopRaw r sink
  | .script s => Content.stopScript s sink
  | .tagOpen => (sink.report .eofBeforeTagName).put '<'
  | .endTagOpen => (sink.report .eofBeforeTagName).write "</"
  | .declarationOpen => (sink.report .incorrectlyOpenedComment).emit (.comment "")
  | .rawLess r => Content.stopRaw r (sink.put '<')
  | .rawEndOpen r => Content.stopRaw r (sink.write "</")
  | .rawEndName r letters =>
    if r = .script then sink.write ("</" ++ String.ofList (letters.toList.map lower))
    else Content.stopRaw r (sink.write ("</" ++ letters))
  | .tag _ _ => sink.report .eofInTag
  | .comment s text => Comment.stop s sink text
  | .doctype s name => Doctype.stop s sink name
  | .reference s place => Reference.stop s sink place

def charFlaw? (c : Char) : Option Flaw :=
  if Reference.isControl c.toNat && !(isSpace c || c = '\r' || c = '\x00') then
    some .controlCharacterInInputStream
  else if Reference.isNoncharacter c.toNat then some .noncharacterInInputStream
  else none

def Sink.check (sink : Sink) (c : Char) : Sink :=
  match charFlaw? c with
  | some flaw => sink.reportNow flaw
  | none => sink

namespace Scan

def start : Scan := ⟨.data, 0, .empty⟩

/-- Reads one character. A flaw of the character itself comes before those of the state, except
that outside of ASCII the state sees the character first. -/
def read (scan : Scan) (c : Char) (rest : List Char) : Scan :=
  let sink := scan.sink.release
  match scan.skip with
  | skip + 1 => { scan with skip := skip, sink := { sink with wide := false } }
  | 0 =>
    if c.toNat < 0x80 then scan.state.step ({ sink with wide := false }.check c) c rest
    else
      let next := scan.state.step { sink with wide := true } c rest
      { next with sink := next.sink.check c }

def run (scan : Scan) : List Char → Scan
  | [] => scan
  | c :: rest => (scan.read c rest).run rest

def tokens (scan : Scan) : List Token :=
  (scan.state.stop scan.sink.release).release.flush.tokens.reverse

end Scan

def normalizeNewlines : List Char → List Char
  | [] => []
  | '\r' :: '\n' :: rest => '\n' :: normalizeNewlines rest
  | c :: rest => (if c = '\r' then '\n' else c) :: normalizeNewlines rest

def tokenize (text : String) : List Token :=
  (Scan.start.run (normalizeNewlines text.toList)).tokens

end HtmlTemplate.Markup
