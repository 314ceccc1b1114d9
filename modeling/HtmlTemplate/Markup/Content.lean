import HtmlTemplate.Markup.Comment
import HtmlTemplate.Markup.Doctype
import HtmlTemplate.Markup.Tag

/-!
Text between tags, and what a less-than sign in it begins. In raw text only the end tag with the
name of the last start tag is markup.
-/

set_option autoImplicit false

namespace HtmlTemplate.Markup

namespace Content

def onData (sink : Sink) (c : Char) : Scan :=
  if c = '&' then .go (.reference .start .data) sink
  else if c = '<' then .go .tagOpen sink
  else if c = '\x00' then .go .data ((sink.report .unexpectedNullCharacter).put c)
  else .go .data (sink.put c)

/-- A character that is text as it is, the null character being replaced. -/
def keep (state : State) (sink : Sink) (c : Char) : Scan :=
  if c = '\x00' then .go state ((sink.report .unexpectedNullCharacter).put replacement)
  else .go state (sink.put c)

def onRaw (r : Raw) (sink : Sink) (c : Char) : Scan :=
  if c = '<' then .go (.rawLess r) sink
  else if c = '&' && r = .rcdata then .go (.reference .start .rcdata) sink
  else if c = '-' && r = .escapedScript then .go (.script .escapedDash) (sink.put c)
  else keep (.raw r) sink c

def onTagOpen (sink : Sink) (c : Char) : Scan :=
  if c = '!' then .go .declarationOpen sink
  else if c = '/' then .go .endTagOpen sink
  else if c.isAlpha then Tag.onName sink .opening c
  else if c = '?' then Comment.onBogus (sink.report .unexpectedQuestionMarkInsteadOfTagName) "" c
  else onData ((sink.report .invalidFirstCharacterOfTagName).put '<') c

def onEndTagOpen (sink : Sink) (c : Char) : Scan :=
  if c.isAlpha then Tag.onName sink .ending c
  else if c = '>' then .go .data (sink.report .missingEndTagName)
  else Comment.onBogus (sink.report .invalidFirstCharacterOfTagName) "" c

def onDeclarationOpen (sink : Sink) (c : Char) (rest : List Char) : Scan :=
  if c = '-' && rest.head? = some '-' then ⟨.comment .start "", 1, sink⟩
  else if Doctype.beginsWith (c :: rest) "doctype" then ⟨.doctype .start "", 6, sink⟩
  else if "[CDATA[".toList.isPrefixOf (c :: rest) then
    ⟨.comment .bogus "[CDATA[", 6, sink.report .cdataInHtmlContent⟩
  else Comment.onBogus (sink.report .incorrectlyOpenedComment) "" c

def onRawLess (r : Raw) (sink : Sink) (c : Char) : Scan :=
  if c = '/' then .go (.rawEndOpen r) sink
  else if c = '!' && r = .script then .go (.script .escapeStart) (sink.write "<!")
  else if c.isAlpha && r = .escapedScript then
    .go (.script (.doubleEscapeStart ("".push (lower c)))) ((sink.put '<').put c)
  else onRaw r (sink.put '<') c

/-- Letters behind `</` that turn out to be no end tag. In a script that is not escaped they come
out in lower case and what follows is ordinary text. -/
def onNoEndTag (r : Raw) (sink : Sink) (letters : String) (c : Char) : Scan :=
  if r = .script then onData (sink.write ("</" ++ String.ofList (letters.toList.map lower))) c
  else onRaw r (sink.write ("</" ++ letters)) c

def onRawEndName (r : Raw) (sink : Sink) (letters : String) (c : Char) : Scan :=
  let name := String.ofList (letters.toList.map lower)
  let tag : Tag := { Tag.ending with name := name }
  if c.isAlpha then .go (.rawEndName r (letters.push c)) sink
  else if (isSpace c || c = '/' || c = '>') && name = sink.lastStart then Tag.onName sink tag c
  else onNoEndTag r sink letters c

def onRawEndOpen (r : Raw) (sink : Sink) (c : Char) : Scan :=
  if c.isAlpha then onRawEndName r sink "" c
  else onRaw r (sink.write "</") c

/-- Whether a character ends the word behind a less-than sign in an escaped script. -/
def endsWord (c : Char) : Bool :=
  isSpace c || c = '/' || c = '>'

def onDoubleEscaped (sink : Sink) (c : Char) : Scan :=
  if c = '-' then .go (.script .doubleEscapedDash) (sink.put c)
  else if c = '<' then .go (.script .doubleEscapedLess) (sink.put c)
  else keep (.script .doubleEscaped) sink c

/-- Scripts with a comment-like text, in which a nested script element hides an end tag. -/
def onScript (state : ScriptState) (sink : Sink) (c : Char) : Scan :=
  match state with
  | .escapeStart =>
    if c = '-' then .go (.script .escapeStartDash) (sink.put c) else onRaw .script sink c
  | .escapeStartDash =>
    if c = '-' then .go (.script .escapedDashDash) (sink.put c) else onRaw .script sink c
  | .escapedDash =>
    if c = '-' then .go (.script .escapedDashDash) (sink.put c) else onRaw .escapedScript sink c
  | .escapedDashDash =>
    if c = '-' then .go (.script .escapedDashDash) (sink.put c)
    else if c = '>' then .go (.raw .script) (sink.put c)
    else onRaw .escapedScript sink c
  | .doubleEscapeStart word =>
    if endsWord c then
      .go (if word = "script" then .script .doubleEscaped else .raw .escapedScript) (sink.put c)
    else if c.isAlpha then .go (.script (.doubleEscapeStart (word.push (lower c)))) (sink.put c)
    else onRaw .escapedScript sink c
  | .doubleEscaped => onDoubleEscaped sink c
  | .doubleEscapedDash =>
    if c = '-' then .go (.script .doubleEscapedDashDash) (sink.put c) else onDoubleEscaped sink c
  | .doubleEscapedDashDash =>
    if c = '-' then .go (.script .doubleEscapedDashDash) (sink.put c)
    else if c = '>' then .go (.raw .script) (sink.put c)
    else onDoubleEscaped sink c
  | .doubleEscapedLess =>
    if c = '/' then .go (.script (.doubleEscapeEnd "")) (sink.put c) else onDoubleEscaped sink c
  | .doubleEscapeEnd word =>
    if endsWord c then
      .go (if word = "script" then .raw .escapedScript else .script .doubleEscaped) (sink.put c)
    else if c.isAlpha then .go (.script (.doubleEscapeEnd (word.push (lower c)))) (sink.put c)
    else onDoubleEscaped sink c

def stopRaw (r : Raw) (sink : Sink) : Sink :=
  if r = .escapedScript then sink.report .eofInScriptHtmlCommentLikeText else sink

def stopScript (state : ScriptState) (sink : Sink) : Sink :=
  match state with
  | .escapeStart | .escapeStartDash => sink
  | _ => sink.report .eofInScriptHtmlCommentLikeText

end Content

end HtmlTemplate.Markup
