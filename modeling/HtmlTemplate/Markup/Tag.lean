import HtmlTemplate.Markup.Scan

/-!
Tags. The first of several attributes of one name counts; an end tag keeps none.
-/

set_option autoImplicit false

namespace HtmlTemplate.Markup

namespace Tag

def opening : Tag := ⟨false, "", [], none⟩
def ending : Tag := ⟨true, "", [], none⟩

def insert (key value : String) : List (String × String) → List (String × String)
  | [] => [(key, value)]
  | (k, v) :: rest =>
    if key < k then (key, value) :: (k, v) :: rest
    else if key = k then (k, v) :: rest
    else (k, v) :: insert key value rest

def pushName (tag : Tag) (c : Char) : Tag :=
  { tag with name := tag.name.push c }

def pushKey (tag : Tag) (c : Char) : Tag :=
  let (key, value) := tag.latest.getD ("", "")
  { tag with latest := some (key.push c, value) }

def writeValue (tag : Tag) (s : String) : Tag :=
  let (key, value) := tag.latest.getD ("", "")
  { tag with latest := some (key, value ++ s) }

def pushValue (tag : Tag) (c : Char) : Tag :=
  let (key, value) := tag.latest.getD ("", "")
  { tag with latest := some (key, value.push c) }

/-- The tag with its latest attribute among the others, and whether it repeats one of them. -/
def settled (tag : Tag) : Tag × Bool :=
  match tag.latest with
  | none => (tag, false)
  | some (key, value) =>
    ({ tag with attributes := insert key value tag.attributes, latest := none },
      tag.attributes.any fun entry => entry.1 = key)

end Tag

def settle (sink : Sink) (tag : Tag) : Sink × Tag :=
  let (tag, repeated) := tag.settled
  (if repeated then sink.reportNow .duplicateAttribute else sink, tag)

def stateAfter (name : String) : State :=
  if name = "textarea" || name = "title" then .raw .rcdata
  else if name = "plaintext" then .plaintext
  else if name = "script" then .raw .script
  else if ["style", "iframe", "xmp", "noembed", "noframe", "noscript"].contains name then
    .raw .rawtext
  else .data

def finishTag (sink : Sink) (tag : Tag) (selfClosing : Bool) : Scan :=
  if tag.closing then
    let sink := if selfClosing then sink.reportNow .endTagWithTrailingSolidus else sink
    let (sink, tag) := settle sink tag
    let sink := if tag.attributes.isEmpty then sink else sink.reportNow .endTagWithAttributes
    .go .data { sink.emit (.endTag tag.name) with lastStart := "" }
  else
    let (sink, tag) := settle sink tag
    .go (stateAfter tag.name)
      { sink.emit (.startTag tag.name tag.attributes selfClosing) with lastStart := tag.name }

namespace Tag

def onName (sink : Sink) (tag : Tag) (c : Char) : Scan :=
  if isSpace c then .go (.tag .beforeAttribute tag) sink
  else if c = '/' then .go (.tag .selfClosing tag) sink
  else if c = '>' then finishTag sink tag false
  else if c = '\x00' then
    .go (.tag .name (tag.pushName replacement)) (sink.report .unexpectedNullCharacter)
  else .go (.tag .name (tag.pushName (lower c))) sink

def onNameEnd (sink : Sink) (tag : Tag) (c : Char) : Scan :=
  if c = '/' then .go (.tag .selfClosing tag) sink
  else if c = '>' then finishTag sink tag false
  else .go (.tag .afterAttributeName tag) sink

def onAttributeName (sink : Sink) (tag : Tag) (c : Char) : Scan :=
  if isSpace c || c = '/' || c = '>' then onNameEnd sink tag c
  else if c = '=' then .go (.tag .beforeValue tag) sink
  else if c = '\x00' then
    .go (.tag .attributeName (tag.pushKey replacement)) (sink.report .unexpectedNullCharacter)
  else
    let sink :=
      if c = '"' || c = '\'' || c = '<' then sink.report .unexpectedCharacterInAttributeName
      else sink
    .go (.tag .attributeName (tag.pushKey (lower c))) sink

def onFreshName (sink : Sink) (tag : Tag) (c : Char) : Scan :=
  let (sink, tag) := settle sink tag
  onAttributeName sink { tag with latest := some ("", "") } c

def onBeforeAttribute (sink : Sink) (tag : Tag) (c : Char) : Scan :=
  if isSpace c then .go (.tag .beforeAttribute tag) sink
  else if c = '/' || c = '>' then onNameEnd sink tag c
  else if c = '=' then
    let (sink, tag) := settle (sink.report .unexpectedEqualsSignBeforeAttributeName) tag
    .go (.tag .attributeName { tag with latest := some ("=", "") }) sink
  else onFreshName sink tag c

def onAfterAttributeName (sink : Sink) (tag : Tag) (c : Char) : Scan :=
  if isSpace c || c = '/' || c = '>' then onNameEnd sink tag c
  else if c = '=' then .go (.tag .beforeValue tag) sink
  else onFreshName sink tag c

def onQuotedValue (q : Quotation) (sink : Sink) (tag : Tag) (c : Char) : Scan :=
  if c = q.mark then .go (.tag .afterQuotedValue tag) sink
  else if c = '&' then .go (.reference .start (.value (.quotedValue q) tag)) sink
  else if c = '\x00' then
    .go (.tag (.quotedValue q) (tag.pushValue replacement)) (sink.report .unexpectedNullCharacter)
  else .go (.tag (.quotedValue q) (tag.pushValue c)) sink

def onBareValue (sink : Sink) (tag : Tag) (c : Char) : Scan :=
  if isSpace c then .go (.tag .beforeAttribute tag) sink
  else if c = '&' then .go (.reference .start (.value .bareValue tag)) sink
  else if c = '>' then finishTag sink tag false
  else if c = '\x00' then
    .go (.tag .bareValue (tag.pushValue replacement)) (sink.report .unexpectedNullCharacter)
  else
    let sink :=
      if c = '"' || c = '\'' || c = '<' || c = '=' || c = '\x60' then
        sink.report .unexpectedCharacterInUnquotedAttributeValue
      else sink
    .go (.tag .bareValue (tag.pushValue c)) sink

def onBeforeValue (sink : Sink) (tag : Tag) (c : Char) : Scan :=
  if isSpace c then .go (.tag .beforeValue tag) sink
  else if c = '"' then .go (.tag (.quotedValue .double) tag) sink
  else if c = '\'' then .go (.tag (.quotedValue .single) tag) sink
  else if c = '>' then finishTag (sink.report .missingAttributeValue) tag false
  else onBareValue sink tag c

def onAfterQuotedValue (sink : Sink) (tag : Tag) (c : Char) : Scan :=
  if isSpace c then .go (.tag .beforeAttribute tag) sink
  else if c = '/' then .go (.tag .selfClosing tag) sink
  else if c = '>' then finishTag sink tag false
  else onBeforeAttribute (sink.report .missingWhitespaceBetweenAttributes) tag c

def onSelfClosing (sink : Sink) (tag : Tag) (c : Char) : Scan :=
  if c = '>' then finishTag sink tag true
  else onBeforeAttribute (sink.reportNow .unexpectedSolidusInTag) tag c

def step (state : TagState) (sink : Sink) (tag : Tag) (c : Char) : Scan :=
  match state with
  | .name => onName sink tag c
  | .beforeAttribute => onBeforeAttribute sink tag c
  | .attributeName => onAttributeName sink tag c
  | .afterAttributeName => onAfterAttributeName sink tag c
  | .beforeValue => onBeforeValue sink tag c
  | .quotedValue q => onQuotedValue q sink tag c
  | .bareValue => onBareValue sink tag c
  | .afterQuotedValue => onAfterQuotedValue sink tag c
  | .selfClosing => onSelfClosing sink tag c

end Tag

end HtmlTemplate.Markup
