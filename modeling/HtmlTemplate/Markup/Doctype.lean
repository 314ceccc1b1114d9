import HtmlTemplate.Markup.Scan

/-!
Doctypes. Only the name is kept; the identifiers are read for their flaws.
-/

set_option autoImplicit false

namespace HtmlTemplate.Markup.Doctype

def finish (sink : Sink) (name : String) : Scan :=
  .go .data (sink.emit (.doctype name))

def onBogus (sink : Sink) (name : String) (c : Char) : Scan :=
  if c = '>' then finish sink name
  else if c = '\x00' then .go (.doctype .bogus name) (sink.report .unexpectedNullCharacter)
  else .go (.doctype .bogus name) sink

def quotation? (c : Char) : Option Quotation :=
  if c = '"' then some .double else if c = '\'' then some .single else none

def onName (sink : Sink) (name : String) (c : Char) : Scan :=
  if isSpace c then .go (.doctype .afterName name) sink
  else if c = '>' then finish sink name
  else if c = '\x00' then
    .go (.doctype .name (name.push replacement)) (sink.report .unexpectedNullCharacter)
  else .go (.doctype .name (name.push (lower c))) sink

def onBeforeName (sink : Sink) (name : String) (c : Char) : Scan :=
  if isSpace c then .go (.doctype .beforeName name) sink
  else if c = '>' then finish (sink.report .missingDoctypeName) name
  else onName sink name c

def onStart (sink : Sink) (name : String) (c : Char) : Scan :=
  if isSpace c then .go (.doctype .beforeName name) sink
  else if c = '>' then onBeforeName sink name c
  else onBeforeName (sink.report .missingWhitespaceBeforeDoctypeName) name c

def beginsWith (text : List Char) (word : String) : Bool :=
  (text.take word.length).map lower = word.toList

def onAfterName (sink : Sink) (name : String) (c : Char) (rest : List Char) : Scan :=
  if isSpace c then .go (.doctype .afterName name) sink
  else if c = '>' then finish sink name
  else if beginsWith (c :: rest) "public" then ⟨.doctype .afterPublicKeyword name, 5, sink⟩
  else if beginsWith (c :: rest) "system" then ⟨.doctype .afterSystemKeyword name, 5, sink⟩
  else onBogus (sink.report .invalidCharacterSequenceAfterDoctypeName) name c

def onAfterPublicKeyword (sink : Sink) (name : String) (c : Char) : Scan :=
  if isSpace c then .go (.doctype .beforePublicId name) sink
  else if c = '>' then finish (sink.report .missingDoctypePublicIdentifier) name
  else
    match quotation? c with
    | some q =>
      .go (.doctype (.publicId q) name) (sink.report .missingWhitespaceAfterDoctypePublicKeyword)
    | none => onBogus (sink.report .missingQuoteBeforeDoctypePublicIdentifier) name c

def onBeforePublicId (sink : Sink) (name : String) (c : Char) : Scan :=
  if isSpace c then .go (.doctype .beforePublicId name) sink
  else if c = '>' then finish (sink.report .missingDoctypePublicIdentifier) name
  else
    match quotation? c with
    | some q => .go (.doctype (.publicId q) name) sink
    | none => onBogus (sink.report .missingQuoteBeforeDoctypePublicIdentifier) name c

def onPublicId (q : Quotation) (sink : Sink) (name : String) (c : Char) : Scan :=
  if c = q.mark then .go (.doctype .afterPublicId name) sink
  else if c = '>' then finish (sink.report .abruptDoctypePublicIdentifier) name
  else if c = '\x00' then .go (.doctype (.publicId q) name) (sink.report .unexpectedNullCharacter)
  else .go (.doctype (.publicId q) name) sink

def onAfterPublicId (sink : Sink) (name : String) (c : Char) : Scan :=
  if isSpace c then .go (.doctype .betweenIds name) sink
  else if c = '>' then finish sink name
  else
    match quotation? c with
    | some q =>
      .go (.doctype (.systemId q) name)
        (sink.report .missingWhitespaceBetweenDoctypePublicAndSystemIdentifiers)
    | none => onBogus (sink.report .missingQuoteBeforeDoctypeSystemIdentifier) name c

def onBetweenIds (sink : Sink) (name : String) (c : Char) : Scan :=
  if isSpace c then .go (.doctype .betweenIds name) sink
  else if c = '>' then finish sink name
  else
    match quotation? c with
    | some q => .go (.doctype (.systemId q) name) sink
    | none => onBogus (sink.report .missingQuoteBeforeDoctypeSystemIdentifier) name c

def onAfterSystemKeyword (sink : Sink) (name : String) (c : Char) : Scan :=
  if isSpace c then .go (.doctype .beforeSystemId name) sink
  else if c = '>' then finish (sink.report .missingDoctypeSystemIdentifier) name
  else
    match quotation? c with
    | some q =>
      .go (.doctype (.systemId q) name) (sink.report .missingWhitespaceAfterDoctypeSystemKeyword)
    | none => onBogus (sink.report .missingQuoteBeforeDoctypeSystemIdentifier) name c

def onBeforeSystemId (sink : Sink) (name : String) (c : Char) : Scan :=
  if isSpace c then .go (.doctype .beforeSystemId name) sink
  else if c = '>' then finish (sink.report .missingDoctypeSystemIdentifier) name
  else
    match quotation? c with
    | some q => .go (.doctype (.systemId q) name) sink
    | none => onBogus (sink.report .missingQuoteBeforeDoctypeSystemIdentifier) name c

def onSystemId (q : Quotation) (sink : Sink) (name : String) (c : Char) : Scan :=
  if c = q.mark then .go (.doctype .afterSystemId name) sink
  else if c = '>' then finish (sink.report .abruptDoctypeSystemIdentifier) name
  else if c = '\x00' then .go (.doctype (.systemId q) name) (sink.report .unexpectedNullCharacter)
  else .go (.doctype (.systemId q) name) sink

def onAfterSystemId (sink : Sink) (name : String) (c : Char) : Scan :=
  if isSpace c then .go (.doctype .afterSystemId name) sink
  else if c = '>' then finish sink name
  else onBogus (sink.report .unexpectedCharacterAfterDoctypeSystemIdentifier) name c

def step (state : DoctypeState) (sink : Sink) (name : String) (c : Char) (rest : List Char) :
    Scan :=
  match state with
  | .start => onStart sink name c
  | .beforeName => onBeforeName sink name c
  | .name => onName sink name c
  | .afterName => onAfterName sink name c rest
  | .afterPublicKeyword => onAfterPublicKeyword sink name c
  | .beforePublicId => onBeforePublicId sink name c
  | .publicId q => onPublicId q sink name c
  | .afterPublicId => onAfterPublicId sink name c
  | .betweenIds => onBetweenIds sink name c
  | .afterSystemKeyword => onAfterSystemKeyword sink name c
  | .beforeSystemId => onBeforeSystemId sink name c
  | .systemId q => onSystemId q sink name c
  | .afterSystemId => onAfterSystemId sink name c
  | .bogus => onBogus sink name c

def stop (state : DoctypeState) (sink : Sink) (name : String) : Sink :=
  match state with
  | .bogus => sink.emit (.doctype name)
  | _ => (sink.report .eofInDoctype).emit (.doctype name)

end HtmlTemplate.Markup.Doctype
