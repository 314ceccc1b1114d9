import HtmlTemplate.Markup.Content
import HtmlTemplate.Markup.References

/-!
Character references by name or number. What they stand for goes where the ampersand was met.
-/

set_option autoImplicit false

namespace HtmlTemplate.Markup

namespace Place

def write (place : Place) (sink : Sink) (s : String) : Sink × Place :=
  match place with
  | .data => (sink.write s, .data)
  | .rcdata => (sink.write s, .rcdata)
  | .value state tag => (sink, .value state (tag.writeValue s))

def resume (place : Place) (sink : Sink) (c : Char) : Scan :=
  match place with
  | .data => Content.onData sink c
  | .rcdata => Content.onRaw .rcdata sink c
  | .value state tag => Tag.step state sink tag c

def stop (place : Place) (sink : Sink) : Sink :=
  match place with
  | .data => sink
  | .rcdata => sink
  | .value _ _ => sink.report .eofInTag

def inAttribute : Place → Bool
  | .value _ _ => true
  | _ => false

end Place

namespace Reference

/-- What the codes from 0x80 to 0x9F stand for. -/
def replacements : List (Nat × Nat) :=
  [(0x80, 0x20AC), (0x82, 0x201A), (0x83, 0x0192), (0x84, 0x201E), (0x85, 0x2026), (0x86, 0x2020),
    (0x87, 0x2021), (0x88, 0x02C6), (0x89, 0x2030), (0x8A, 0x0160), (0x8B, 0x2039), (0x8C, 0x0152),
    (0x8E, 0x017D), (0x91, 0x2018), (0x92, 0x2019), (0x93, 0x201C), (0x94, 0x201D), (0x95, 0x2022),
    (0x96, 0x2013), (0x97, 0x2014), (0x98, 0x02DC), (0x99, 0x2122), (0x9A, 0x0161), (0x9B, 0x203A),
    (0x9C, 0x0153), (0x9E, 0x017E), (0x9F, 0x0178)]

def isControl (n : Nat) : Bool :=
  n < 0x20 || (0x7F ≤ n && n ≤ 0x9F)

def isNoncharacter (n : Nat) : Bool :=
  (0xFDD0 ≤ n && n ≤ 0xFDEF) || 0xFFFE ≤ n % 0x10000

def codeFlaw? (n : Nat) : Option Flaw :=
  if n = 0 then some .nullCharacterReference
  else if 0x10FFFF < n then some .characterReferenceOutsideUnicodeRange
  else if 0xD800 ≤ n ∧ n ≤ 0xDFFF then some .surrogateCharacterReference
  else if isNoncharacter n then some .noncharacterCharacterReference
  else if n = 0x0D ∨ (isControl n ∧ n ≠ 0x09 ∧ n ≠ 0x0A ∧ n ≠ 0x0C) then
    some .controlCharacterReference
  else none

def codeChar (n : Nat) : Char :=
  if n = 0 ∨ 0x10FFFF < n ∨ (0xD800 ≤ n ∧ n ≤ 0xDFFF) then replacement
  else Char.ofNat ((replacements.lookup n).getD n)

def finishNumber (sink : Sink) (place : Place) (n : Nat) : Sink × Place :=
  let sink := match codeFlaw? n with
    | some flaw => sink.report flaw
    | none => sink
  place.write sink (String.singleton (codeChar n))

/-- A larger code is as far outside of the range as the first one. -/
def pushDigit (base value digit : Nat) : Nat :=
  min (value * base + digit) 0x110000

def digit? (c : Char) : Option Nat :=
  if c.isDigit then some (c.toNat - 48) else none

def hexDigit? (c : Char) : Option Nat :=
  if c.isDigit then some (c.toNat - 48)
  else if 'a' ≤ c ∧ c ≤ 'f' then some (c.toNat - 87)
  else if 'A' ≤ c ∧ c ≤ 'F' then some (c.toNat - 55)
  else none

def onAmbiguous (sink : Sink) (place : Place) (c : Char) : Scan :=
  if c.isAlphanum then
    let (sink, place) := place.write sink (String.singleton c)
    .go (.reference .ambiguous place) sink
  else if c = ';' then place.resume (sink.report .unknownNamedCharacterReference) c
  else place.resume sink c

def endsInSemicolon (named : Named) : Bool :=
  named.name.toList.getLast? = some ';'

/-- The character behind a name. In an attribute a name without semicolon before an equals sign, a
letter or a digit is plain text. -/
def onAfterName (named : Named) (sink : Sink) (place : Place) (c : Char) : Scan :=
  if endsInSemicolon named then
    let (sink, place) := place.write sink named.value
    place.resume sink c
  else if place.inAttribute && (c = '=' || c.isAlphanum) then
    let (sink, place) := place.write sink ("&" ++ named.name)
    place.resume sink c
  else
    let sink := sink.report .missingSemicolonAfterCharacterReference
    let (sink, place) := place.write sink named.value
    place.resume sink c

def onStart (sink : Sink) (place : Place) (c : Char) (rest : List Char) : Scan :=
  if c = '#' then .go (.reference .number place) sink
  else if c.isAlphanum then
    match References.longest? (c :: rest) with
    | some named => ⟨.reference (.afterName named) place, named.name.length - 1, sink⟩
    | none =>
      let (sink, place) := place.write sink "&"
      onAmbiguous sink place c
  else
    let (sink, place) := place.write sink "&"
    place.resume sink c

/-- A numeric reference without a digit is plain text. -/
def onNoDigit (read : String) (sink : Sink) (place : Place) (c : Char) : Scan :=
  let (sink, place) := place.write (sink.report .absenceOfDigitsInNumericCharacterReference) read
  place.resume sink c

def onNumberEnd (value : Nat) (sink : Sink) (place : Place) (c : Char) : Scan :=
  if c = ';' then
    let (sink, place) := finishNumber sink place value
    match place with
    | .data => .go .data sink
    | .rcdata => .go (.raw .rcdata) sink
    | .value state tag => .go (.tag state tag) sink
  else
    let sink := sink.report .missingSemicolonAfterCharacterReference
    let (sink, place) := finishNumber sink place value
    place.resume sink c

def step (state : ReferenceState) (sink : Sink) (place : Place) (c : Char) (rest : List Char) :
    Scan :=
  match state with
  | .start => onStart sink place c rest
  | .afterName named => onAfterName named sink place c
  | .ambiguous => onAmbiguous sink place c
  | .number =>
    if c = 'x' || c = 'X' then .go (.reference (.hexStart c) place) sink
    else
      match digit? c with
      | some d => .go (.reference (.decimal d) place) sink
      | none => onNoDigit "&#" sink place c
  | .hexStart mark =>
    match hexDigit? c with
    | some d => .go (.reference (.hex d) place) sink
    | none => onNoDigit (String.push "&#" mark) sink place c
  | .hex value =>
    match hexDigit? c with
    | some d => .go (.reference (.hex (pushDigit 16 value d)) place) sink
    | none => onNumberEnd value sink place c
  | .decimal value =>
    match digit? c with
    | some d => .go (.reference (.decimal (pushDigit 10 value d)) place) sink
    | none => onNumberEnd value sink place c

def stop (state : ReferenceState) (sink : Sink) (place : Place) : Sink :=
  let (sink, place) :=
    match state with
    | .start => place.write sink "&"
    | .afterName named =>
      let sink :=
        if endsInSemicolon named then sink else sink.report .missingSemicolonAfterCharacterReference
      place.write sink named.value
    | .ambiguous => (sink, place)
    | .number => place.write (sink.report .absenceOfDigitsInNumericCharacterReference) "&#"
    | .hexStart mark =>
      place.write (sink.report .absenceOfDigitsInNumericCharacterReference) (String.push "&#" mark)
    | .hex value | .decimal value =>
      finishNumber (sink.report .missingSemicolonAfterCharacterReference) place value
  place.stop sink

end Reference

end HtmlTemplate.Markup
