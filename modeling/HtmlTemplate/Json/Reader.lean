import HtmlTemplate.Entries
import HtmlTemplate.Json.Basic

/-!
Reading a JSON value from the front of a text. `readValue` gives the value and the rest of the
text; arrays and objects may be nested only as deep as the given room allows. A failure says what
is wrong and where, as a count of bytes.
-/

set_option autoImplicit false

namespace HtmlTemplate.Json

inductive Flaw where
  | unfinishedValue
  | unfinishedList
  | unfinishedObject
  | unfinishedString
  | expectedValue
  | expectedWord
  | expectedColon
  | expectedCommaOrBracket
  | expectedCommaOrBrace
  | expectedKey
  | trailingComma
  | trailingCharacters
  | invalidNumber
  | numberOutOfRange
  | controlCharacter
  | invalidEscape
  | unfinishedPair
  | loneSurrogate
  | tooDeep
deriving DecidableEq, Repr

def Flaw.message : Flaw → String
  | .unfinishedValue => "EOF while parsing a value"
  | .unfinishedList => "EOF while parsing a list"
  | .unfinishedObject => "EOF while parsing an object"
  | .unfinishedString => "EOF while parsing a string"
  | .expectedValue => "expected value"
  | .expectedWord => "expected ident"
  | .expectedColon => "expected \x60:\x60"
  | .expectedCommaOrBracket => "expected \x60,\x60 or \x60]\x60"
  | .expectedCommaOrBrace => "expected \x60,\x60 or \x60\x7d\x60"
  | .expectedKey => "key must be a string"
  | .trailingComma => "trailing comma"
  | .trailingCharacters => "trailing characters"
  | .invalidNumber => "invalid number"
  | .numberOutOfRange => "number out of range"
  | .controlCharacter => "control character (\\u0000-\\u001F) found while parsing a string"
  | .invalidEscape => "invalid escape"
  | .unfinishedPair => "unexpected end of hex escape"
  | .loneSurrogate => "lone leading surrogate in hex escape"
  | .tooDeep => "recursion limit exceeded"

/-- A flaw `bytes` bytes past the point where `rest` is what is left of the text. -/
structure Stop where
  flaw : Flaw
  rest : List Char
  bytes : Nat

def Stop.next (flaw : Flaw) (rest : List Char) : Stop :=
  ⟨flaw, rest, if rest.isEmpty then 0 else 1⟩

def Stop.here (flaw : Flaw) (rest : List Char) : Stop :=
  ⟨flaw, rest, 0⟩

/-- A step of reading: what was read and the rest of the text, or where reading stops. -/
abbrev Read (α : Type) :=
  Except Stop (α × List Char)

def isBlank (c : Char) : Bool :=
  c = ' ' || c = '\n' || c = '\t' || c = '\r'

def skipBlank (text : List Char) : List Char :=
  text.dropWhile isBlank

def readWord (value : Json) : List Char → List Char → Read Json
  | [], rest => .ok (value, rest)
  | _ :: _, [] => .error (.here .unfinishedValue [])
  | expected :: word, c :: rest =>
    if c = expected then readWord value word rest else .error (.next .expectedWord (c :: rest))

def hexValue? (c : Char) : Option Nat :=
  if '0' ≤ c ∧ c ≤ '9' then some (c.toNat - 48)
  else if 'a' ≤ c ∧ c ≤ 'f' then some (c.toNat - 87)
  else if 'A' ≤ c ∧ c ≤ 'F' then some (c.toNat - 55)
  else none

def fourHex? (a b c d : Char) : Option Nat := do
  let a ← hexValue? a
  let b ← hexValue? b
  let c ← hexValue? c
  let d ← hexValue? d
  return ((a * 16 + b) * 16 + c) * 16 + d

def bytesOf (text : List Char) : Nat :=
  text.foldr (fun c bytes => c.utf8Size + bytes) 0

def hexStop (text : List Char) : Stop :=
  if bytesOf text < 4 then .here .unfinishedString [] else ⟨.invalidEscape, text, 4⟩

def isLeading (unit : Nat) : Bool :=
  0xD800 ≤ unit && unit ≤ 0xDBFF

def isTrailing (unit : Nat) : Bool :=
  0xDC00 ≤ unit && unit ≤ 0xDFFF

def pairValue (leading trailing : Nat) : Nat :=
  0x10000 + (leading - 0xD800) * 0x400 + (trailing - 0xDC00)

def simpleEscape? (c : Char) : Option Char :=
  if c = '"' then some '"'
  else if c = '\\' then some '\\'
  else if c = '/' then some '/'
  else if c = 'b' then some '\x08'
  else if c = 'f' then some '\x0c'
  else if c = 'n' then some '\n'
  else if c = 'r' then some '\r'
  else if c = 't' then some '\t'
  else none

/-- The rest of a quoted text, `done` being what was read of it. -/
def readString (done : String) : List Char → Read String
  | [] => .error (.here .unfinishedString [])
  | c :: rest =>
    if c = '"' then .ok (done, rest)
    else if c = '\\' then
      match rest with
      | [] => .error (.here .unfinishedString [])
      | e :: rest =>
        if e = 'u' then
          match rest with
          | a :: b :: c :: d :: rest =>
            match fourHex? a b c d with
            | none => .error (hexStop (a :: b :: c :: d :: rest))
            | some unit =>
              if isTrailing unit then .error (.here .loneSurrogate rest)
              else if isLeading unit then
                match rest with
                | [] => .error (.here .unfinishedString [])
                | slash :: rest =>
                  if slash = '\\' then
                    match rest with
                    | [] => .error (.here .unfinishedString [])
                    | mark :: rest =>
                      if mark = 'u' then
                        match rest with
                        | a :: b :: c :: d :: rest =>
                          match fourHex? a b c d with
                          | none => .error (hexStop (a :: b :: c :: d :: rest))
                          | some second =>
                            if isTrailing second then
                              readString (done.push (Char.ofNat (pairValue unit second))) rest
                            else .error (.here .loneSurrogate rest)
                        | short => .error (hexStop short)
                      else .error (.next .unfinishedPair (mark :: rest))
                  else .error (.next .unfinishedPair (slash :: rest))
              else readString (done.push (Char.ofNat unit)) rest
          | short => .error (hexStop short)
        else
          match simpleEscape? e with
          | some plain => readString (done.push plain) rest
          | none => .error (.next .invalidEscape (e :: rest))
    else if c < ' ' then .error (.next .controlCharacter (c :: rest))
    else readString (done.push c) rest

/-! Numbers. The digits are gathered into a significand as long as it fits 64 bits; later integer
digits only raise the exponent and later fraction digits are dropped. -/

def significandLimit : Nat := Nat.pow 2 64 - 1
def exponentLimit : Nat := Nat.pow 2 31 - 1

def digitValue (c : Char) : Nat :=
  c.toNat - 48

/-- Digits taken as long as the value stays within `limit`: the value, their count, the rest. -/
def takeDigits (limit value count : Nat) : List Char → Nat × Nat × List Char
  | [] => (value, count, [])
  | c :: rest =>
    if c.isDigit && value * 10 + digitValue c ≤ limit then
      takeDigits limit (value * 10 + digitValue c) (count + 1) rest
    else (value, count, c :: rest)

def startsWithDigit : List Char → Bool
  | [] => false
  | c :: _ => c.isDigit

def startsWithExponent : List Char → Bool
  | [] => false
  | c :: _ => c = 'e' || c = 'E'

def powerOfTen (k : Nat) : Float :=
  Float.ofScientific 1 false k

/-- Divides by `10 ^ 308` until the exponent is in range or nothing is left. -/
def scaleDown (x : Float) (k : Nat) : Float :=
  if x == 0 then x
  else if k ≤ 308 then x / powerOfTen k
  else scaleDown (x / powerOfTen 308) (k - 308)
termination_by k

/-- `significand * 10 ^ exponent` in double arithmetic; nothing if it is out of range. -/
def scale? (significand : Nat) (exponent : Int) : Option Float :=
  let x := Float.ofNat significand
  if exponent < 0 then some (scaleDown x exponent.natAbs)
  else if 308 < exponent then if x == 0 then some x else none
  else
    let y := x * powerOfTen exponent.toNat
    if y.isInf then none else some y

def signed (positive : Bool) (x : Float) : Float :=
  if positive then x else -x

def finishReal (positive : Bool) (significand : Nat) (exponent : Int) (rest : List Char) :
    Read Number :=
  match scale? significand exponent with
  | some x => .ok (.real (signed positive x), rest)
  | none => .error (.here .numberOutOfRange rest)

def clampExponent (e : Int) : Int :=
  max (-(exponentLimit : Int) - 1) (min exponentLimit e)

/-- What follows the `e`. An exponent too large for 32 bits gives zero, or is out of range. -/
def readExponent (positive : Bool) (significand : Nat) (exponent : Int) (text : List Char) :
    Read Number :=
  let (raising, text) : Bool × List Char :=
    match text with
    | [] => (true, [])
    | c :: rest =>
      if c = '+' then (true, rest) else if c = '-' then (false, rest) else (true, c :: rest)
  match text with
  | [] => .error (.here .unfinishedValue [])
  | c :: rest =>
    if c.isDigit then
      let (value, _, rest) := takeDigits exponentLimit (digitValue c) 1 rest
      if startsWithDigit rest then
        if significand ≠ 0 && raising then .error (.here .numberOutOfRange (rest.drop 1))
        else .ok (.real (signed positive 0), rest.dropWhile Char.isDigit)
      else
        let exponent := if raising then exponent + value else exponent - value
        finishReal positive significand (clampExponent exponent) rest
    else .error (.next .invalidNumber (c :: rest))

def readFraction (positive : Bool) (significand : Nat) (exponent : Int) (text : List Char) :
    Read Number :=
  let (value, count, rest) := takeDigits significandLimit significand 0 text
  let exponent := exponent - count
  if count = 0 && !startsWithDigit rest then
    .error (.next (if rest.isEmpty then .unfinishedValue else .invalidNumber) rest)
  else
    let rest := rest.dropWhile Char.isDigit
    if startsWithExponent rest then readExponent positive value exponent (rest.drop 1)
    else finishReal positive value exponent rest

/-- An integer that fits 64 bits; zero with a minus sign and what lies below are doubles. -/
def finishInteger (positive : Bool) (significand : Nat) (rest : List Char) : Read Number :=
  if positive then .ok (.integer significand, rest)
  else if significand = 0 || Nat.pow 2 63 < significand then
    .ok (.real (-(Float.ofNat significand)), rest)
  else .ok (.integer (-(significand : Int)), rest)

def readTail (positive : Bool) (significand : Nat) (text : List Char) : Read Number :=
  if startsWithDigit text then
    let (dropped, rest) := (text.takeWhile Char.isDigit, text.dropWhile Char.isDigit)
    match rest with
    | [] => finishReal positive significand dropped.length []
    | c :: more =>
      if c = '.' then readFraction positive significand dropped.length more
      else if c = 'e' || c = 'E' then readExponent positive significand dropped.length more
      else finishReal positive significand dropped.length rest
  else
    match text with
    | [] => finishInteger positive significand []
    | c :: more =>
      if c = '.' then readFraction positive significand 0 more
      else if c = 'e' || c = 'E' then readExponent positive significand 0 more
      else finishInteger positive significand text

def readNumber (positive : Bool) : List Char → Read Number
  | [] => .error (.here .unfinishedValue [])
  | c :: rest =>
    if c = '0' then
      if startsWithDigit rest then .error (.next .invalidNumber rest) else readTail positive 0 rest
    else if c.isDigit then
      let (value, _, rest) := takeDigits significandLimit (digitValue c) 1 rest
      readTail positive value rest
    else .error (.next .invalidNumber (c :: rest))

/-! Arrays and objects. The readers of items and fields take the reader of values as an argument
and a bound on the number of items, for which the length of the text is enough. -/

variable (readItem : List Char → Read Json)

def readItems (items : List Json) : Nat → List Char → Read Json
  | 0, text => .error (.here .unfinishedList text)
  | bound + 1, text =>
    match skipBlank text with
    | [] => .error (.here .unfinishedList [])
    | c :: rest =>
      if c = ']' then .ok (.array items.reverse, rest)
      else if c = ',' then
        match skipBlank rest with
        | [] => .error (.here .unfinishedValue [])
        | d :: more =>
          if d = ']' then .error (.next .trailingComma (d :: more))
          else
            match readItem (d :: more) with
            | .ok (item, rest) => readItems (item :: items) bound rest
            | .error stop => .error stop
      else .error (.next .expectedCommaOrBracket (c :: rest))

def readArray (text : List Char) : Read Json :=
  match skipBlank text with
  | [] => .error (.here .unfinishedList [])
  | c :: rest =>
    if c = ']' then .ok (.array [], rest)
    else
      match readItem (c :: rest) with
      | .ok (item, rest) => readItems readItem [item] rest.length.succ rest
      | .error stop => .error stop

def readField (text : List Char) : Except Stop ((String × Json) × List Char) :=
  match text with
  | [] => .error (.here .unfinishedValue [])
  | c :: rest =>
    if c = '"' then
      match readString "" rest with
      | .error stop => .error stop
      | .ok (key, rest) =>
        match skipBlank rest with
        | [] => .error (.here .unfinishedObject [])
        | colon :: rest =>
          if colon = ':' then
            match readItem rest with
            | .ok (value, rest) => .ok ((key, value), rest)
            | .error stop => .error stop
          else .error (.next .expectedColon (colon :: rest))
    else .error (.next .expectedKey (c :: rest))

/-- What follows a field of an object. A repeated name keeps its place and takes the later value. -/
def readFields (fields : List (String × Json)) : Nat → List Char → Read Json
  | 0, text => .error (.here .unfinishedObject text)
  | bound + 1, text =>
    match skipBlank text with
    | [] => .error (.here .unfinishedObject [])
    | c :: rest =>
      if c = '\x7d' then .ok (.object fields, rest)
      else if c = ',' then
        match skipBlank rest with
        | [] => .error (.here .unfinishedValue [])
        | d :: more =>
          if d = '\x7d' then .error (.next .trailingComma (d :: more))
          else
            match readField readItem (d :: more) with
            | .ok ((key, value), rest) => readFields (Entries.set fields key value) bound rest
            | .error stop => .error stop
      else .error (.next .expectedCommaOrBrace (c :: rest))

def readObject (text : List Char) : Read Json :=
  match skipBlank text with
  | [] => .error (.here .unfinishedObject [])
  | c :: rest =>
    if c = '\x7d' then .ok (.object [], rest)
    else
      match readField readItem (c :: rest) with
      | .ok (field, rest) => readFields readItem [field] rest.length.succ rest
      | .error stop => .error stop

/-- A value and the rest of the text. Of `room + 1` levels of nesting the last is refused at its
opening bracket. -/
def readValue : Nat → List Char → Read Json
  | room, text =>
    match skipBlank text with
    | [] => .error (.here .unfinishedValue [])
    | c :: rest =>
      if c = 'n' then readWord .null ['u', 'l', 'l'] rest
      else if c = 't' then readWord (.bool true) ['r', 'u', 'e'] rest
      else if c = 'f' then readWord (.bool false) ['a', 'l', 's', 'e'] rest
      else if c = '"' then
        match readString "" rest with
        | .ok (s, rest) => .ok (.string s, rest)
        | .error stop => .error stop
      else if c = '-' then
        match readNumber false rest with
        | .ok (n, rest) => .ok (.number n, rest)
        | .error stop => .error stop
      else if c.isDigit then
        match readNumber true (c :: rest) with
        | .ok (n, rest) => .ok (.number n, rest)
        | .error stop => .error stop
      else if c = '[' then
        match room with
        | 0 => .error (.next .tooDeep (c :: rest))
        | room + 1 => readArray (readValue room) rest
      else if c = '\x7b' then
        match room with
        | 0 => .error (.next .tooDeep (c :: rest))
        | room + 1 => readObject (readValue room) rest
      else .error (.next .expectedValue (c :: rest))

/-- Where a flaw shows: the line, from 1, and the bytes read of it. -/
structure Position where
  line : Nat
  column : Nat
deriving DecidableEq, Repr

def Position.start : Position := ⟨1, 0⟩

def Position.advance (p : Position) (byte : UInt8) : Position :=
  if byte = 10 then ⟨p.line + 1, 0⟩ else ⟨p.line, p.column + 1⟩

def Position.ofOffset (text : String) (offset : Nat) : Position :=
  (text.toUTF8.toList.take offset).foldl Position.advance .start

def Position.text (p : Position) : String :=
  " at line " ++ toString p.line ++ " column " ++ toString p.column

structure Malformed where
  flaw : Flaw
  position : Position

def Malformed.message (m : Malformed) : String :=
  m.flaw.message ++ m.position.text

def Stop.within (stop : Stop) (text : String) : Malformed :=
  ⟨stop.flaw, .ofOffset text (text.utf8ByteSize - bytesOf stop.rest + stop.bytes)⟩

def nestingLimit : Nat := 127

def readEnd (rest : List Char) : Except Stop Unit :=
  match skipBlank rest with
  | [] => .ok ()
  | c :: more => .error (.next .trailingCharacters (c :: more))

def readFront (text : String) : Except Malformed (Json × List Char) :=
  (readValue nestingLimit text.toList).mapError (·.within text)

/-- The value that a text holds, with up to `room` nested arrays and objects. -/
def readWithin (room : Nat) (text : String) : Except Malformed Json :=
  match readValue room text.toList with
  | .error stop => .error (stop.within text)
  | .ok (value, rest) =>
    match readEnd rest with
    | .error stop => .error (stop.within text)
    | .ok () => .ok value

def read (text : String) : Except Malformed Json :=
  readWithin nestingLimit text

end HtmlTemplate.Json
