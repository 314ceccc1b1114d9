/-!
Texts of the system, such as names and paths: bytes, which need not be the UTF-8 of anything.
-/

set_option autoImplicit false

namespace HtmlTemplate

abbrev Bytes := List UInt8

namespace Bytes

def ofText (text : String) : Bytes :=
  text.toList.flatMap String.utf8EncodeChar

def text? (bytes : Bytes) : Option String :=
  String.fromUTF8? bytes.toByteArray

/-- A character, or bytes that are none although they may begin like one. -/
inductive Piece where
  | char (c : Char)
  | broken (bytes : Bytes)
deriving DecidableEq, Repr

def isSecond (first byte : UInt8) : Bool :=
  if first = 0xE0 then 0xA0 ≤ byte && byte ≤ 0xBF
  else if first = 0xED then 0x80 ≤ byte && byte ≤ 0x9F
  else if first = 0xF0 then 0x90 ≤ byte && byte ≤ 0xBF
  else if first = 0xF4 then 0x80 ≤ byte && byte ≤ 0x8F
  else 0xE1 ≤ first && first ≤ 0xF3 && 0x80 ≤ byte && byte ≤ 0xBF

/-- How many bytes behind a first one go on like a character, where there is none. -/
def goesOn (first : UInt8) : Bytes → Nat
  | second :: third :: _ =>
    if isSecond first second then
      if 0xF0 ≤ first && 0x80 ≤ third && third ≤ 0xBF then 2 else 1
    else 0
  | [second] => if isSecond first second then 1 else 0
  | [] => 0

/-- The pieces of some bytes, of which the first ones may be passed over. -/
def piecesFrom : (passed : Nat) → Bytes → List Piece
  | _, [] => []
  | passed + 1, _ :: rest => piecesFrom passed rest
  | 0, byte :: rest =>
    match (byte :: rest).toByteArray.utf8DecodeChar? 0 with
    | some c => .char c :: piecesFrom (c.utf8Size - 1) rest
    | none => .broken (byte :: rest.take (goesOn byte rest)) :: piecesFrom (goesOn byte rest) rest

def pieces (bytes : Bytes) : List Piece :=
  piecesFrom 0 bytes

def lossy (bytes : Bytes) : String :=
  String.ofList (bytes.pieces.map fun piece =>
    match piece with
    | .char c => c
    | .broken _ => '\ufffd')

end Bytes

end HtmlTemplate
