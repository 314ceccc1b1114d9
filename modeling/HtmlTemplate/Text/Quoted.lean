import HtmlTemplate.Text.Bytes
import HtmlTemplate.Text.VisibleTable

/-!
Texts in quotes for messages. The quote and the backslash are escaped; characters that would not be
seen, or would join the one before them, are written by their code.
-/

set_option autoImplicit false

namespace HtmlTemplate.Text

def hexDigits (n : Nat) : List Char :=
  Nat.toDigits 16 n

def byCode (c : Char) : List Char :=
  ['\\', 'u', '\x7b'] ++ hexDigits c.toNat ++ ['\x7d']

def quoteChar (c : Char) : List Char :=
  if c = '"' then ['\\', '"']
  else if c = '\\' then ['\\', '\\']
  else if c = '\n' then ['\\', 'n']
  else if c = '\r' then ['\\', 'r']
  else if c = '\t' then ['\\', 't']
  else if c = '\x00' then ['\\', '0']
  else if ' ' ≤ c ∧ c ≤ '~' then [c]
  else if inRanges extendingRanges c || inRanges invisibleRanges c then byCode c
  else [c]

def quoted (s : String) : String :=
  String.ofList ('"' :: s.toList.flatMap quoteChar ++ ['"'])

def quotePathChar (c : Char) : List Char :=
  if c = '\'' then ['\\', '\''] else quoteChar c

def quoteByte (byte : UInt8) : List Char :=
  let digit (n : Nat) := (Nat.digitChar n).toUpper
  ['\\', 'x', digit (byte.toNat / 16), digit (byte.toNat % 16)]

def quotePiece : Bytes.Piece → List Char
  | .char c => quotePathChar c
  | .broken bytes => bytes.flatMap quoteByte

/-- A path in quotes has its single quotes escaped as well, and each byte that is no character. -/
def quotedPath (path : Bytes) : String :=
  String.ofList ('"' :: path.pieces.flatMap quotePiece ++ ['"'])

end HtmlTemplate.Text
