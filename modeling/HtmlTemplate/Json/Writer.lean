import HtmlTemplate.Json.Number

/-!
JSON as text, on one line or indented by two spaces. Only the quote, the backslash and the control
characters below the space are escaped.
-/

set_option autoImplicit false

namespace HtmlTemplate.Json

def hexDigit (n : Nat) : Char :=
  if n < 10 then Char.ofNat (48 + n) else Char.ofNat (87 + n)

def escape (c : Char) : List Char :=
  if c = '"' then ['\\', '"']
  else if c = '\\' then ['\\', '\\']
  else if c = '\x08' then ['\\', 'b']
  else if c = '\t' then ['\\', 't']
  else if c = '\n' then ['\\', 'n']
  else if c = '\x0c' then ['\\', 'f']
  else if c = '\r' then ['\\', 'r']
  else if c < ' ' then ['\\', 'u', '0', '0', hexDigit (c.toNat / 16), hexDigit (c.toNat % 16)]
  else [c]

def quote (s : String) : String :=
  String.ofList ('"' :: s.toList.flatMap escape ++ ['"'])

mutual
def compact : Json → String
  | .null => "null"
  | .bool b => if b then "true" else "false"
  | .number n => n.text
  | .string s => quote s
  | .array items => "[" ++ compactItems items ++ "]"
  | .object fields => "\x7b" ++ compactFields fields ++ "\x7d"
def compactItems : List Json → String
  | [] => ""
  | [item] => compact item
  | item :: rest => compact item ++ "," ++ compactItems rest
def compactFields : List (String × Json) → String
  | [] => ""
  | [(key, value)] => quote key ++ ":" ++ compact value
  | (key, value) :: rest => quote key ++ ":" ++ compact value ++ "," ++ compactFields rest
end

def lineBreak (level : Nat) : String :=
  String.ofList ('\n' :: List.replicate (2 * level) ' ')

mutual
def prettyAt (level : Nat) : Json → String
  | .array [] => "[]"
  | .array items => "[" ++ prettyItems (level + 1) items ++ lineBreak level ++ "]"
  | .object [] => "\x7b\x7d"
  | .object fields => "\x7b" ++ prettyFields (level + 1) fields ++ lineBreak level ++ "\x7d"
  | .null => "null"
  | .bool b => if b then "true" else "false"
  | .number n => n.text
  | .string s => quote s
def prettyItems (level : Nat) : List Json → String
  | [] => ""
  | [item] => lineBreak level ++ prettyAt level item
  | item :: rest => lineBreak level ++ prettyAt level item ++ "," ++ prettyItems level rest
def prettyFields (level : Nat) : List (String × Json) → String
  | [] => ""
  | [(key, value)] => lineBreak level ++ quote key ++ ": " ++ prettyAt level value
  | (key, value) :: rest =>
    lineBreak level ++ quote key ++ ": " ++ prettyAt level value ++ "," ++ prettyFields level rest
end

def pretty (value : Json) : String :=
  prettyAt 0 value

end HtmlTemplate.Json
