import HtmlTemplate.Text.CaseTable

/-!
The full lower case of a text. All characters but two map on their own to one character; capital I
with dot above gives two, and capital sigma takes its final form at the end of a word.
-/

set_option autoImplicit false

namespace HtmlTemplate.Text

def isUppercase (c : Char) : Bool := inSpans uppercaseSpans c
def isCased (c : Char) : Bool := inSpans casedSpans c
def isIgnorable (c : Char) : Bool := inSpans ignorableSpans c

def lowercaseChar (c : Char) : List Char :=
  if c = '\u0130' then ['i', '\u0307']
  else
    match lowercaseSpans.find? (·.span.holds c.toNat) with
    | some s => [Char.ofNat (c.toNat + s.shift).toNat]
    | none => [c]

/-- Whether a cased character comes next, ignorable ones passed over. -/
def meetsCased (text : List Char) : Bool :=
  match text.dropWhile isIgnorable with
  | [] => false
  | c :: _ => isCased c

/-- The lower case of a text that follows `before`, which is given from its end. -/
def lowercaseAfter (before : List Char) : List Char → List Char
  | [] => []
  | c :: rest =>
    let lowered :=
      if c = '\u03a3' then
        if meetsCased before && !meetsCased rest then ['\u03c2'] else ['\u03c3']
      else lowercaseChar c
    lowered ++ lowercaseAfter (c :: before) rest

def lowercase (s : String) : String :=
  String.ofList (lowercaseAfter [] s.toList)

end HtmlTemplate.Text
