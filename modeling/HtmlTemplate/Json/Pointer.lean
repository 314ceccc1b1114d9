/-!
Pointers into JSON values: the keys and indices on the way to a part, outermost first. In the text
of a pointer each key follows a slash; a slash or a tilde inside a key is escaped.
-/

set_option autoImplicit false

namespace HtmlTemplate.Pointer

def escape (c : Char) : List Char :=
  if c = '~' then ['~', '0'] else if c = '/' then ['~', '1'] else [c]

def keyText (key : String) : String :=
  String.ofList ('/' :: key.toList.flatMap escape)

def indexKey (i : Nat) : String :=
  toString i

def text (keys : List String) : String :=
  String.join (keys.map keyText)

end HtmlTemplate.Pointer
