import HtmlTemplate.Markup.Flaw

set_option autoImplicit false

namespace HtmlTemplate.Markup

inductive Token where
  | startTag (name : String) (attributes : List (String × String)) (selfClosing : Bool)
  | endTag (name : String)
  | text (s : String)
  | comment (s : String)
  | doctype (name : String)
  | flaw (f : Flaw)
deriving DecidableEq, Repr

end HtmlTemplate.Markup
