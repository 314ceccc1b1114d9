set_option autoImplicit false

namespace HtmlTemplate.Markup

/-- A name, with the semicolon if it needs one, and the text for which it stands. -/
structure Named where
  name : String
  value : String
deriving DecidableEq, Repr

end HtmlTemplate.Markup
