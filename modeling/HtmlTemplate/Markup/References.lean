import HtmlTemplate.Markup.References.LowerAtoG
import HtmlTemplate.Markup.References.LowerHtoN
import HtmlTemplate.Markup.References.LowerOtoZ
import HtmlTemplate.Markup.References.UpperAtoM
import HtmlTemplate.Markup.References.UpperNtoZ

set_option autoImplicit false

namespace HtmlTemplate.Markup.References

def startingWith (c : Char) : List Named :=
  match c with
  | 'A' => upperA
  | 'B' => upperB
  | 'C' => upperC
  | 'D' => upperD
  | 'E' => upperE
  | 'F' => upperF
  | 'G' => upperG
  | 'H' => upperH
  | 'I' => upperI
  | 'J' => upperJ
  | 'K' => upperK
  | 'L' => upperL
  | 'M' => upperM
  | 'N' => upperN
  | 'O' => upperO
  | 'P' => upperP
  | 'Q' => upperQ
  | 'R' => upperR
  | 'S' => upperS
  | 'T' => upperT
  | 'U' => upperU
  | 'V' => upperV
  | 'W' => upperW
  | 'X' => upperX
  | 'Y' => upperY
  | 'Z' => upperZ
  | 'a' => lowerA
  | 'b' => lowerB
  | 'c' => lowerC
  | 'd' => lowerD
  | 'e' => lowerE
  | 'f' => lowerF
  | 'g' => lowerG
  | 'h' => lowerH
  | 'i' => lowerI
  | 'j' => lowerJ
  | 'k' => lowerK
  | 'l' => lowerL
  | 'm' => lowerM
  | 'n' => lowerN
  | 'o' => lowerO
  | 'p' => lowerP
  | 'q' => lowerQ
  | 'r' => lowerR
  | 's' => lowerS
  | 't' => lowerT
  | 'u' => lowerU
  | 'v' => lowerV
  | 'w' => lowerW
  | 'x' => lowerX
  | 'y' => lowerY
  | 'z' => lowerZ
  | _ => []

def longer (best : Option Named) (named : Named) : Option Named :=
  match best with
  | none => some named
  | some other => if other.name.length < named.name.length then some named else some other

/-- The longest name in the table with which a text begins. -/
def longest? (text : List Char) : Option Named :=
  match text with
  | [] => none
  | c :: _ =>
    ((startingWith c).filter fun named => named.name.toList.isPrefixOf text).foldl longer none

end HtmlTemplate.Markup.References
