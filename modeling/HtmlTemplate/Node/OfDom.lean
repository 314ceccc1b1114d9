import HtmlTemplate.Dom.Builder
import HtmlTemplate.Node.Basic

/-!
Template nodes from parsed markup. Texts and comments become fragments; a doctype is only meaningful
at the start of a document and gives nothing.
-/

set_option autoImplicit false

namespace HtmlTemplate.Node

def literalText (s : String) : Option (Value String) :=
  some (.literal s)

def literalAttributes (attributes : List (String × String)) : Option (Value Attributes) :=
  if attributes.isEmpty then none else some (.literal (.ofList attributes))

mutual
def ofDom : Dom → Node
  | .comment s => .element ⟨none, none, none, literalText s⟩
  | .text s => .element ⟨none, none, some (.literal (.text s)), none⟩
  | .element name attributes children =>
    .element
      ⟨literalText name, literalAttributes attributes, some (.literal (bodyOfDoms children)), none⟩
  | .doctype _ => .empty
def ofDoms : List Dom → List Node
  | [] => []
  | node :: rest => ofDom node :: ofDoms rest
/-- The body for some children; one text alone is a text body. -/
def bodyOfDoms : List Dom → Body Node
  | [] => .empty
  | [.text s] => .text s
  | node :: rest => .nodes (ofDom node :: ofDoms rest)
end

/-- One node for the top level nodes of a document. Leading doctypes are dropped; several nodes are
wrapped in a fragment. -/
def ofDocument (document : List Dom) : Node :=
  match document.dropWhile (·.kind = .doctype) with
  | [] => .empty
  | [only] => ofDom only
  | several => .element ⟨none, none, some (.literal (.nodes (ofDoms several))), none⟩

def parse (options : Dom.Options) (text : String) : Dom.Report Node :=
  (Dom.parse options text).map ofDocument

end HtmlTemplate.Node
