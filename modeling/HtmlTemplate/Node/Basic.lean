import HtmlTemplate.Attributes
import HtmlTemplate.Json.Basic

/-!
Template nodes: a tree that describes HTML. A node is a text, an element or a reference to a
template; an element without a tag is a fragment.
-/

set_option autoImplicit false

namespace HtmlTemplate

inductive Body (ν : Type) where
  | text (s : String)
  | nodes (children : List ν)

def Body.empty {ν : Type} : Body ν := .text ""

/-- An element over nodes `ν`. A field that is absent is not the same as an empty one. -/
structure Element (ν : Type) where
  tag : Option (Value String)
  attributes : Option (Value Attributes)
  body : Option (Value (Body ν))
  comment : Option (Value String)

structure Reference where
  name : String
  params : Json

inductive Node where
  | text (s : String)
  | element (e : Element Node)
  | reference (r : Reference)

namespace Node

def empty : Node := .text ""

instance : Inhabited Node := ⟨empty⟩

mutual
/-- The references of a tree in order, those behind deferred values left out. -/
def references : Node → List Reference
  | .text _ => []
  | .reference r => [r]
  | .element ⟨_, _, some (.literal (.nodes children)), _⟩ => referencesOf children
  | .element _ => []
def referencesOf : List Node → List Reference
  | [] => []
  | node :: rest => references node ++ referencesOf rest
end

end Node

end HtmlTemplate
