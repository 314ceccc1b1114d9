import HtmlTemplate.Json.Pointer
import HtmlTemplate.Json.Writer
import HtmlTemplate.Node.Basic

/-!
The JSON form of nodes. Deferred values have none: the first one is pointed at.
-/

set_option autoImplicit false

namespace HtmlTemplate.Node

/-- Either a value, or the pointer to the first deferred value. -/
abbrev Written (α : Type) := Except (List String) α

def beneath {α : Type} (key : String) (outcome : Written α) : Written α :=
  outcome.mapError (key :: ·)

def literalOf {α : Type} : Value α → Written α
  | .literal a => .ok a
  | .deferred _ => .error []

def stringEntry (name : String) : Option (Value String) → Written (List (String × Json))
  | none => .ok []
  | some value => beneath name do
    let text ← literalOf value
    return [(name, .string text)]

def attributeEntries : List (String × Value String) → Written (List (String × Json))
  | [] => .ok []
  | (key, value) :: rest => do
    let text ← beneath key (literalOf value)
    let entries ← attributeEntries rest
    return (key, .string text) :: entries

def attributesEntry : Option (Value Attributes) → Written (List (String × Json))
  | none => .ok []
  | some value => beneath "attributes" do
    let attributes ← literalOf value
    let entries ← attributeEntries attributes.entries
    return [("attributes", .object entries)]

mutual
def write : Node → Written Json
  | .text s => .ok (.string s)
  | .reference r => .ok (.object [("template", .string r.name), ("params", r.params)])
  | .element ⟨tag, attributes, body, comment⟩ => do
    let tag ← stringEntry "tag" tag
    let attributes ← attributesEntry attributes
    let body ← bodyEntry body
    let comment ← stringEntry "comment" comment
    return .object (tag ++ attributes ++ body ++ comment)
def bodyEntry : Option (Value (Body Node)) → Written (List (String × Json))
  | none => .ok []
  | some (.deferred _) => .error ["body"]
  | some (.literal (.text s)) => .ok [("body", .string s)]
  | some (.literal (.nodes children)) => beneath "body" do
    let items ← writeFrom 0 children
    return [("body", .array items)]
def writeFrom (i : Nat) : List Node → Written (List Json)
  | [] => .ok []
  | node :: rest => do
    let item ← beneath (Pointer.indexKey i) (write node)
    let items ← writeFrom (i + 1) rest
    return item :: items
end

def toJson (node : Node) : Except Error Json :=
  (write node).mapError fun pointer => .deferredValue (Pointer.text pointer)

/-- The JSON form as text, a node without one being refused as JSON. -/
def encode (format : Json → String) (node : Node) : Except Error String :=
  match node.toJson with
  | .ok value => .ok (format value)
  | .error e => .error (.refusedJson (.ofText e.message))

end HtmlTemplate.Node
