import HtmlTemplate.Registry
import HtmlTemplate.Text.Lowercase

/-!
Nodes in their final form, right before they are written out: references are replaced by what their
templates give, and the fields of an element are run, in the order tag, body, attributes, comment.
The child nodes stay as they are.
-/

set_option autoImplicit false

namespace HtmlTemplate

/-- An element whose fields are all literal. A fragment has no tag. -/
structure ResolvedElement where
  tag : Option String
  attributes : List (String × String)
  body : Body Node
  comment : Option String

inductive Resolved where
  | text (s : String)
  | element (e : ResolvedElement)

/-- The tag in lower case; the empty tag is none. A tag without an upper case letter stays. -/
def normalizeTag (tag : String) : Option String :=
  if tag = "" then none
  else if tag.toList.any Text.isUppercase then some (Text.lowercase tag)
  else some tag

def forceField {α : Type} (absent : α) : Option (Value α) → Run α
  | none => pure absent
  | some value => value.force

def Element.resolve (e : Element Node) : Run ResolvedElement := do
  let tag ← forceField "" e.tag
  let body ← forceField .empty e.body
  let mapping ← forceField .empty e.attributes
  let attributes ← mapping.force
  let comment ←
    match e.comment with
    | none => pure none
    | some value => some <$> value.force
  return ⟨normalizeTag tag, attributes, body, comment⟩

/-- Resolves a node, following at most `left` references in a row. -/
def Node.resolveWithin (registry : Registry) (limit : Nat) : (left : Nat) → Node → Run Resolved
  | _, .text s => pure (.text s)
  | _, .element e => .element <$> e.resolve
  | 0, .reference _ => throw (.tooDeep limit)
  | left + 1, .reference r => do
    let node ← registry.lookup r.name r.params
    resolveWithin registry limit left node

def Node.resolve (registry : Registry) (limit : Nat) (node : Node) : Run Resolved :=
  node.resolveWithin registry limit limit

end HtmlTemplate
