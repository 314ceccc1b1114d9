import HtmlTemplate.Proofs.Literal

/-!
The text of a literal node in which no reference is rendered, and how deep it is nested. Rendering
gives that text if the depth is within the limit, and otherwise fails without a trace.
-/

set_option autoImplicit false

namespace HtmlTemplate

def ResolvedElement.wrap (e : ResolvedElement) (content : String) : String :=
  match e.tag with
  | none => Render.commentText e.comment ++ content
  | some tag =>
    if Render.isSelfClosing tag then Render.openingText tag e ++ "/>"
    else Render.openingText tag e ++ ">" ++ content ++ Render.closingText tag

namespace Node

-- Whether elements with a tag are written without their body.
def bodiless (tag : Option (Value String)) : Bool :=
  (normalizeTag (fieldLiteral "" tag)).any Render.isSelfClosing

mutual
-- How many levels of nodes are nested below a node.
def height : Node → Nat
  | .text _ => 0
  | .reference _ => 0
  | .element ⟨tag, _, body, _⟩ => if bodiless tag then 0 else bodyHeight body
def bodyHeight : Option (Value (Body Node)) → Nat
  | some (.literal (.nodes children)) => levels children
  | _ => 0
-- One more than the greatest height of some nodes, nothing if there are none.
def levels : List Node → Nat
  | [] => 0
  | node :: rest => max (1 + height node) (levels rest)
end

mutual
def settled : Node → Bool
  | .text _ => true
  | .reference _ => false
  | .element ⟨tag, _, body, _⟩ => bodiless tag || settledBody body
def settledBody : Option (Value (Body Node)) → Bool
  | some (.literal (.nodes children)) => allSettled children
  | _ => true
def allSettled : List Node → Bool
  | [] => true
  | node :: rest => settled node && allSettled rest
end

mutual
def plainText : Node → String
  | .text s => s
  | .reference _ => ""
  | .element ⟨tag, attributes, body, comment⟩ =>
    (Element.resolved ⟨tag, attributes, body, comment⟩).wrap (plainBody body)
def plainBody : Option (Value (Body Node)) → String
  | none => ""
  | some (.deferred _) => ""
  | some (.literal (.text s)) => s
  | some (.literal (.nodes children)) => plainTexts children
def plainTexts : List Node → String
  | [] => ""
  | node :: rest => plainText node ++ plainTexts rest
end

end Node

section Element

variable (child : Node → Run String) (limit : Nat)

theorem element_maps_body (e : ResolvedElement) (bodied : ¬ e.tag.any Render.isSelfClosing) :
    Render.element child e = e.wrap <$> Render.body child e.body := by
  obtain ⟨tag, attributes, body, comment⟩ := e
  rw [map_eq_pure_bind]
  cases tag with
  | none => rfl
  | some tag =>
      have closing : ¬ Render.isSelfClosing tag = true := bodied
      simp only [Render.element, ResolvedElement.wrap, if_neg closing]

theorem element_bodiless (e : ResolvedElement) (content : String)
    (single : e.tag.any Render.isSelfClosing) :
    Render.element child e = pure (e.wrap content) := by
  obtain ⟨tag, attributes, body, comment⟩ := e
  cases tag with
  | none => cases single
  | some tag =>
      have closing : Render.isSelfClosing tag = true := single
      simp [Render.element, ResolvedElement.wrap, closing]

end Element

theorem render_node_element (registry : Registry) (limit room : Nat) (e : Element Node)
    (given : (Node.element e).literal) :
    Render.node registry limit (room + 1) (.element e) =
      Render.element (Render.node registry limit room) e.resolved := by
  simp [Render.node, Node.resolve, resolve_within_element, element_resolve_literal e given]

theorem element_height (e : Element Node) :
    (Node.element e).height = if Node.bodiless e.tag then 0 else Node.bodyHeight e.body := by
  simp [Node.height]

theorem element_plain_text (e : Element Node) :
    (Node.element e).plainText = e.resolved.wrap (Node.plainBody e.body) := by
  simp [Node.plainText]

theorem fragment_plain_text (body : Option (Value (Body Node))) :
    (Node.element ⟨none, none, body, none⟩).plainText = Node.plainBody body := by
  simp [element_plain_text, Element.resolved, fieldLiteral, normalizeTag, ResolvedElement.wrap,
    Render.commentText]

theorem render_element_literal (registry : Registry) (limit room : Nat) (e : Element Node)
    (given : (Node.element e).literal)
    (written : ¬ Node.bodiless e.tag →
      Render.body (Render.node registry limit room) (fieldLiteral .empty e.body) =
        if Node.bodyHeight e.body ≤ room then pure (Node.plainBody e.body)
        else throw (.tooDeep limit)) :
    Render.node registry limit (room + 1) (.element e) =
      if (Node.element e).height < room + 1 then pure (Node.element e).plainText
      else throw (.tooDeep limit) := by
  rw [render_node_element registry limit room e given, element_height, element_plain_text]
  by_cases single : Node.bodiless e.tag = true
  · rw [element_bodiless _ e.resolved (Node.plainBody e.body) single, if_pos single,
      if_pos (Nat.succ_pos room)]
  · have content : Render.body (Render.node registry limit room) e.resolved.body = _ :=
      written single
    rw [if_neg single, element_maps_body _ e.resolved single, content]
    by_cases fits : Node.bodyHeight e.body ≤ room
    · rw [if_pos fits, if_pos (Nat.lt_succ_of_le fits), map_pure]
    · rw [if_neg fits, if_neg (by omega)]
      rfl

-- The recursion is over the tree; the room shrinks with it, so it is general in all three proofs.
mutual
theorem render_node_literal (registry : Registry) (limit room : Nat) :
    (node : Node) → node.literal → node.settled →
      Render.node registry limit room node =
        if node.height < room then pure node.plainText else throw (.tooDeep limit)
  | .text s, _, _ => by
      cases room with
      | zero => rfl
      | succ room => simp [Render.node, Node.resolve, resolve_within_text, Node.height, Node.plainText]
  | .reference r, _, settled => by simp [Node.settled] at settled
  | .element ⟨tag, attributes, body, comment⟩, given, settled => by
      cases room with
      | zero => rfl
      | succ room =>
          obtain ⟨_, _, bodyGiven, _⟩ := element_literal_fields _ given
          simp only [Node.settled, Bool.or_eq_true] at settled
          refine render_element_literal registry limit room _ given fun bodied => ?_
          exact render_body_literal registry limit room body bodyGiven
            (settled.resolve_left bodied)
theorem render_body_literal (registry : Registry) (limit room : Nat) :
    (body : Option (Value (Body Node))) → Node.literalBody body →
      Node.settledBody body →
      Render.body (Render.node registry limit room) (fieldLiteral .empty body) =
        if Node.bodyHeight body ≤ room then pure (Node.plainBody body) else throw (.tooDeep limit)
  | none, _, _ => rfl
  | some (.deferred _), given, _ => by simp [Node.literalBody] at given
  | some (.literal (.text _)), _, _ => rfl
  | some (.literal (.nodes nodes)), given, settled =>
      render_children_literal registry limit room nodes given settled
theorem render_children_literal (registry : Registry) (limit room : Nat) :
    (nodes : List Node) → Node.allLiteral nodes → Node.allSettled nodes →
      Render.children (Render.node registry limit room) nodes =
        if Node.levels nodes ≤ room then pure (Node.plainTexts nodes) else throw (.tooDeep limit)
  | [], _, _ => rfl
  | node :: rest, given, settled => by
      obtain ⟨nodeGiven, restGiven⟩ : node.literal ∧ Node.allLiteral rest := by
        simpa [Node.allLiteral] using given
      obtain ⟨nodeSettled, restSettled⟩ : node.settled ∧ Node.allSettled rest := by
        simpa [Node.allSettled] using settled
      rw [Render.children, render_node_literal registry limit room node nodeGiven nodeSettled,
        render_children_literal registry limit room rest restGiven restSettled]
      by_cases nodeFits : node.height < room
      · by_cases restFits : Node.levels rest ≤ room
        · have fits : Node.levels (node :: rest) ≤ room := by simp only [Node.levels]; omega
          simp [nodeFits, restFits, fits, Node.plainTexts]
        · have tooHigh : ¬ Node.levels (node :: rest) ≤ room := by simp only [Node.levels]; omega
          rw [if_pos nodeFits, if_neg restFits, if_neg tooHigh]
          rfl
      · have tooHigh : ¬ Node.levels (node :: rest) ≤ room := by simp only [Node.levels]; omega
        rw [if_neg nodeFits, if_neg tooHigh]
        rfl
end

theorem render_settled (registry : Registry) (limit : Nat) (node : Node) (given : node.literal)
    (settled : node.settled) :
    node.render registry limit =
      if node.height ≤ limit then pure node.plainText else throw (.tooDeep limit) := by
  simp only [Node.render, render_node_literal registry limit (limit + 1) node given settled,
    Nat.lt_succ_iff]

mutual
theorem unreferenced_settled : (node : Node) → node.references = [] → node.settled
  | .text s, _ => rfl
  | .reference r, closed => by simp [Node.references] at closed
  | .element ⟨tag, attributes, body, comment⟩, closed => by
      simp only [Node.settled, Bool.or_eq_true]
      right
      match body with
      | some (.literal (.nodes children)) => exact unreferenced_all_settled children closed
      | some (.literal (.text s)) => rfl
      | some (.deferred d) => rfl
      | none => rfl
theorem unreferenced_all_settled : (nodes : List Node) → Node.referencesOf nodes = [] →
    Node.allSettled nodes
  | [], _ => rfl
  | node :: rest, closed => by
      simp only [Node.referencesOf, List.append_eq_nil_iff] at closed
      simp [Node.allSettled, unreferenced_settled node closed.1,
        unreferenced_all_settled rest closed.2]
end

theorem render_literal (registry : Registry) (limit : Nat) (node : Node) (given : node.literal)
    (closed : node.references = []) :
    node.render registry limit =
      if node.height ≤ limit then pure node.plainText else throw (.tooDeep limit) :=
  render_settled registry limit node given (unreferenced_settled node closed)

end HtmlTemplate
