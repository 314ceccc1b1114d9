import HtmlTemplate.Proofs.PlainText
import HtmlTemplate.Proofs.Run

/-!
The depth limit of rendering. It is exact on literal nodes without references; on all nodes a larger
limit changes nothing but the failure of being too deep.
-/

set_option autoImplicit false

namespace HtmlTemplate

section Larger

variable (registry : Registry) (limit larger : Nat)

theorem resolve_within_approximates : (left more : Nat) → left ≤ more → (node : Node) →
    Run.Approximates (.tooDeep limit) (node.resolveWithin registry limit left)
      (node.resolveWithin registry larger more)
  | left, more, _, .text s => by
      rw [resolve_within_text, resolve_within_text]
      exact Run.approximates_refl _ _
  | left, more, _, .element e => by
      rw [resolve_within_element, resolve_within_element]
      exact Run.approximates_refl _ _
  | 0, _, _, .reference r => Run.approximates_throw _ _
  | left + 1, more + 1, within, .reference r => by
      refine Run.approximates_bind _ _ _ _ _ (Run.approximates_refl _ _) fun node => ?_
      exact resolve_within_approximates left more (Nat.le_of_succ_le_succ within) node

theorem children_approximates (failure : Error) (child other : Node → Run String)
    (close : ∀ node, Run.Approximates failure (child node) (other node)) (nodes : List Node) :
    Run.Approximates failure (Render.children child nodes) (Render.children other nodes) := by
  induction nodes with
  | nil => exact Run.approximates_refl _ _
  | cons node rest ih =>
      refine Run.approximates_bind _ _ _ _ _ (close node) fun first => ?_
      exact Run.approximates_bind _ _ _ _ _ ih fun others => Run.approximates_refl _ _

theorem element_approximates (failure : Error) (child other : Node → Run String)
    (close : ∀ node, Run.Approximates failure (child node) (other node)) (e : ResolvedElement) :
    Run.Approximates failure (Render.element child e) (Render.element other e) := by
  obtain ⟨tag, attributes, body, comment⟩ := e
  have content : Run.Approximates failure (Render.body child body) (Render.body other body) := by
    cases body with
    | text s => exact Run.approximates_refl _ _
    | nodes nodes => exact children_approximates failure child other close nodes
  cases tag with
  | none => exact Run.approximates_bind _ _ _ _ _ content fun _ => Run.approximates_refl _ _
  | some tag =>
      by_cases single : Render.isSelfClosing tag = true
      · simp only [Render.element, if_pos single]
        exact Run.approximates_refl _ _
      · simp only [Render.element, if_neg single]
        exact Run.approximates_bind _ _ _ _ _ content fun _ => Run.approximates_refl _ _

theorem render_node_approximates (within : limit ≤ larger) (room more : Nat) (roomy : room ≤ more)
    (node : Node) :
    Run.Approximates (.tooDeep limit) (Render.node registry limit room node)
      (Render.node registry larger more node) := by
  induction room generalizing more node with
  | zero => exact Run.approximates_throw _ _
  | succ room ih =>
      cases more with
      | zero => cases roomy
      | succ more =>
          refine Run.approximates_bind _ _ _ _ _
            (resolve_within_approximates registry limit larger limit larger within node)
            fun resolved => ?_
          cases resolved with
          | text s => exact Run.approximates_refl _ _
          | element e =>
              exact element_approximates _ _ _
                (fun node => ih more (Nat.le_of_succ_le_succ roomy) node) e

end Larger

theorem depth_limit_exact_and_monotone (registry : Registry) (limit : Nat) (node : Node) :
    (node.literal → node.references = [] → ∀ past,
      (node.render registry limit).account past =
        ⟨if node.height ≤ limit then .ok node.plainText else .error (.tooDeep limit), past, []⟩) ∧
    (∀ larger past, limit ≤ larger →
      ((node.render registry limit).account past).outcome ≠ .error (.tooDeep limit) →
        (node.render registry larger).account past = (node.render registry limit).account past) := by
  constructor
  · intro given closed past
    rw [render_literal registry limit node given closed]
    by_cases fits : node.height ≤ limit
    · rw [if_pos fits, if_pos fits, Run.pure_account]
    · rw [if_neg fits, if_neg fits, Run.throw_account]
  · intro larger past within finished
    have close := render_node_approximates registry limit larger within (limit + 1) (larger + 1)
      (Nat.succ_le_succ within) node
    exact Run.approximates_account _ _ _ close past finished

def shallowParagraph : Node :=
  .element ⟨some (.literal "P"), none, some (.literal (.nodes [.text "a"])), none⟩

-- A reference below a tag that is produced on the way.
def shallowPage : Node :=
  .element ⟨some (.deferred (.fixed (some "tag") (.ok "DIV"))), none,
    some (.literal (.nodes [.reference ⟨"paragraph", .null⟩])), none⟩

def paragraphTemplate : Registry :=
  Registry.ofList [("paragraph", fun _ _ => .ok shallowParagraph)]

theorem depth_limit_shallow :
    (shallowParagraph.literal ∧ shallowParagraph.references = [] ∧
      (shallowParagraph.render paragraphTemplate 0).account [] = ⟨.error (.tooDeep 0), [], []⟩) ∧
    (2 ≤ 5 ∧
      ((shallowPage.render paragraphTemplate 2).account []).outcome ≠ .error (.tooDeep 2) ∧
      (shallowPage.render paragraphTemplate 5).account [] =
        (shallowPage.render paragraphTemplate 2).account []) := by
  have printed : ((shallowPage.render paragraphTemplate 2).account []).outcome =
      .ok "<div><p>a</p></div>" := rfl
  have finished : ((shallowPage.render paragraphTemplate 2).account []).outcome ≠
      .error (.tooDeep 2) := by
    rw [printed]
    intro same
    cases same
  refine ⟨⟨rfl, rfl, ?_⟩, by decide, finished, ?_⟩
  · exact (depth_limit_exact_and_monotone paragraphTemplate 0 shallowParagraph).1 rfl rfl []
  · exact (depth_limit_exact_and_monotone paragraphTemplate 2 shallowPage).2 5 [] (by decide) finished

end HtmlTemplate
