import Mathlib.Data.List.Basic
import HtmlTemplate.Dom.Builder
import HtmlTemplate.Proofs.Outline

/-!
The outline of a document that is being built: what every operation on the open elements adds to
it. Closing elements adds nothing.
-/

set_option autoImplicit false

namespace HtmlTemplate.Dom.Builder

-- The open elements, given innermost first, each followed by its children so far.
def openedOutline : List Frame → List Line
  | [] => []
  | frame :: outer =>
    openedOutline outer ++ ⟨outer.length, .element frame.name frame.attributes⟩ ::
      outlineOf (outer.length + 1) frame.children.reverse

def outline (b : Builder) : List Line :=
  outlineOf 0 b.top.reverse ++ openedOutline b.opened

def current (b : Builder) : List Dom :=
  match b.opened with
  | [] => b.top
  | frame :: _ => frame.children

def ahead (b : Builder) : List Line :=
  match b.opened with
  | [] => []
  | frame :: outer =>
    outlineOf 0 b.top.reverse ++ openedOutline outer ++
      [⟨outer.length, .element frame.name frame.attributes⟩]

def names (b : Builder) : List String :=
  b.opened.map Frame.name

theorem outline_ahead (b : Builder) :
    b.outline = b.ahead ++ outlineOf b.opened.length b.current.reverse := by
  obtain ⟨opened, top, notices⟩ := b
  cases opened with
  | nil => simp [outline, openedOutline, ahead, current]
  | cons frame outer => simp [outline, openedOutline, ahead, current]

theorem modify_current_outline (b : Builder) (f : List Dom → List Dom) :
    (b.modifyCurrent f).outline = b.ahead ++ outlineOf b.opened.length (f b.current).reverse := by
  obtain ⟨opened, top, notices⟩ := b
  cases opened with
  | nil => simp [modifyCurrent, outline, openedOutline, ahead, current]
  | cons frame outer => simp [modifyCurrent, outline, openedOutline, ahead, current]

theorem modify_current_names (b : Builder) (f : List Dom → List Dom) :
    (b.modifyCurrent f).names = b.names := by
  obtain ⟨opened, top, notices⟩ := b
  cases opened <;> rfl

theorem ahead_outer (b : Builder) (line : Line) (last : b.ahead.getLast? = some line) :
    line.level < b.opened.length := by
  obtain ⟨opened, top, notices⟩ := b
  cases opened with
  | nil => cases last
  | cons frame outer =>
      simp only [ahead, List.getLast?_concat, Option.some.injEq] at last
      subst last
      exact Nat.lt_succ_self outer.length

theorem push_outline (b : Builder) (node : Dom) :
    (b.push node).outline = b.outline ++ Dom.outline b.opened.length node := by
  rw [push, modify_current_outline, outline_ahead, List.reverse_cons, outline_of_append]
  simp [outlineOf]

-- The last line of the outline is a text of the current level only if the last child is a text.
theorem outline_last_text (b : Builder) (t : String)
    (last : b.outline.getLast? = some ⟨b.opened.length, .text t⟩) :
    ∃ rest, b.current = .text t :: rest := by
  rw [outline_ahead] at last
  cases children : b.current with
  | nil =>
      rw [children, List.reverse_nil, outlineOf, List.append_nil] at last
      exact absurd (ahead_outer b _ last) (Nat.lt_irrefl _)
  | cons node rest =>
      rw [children, List.reverse_cons, outline_of_append, ← List.append_assoc] at last
      have filled : outlineOf b.opened.length [node] ≠ [] := by
        simp [outlineOf, outline_item_children]
      rw [List.getLast?_append_of_ne_nil _ filled] at last
      have member := List.mem_of_getLast? last
      simp only [outlineOf, outline_item_children, List.append_nil, List.mem_cons] at member
      rcases member with same | inside
      · cases node <;> simp [Dom.item] at same
        exact ⟨rest, by rw [same]⟩
      · exact absurd (outline_of_level _ _ _ inside) (Nat.not_succ_le_self _)

theorem push_text_outline (b : Builder) (s : String) :
    (b.pushText s).outline = (Line.onto ⟨b.opened.length, .text s⟩ b.outline.reverse).reverse := by
  by_cases joined : ∃ t rest, b.current = .text t :: rest
  · obtain ⟨t, rest, children⟩ := joined
    rw [pushText, modify_current_outline, outline_ahead, children]
    simp [joinText, outline_of_append, outlineOf, Dom.outline, Line.onto_text]
  · have apart : ∀ t, b.outline.getLast? ≠ some ⟨b.opened.length, .text t⟩ := by
      intro t last
      obtain ⟨rest, children⟩ := outline_last_text b t last
      exact joined ⟨t, rest, children⟩
    have added : joinText s b.current = .text s :: b.current := by
      unfold joinText
      split
      · rename_i t rest children
        exact absurd ⟨t, rest, children⟩ joined
      · rfl
    rw [Line.onto_apart _ _ (by intro _ _ t; rw [List.head?_reverse]; exact apart t)]
    rw [pushText, modify_current_outline, added, List.reverse_cons, outline_of_append,
      outline_ahead]
    simp [outlineOf, Dom.outline]

theorem close_innermost_outline (b : Builder) : b.closeInnermost.outline = b.outline := by
  obtain ⟨opened, top, notices⟩ := b
  cases opened with
  | nil => rfl
  | cons frame outer =>
      rw [closeInnermost, push_outline]
      simp [outline, openedOutline, Frame.close, Dom.outline]

theorem close_innermost_names (b : Builder) : b.closeInnermost.names = b.names.tail := by
  obtain ⟨opened, top, notices⟩ := b
  cases opened with
  | nil => rfl
  | cons frame outer => exact modify_current_names ⟨outer, top, notices⟩ (frame.close :: ·)

theorem close_outline (count : Nat) (b : Builder) : (close count b).outline = b.outline := by
  induction count generalizing b with
  | zero => rfl
  | succ count ih => rw [close, ih, close_innermost_outline]

theorem close_names (count : Nat) (b : Builder) : (close count b).names = b.names.drop count := by
  induction count generalizing b with
  | zero => rfl
  | succ count ih => rw [close, ih, close_innermost_names, List.drop_tail]

theorem finish_outline (b : Builder) : b.finish.outline = b.outline := by
  unfold finish
  split
  · rfl
  · exact close_outline _ _

theorem finish_names (b : Builder) : b.finish.names = [] := by
  unfold finish
  split
  · rename_i closed
    exact List.map_eq_nil_iff.mpr (List.eq_nil_of_length_eq_zero closed)
  · rw [close_names]
    exact List.drop_eq_nil_of_le (Nat.le_of_eq (List.length_map _))

theorem finished_outline (b : Builder) : outlineOf 0 b.finish.top.reverse = b.outline := by
  have closed : b.finish.opened = [] := List.map_eq_nil_iff.mp (finish_names b)
  rw [← finish_outline, outline, closed]
  simp [openedOutline]

end HtmlTemplate.Dom.Builder
