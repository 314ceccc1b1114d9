import HtmlTemplate.Dom.Basic

/-!
The outline of a forest: its nodes in document order, each with its level. A forest is known from
its outline. In a list of lines, texts of one level that come one after the other can be joined.
-/

set_option autoImplicit false

namespace HtmlTemplate.Dom

inductive Item where
  | element (name : String) (attributes : List (String × String))
  | text (s : String)
  | comment (s : String)
  | doctype (name : String)
deriving DecidableEq

def item : Dom → Item
  | .element name attributes _ => .element name attributes
  | .text s => .text s
  | .comment s => .comment s
  | .doctype name => .doctype name

structure Line where
  level : Nat
  item : Item
deriving DecidableEq

mutual
def outline (level : Nat) : Dom → List Line
  | .element name attributes children =>
    ⟨level, .element name attributes⟩ :: outlineOf (level + 1) children
  | .text s => [⟨level, .text s⟩]
  | .comment s => [⟨level, .comment s⟩]
  | .doctype name => [⟨level, .doctype name⟩]
def outlineOf (level : Nat) : List Dom → List Line
  | [] => []
  | node :: rest => outline level node ++ outlineOf level rest
end

theorem outline_item_children (level : Nat) (node : Dom) :
    outline level node = ⟨level, node.item⟩ :: outlineOf (level + 1) node.children := by
  cases node <;> rfl

theorem same_of_item_children (node other : Dom) (item : node.item = other.item)
    (children : node.children = other.children) : node = other := by
  cases node <;> cases other <;> simp_all [Dom.item, Dom.children]

theorem children_smaller (node : Dom) (rest : List Dom) :
    sizeOf node.children < sizeOf (node :: rest) := by
  cases node <;> simp [Dom.children] <;> omega

theorem rest_smaller (node : Dom) (rest : List Dom) : sizeOf rest < sizeOf (node :: rest) := by
  simp only [List.cons.sizeOf_spec]
  omega

theorem outline_of_append (level : Nat) (nodes others : List Dom) :
    outlineOf level (nodes ++ others) = outlineOf level nodes ++ outlineOf level others := by
  induction nodes with
  | nil => rfl
  | cons node rest ih => simp [outlineOf, ih]

theorem outline_of_level (level : Nat) : (nodes : List Dom) →
    ∀ line ∈ outlineOf level nodes, level ≤ line.level
  | [] => by simp [outlineOf]
  | node :: rest => by
      intro line member
      rw [outlineOf, outline_item_children, List.cons_append, List.mem_cons,
        List.mem_append] at member
      rcases member with same | inside | later
      · exact Nat.le_of_eq (same ▸ rfl)
      · exact Nat.le_of_succ_le (outline_of_level (level + 1) node.children line inside)
      · exact outline_of_level level rest line later
termination_by nodes => sizeOf nodes
decreasing_by
  · exact children_smaller node rest
  · exact rest_smaller node rest

def Outer (level : Nat) (lines : List Line) : Prop :=
  ∀ line, lines.head? = some line → line.level < level

theorem outer_behind (level : Nat) (nodes : List Dom) (lines : List Line)
    (outer : Outer level lines) : Outer (level + 1) (outlineOf level nodes ++ lines) := by
  intro line first
  cases nodes with
  | nil => exact Nat.lt_succ_of_lt (outer line first)
  | cons node rest =>
      rw [outlineOf, outline_item_children] at first
      cases first
      exact Nat.lt_succ_self level

theorem outline_not_outer (level : Nat) (node : Dom) (rest : List Dom) (lines : List Line) :
    ¬ Outer level (outlineOf level (node :: rest) ++ lines) := by
  intro outer
  rw [outlineOf, outline_item_children] at outer
  exact Nat.lt_irrefl level (outer _ rfl)

-- What follows a forest is general here, so that the children of an element are a case of it.
theorem outline_of_cancel (level : Nat) : (nodes others : List Dom) → (lines further : List Line) →
    Outer level lines → Outer level further →
      outlineOf level nodes ++ lines = outlineOf level others ++ further →
        nodes = others ∧ lines = further
  | [], [], _, _, _, _, same => ⟨rfl, same⟩
  | [], other :: others, lines, further, outer, _, same => by
      have starts : lines = outlineOf level (other :: others) ++ further := same
      exact absurd (starts ▸ outer) (outline_not_outer level other others further)
  | node :: rest, [], lines, further, _, outer, same => by
      have starts : further = outlineOf level (node :: rest) ++ lines := same.symm
      exact absurd (starts ▸ outer) (outline_not_outer level node rest lines)
  | node :: rest, other :: others, lines, further, outer, outer', same => by
      simp only [outlineOf, outline_item_children, List.cons_append, List.append_assoc,
        List.cons.injEq, Line.mk.injEq, true_and] at same
      obtain ⟨items, inside⟩ := same
      obtain ⟨children, behind⟩ := outline_of_cancel (level + 1) node.children other.children _ _
        (outer_behind level rest lines outer) (outer_behind level others further outer') inside
      obtain ⟨rests, ends⟩ := outline_of_cancel level rest others lines further outer outer' behind
      exact ⟨by rw [same_of_item_children node other items children, rests], ends⟩
termination_by nodes => sizeOf nodes
decreasing_by
  · exact children_smaller node rest
  · exact rest_smaller node rest

theorem outline_of_injective (level : Nat) (nodes others : List Dom)
    (same : outlineOf level nodes = outlineOf level others) : nodes = others := by
  have outer : Outer level [] := by
    intro line first
    cases first
  exact (outline_of_cancel level nodes others [] [] outer outer (by rw [same])).1

namespace Line

-- A line behind others, given the latest first: a text is joined to a text of its level.
def onto (line : Line) (earlier : List Line) : List Line :=
  match line, earlier with
  | ⟨level, .text s⟩, ⟨level', .text before⟩ :: rest =>
    if level = level' then ⟨level, .text (before ++ s)⟩ :: rest else line :: earlier
  | _, _ => line :: earlier

def joinTexts (lines : List Line) : List Line :=
  (lines.foldl (fun earlier line => line.onto earlier) []).reverse

theorem join_texts_concat (lines : List Line) (line : Line) :
    joinTexts (lines ++ [line]) = (line.onto (joinTexts lines).reverse).reverse := by
  simp [joinTexts]

theorem onto_text (level : Nat) (before s : String) (rest : List Line) :
    onto ⟨level, .text s⟩ (⟨level, .text before⟩ :: rest) = ⟨level, .text (before ++ s)⟩ :: rest := by
  simp [onto]

theorem onto_apart (line : Line) (earlier : List Line)
    (apart : ∀ s, line.item = .text s → ∀ t, earlier.head? ≠ some ⟨line.level, .text t⟩) :
    line.onto earlier = line :: earlier := by
  unfold onto
  split
  · rename_i level s level' before rest
    have different : level ≠ level' := by
      intro same
      exact apart s rfl before (by rw [same]; rfl)
    rw [if_neg different]
  · rfl

end Line

end HtmlTemplate.Dom
