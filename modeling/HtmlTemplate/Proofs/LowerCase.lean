import HtmlTemplate.Text.Lowercase

/-!
Which characters the lower case of a text changes, and into what. They are upper case letters and
the titlecase letters, and what they become is not changed again.
-/

set_option autoImplicit false

namespace HtmlTemplate.Text

-- Characters of the general category Lt: a capital and a small letter in one.
def titlecaseSpans : List Span :=
  [⟨0x1C5, 0x1CB, 3⟩, ⟨0x1F2, 0x1F2, 1⟩, ⟨0x1F88, 0x1F8F, 1⟩, ⟨0x1F98, 0x1F9F, 1⟩,
    ⟨0x1FA8, 0x1FAF, 1⟩, ⟨0x1FBC, 0x1FCC, 16⟩, ⟨0x1FFC, 0x1FFC, 1⟩]

def isTitlecase (c : Char) : Bool := inSpans titlecaseSpans c

def changingSpans : List Span :=
  ⟨0x130, 0x130, 1⟩ :: lowercaseSpans.map CaseSpan.span

def changes (c : Char) : Bool := inSpans changingSpans c

namespace Span

def points (span : Span) : List Nat :=
  List.range' span.first ((span.last - span.first) / span.step + 1) span.step

def ascending : List Span → Bool
  | [] => true
  | [span] => span.first.ble span.last
  | span :: next :: rest =>
    span.first.ble span.last && span.last.blt next.first && ascending (next :: rest)

-- Of spans in ascending order those that are not wholly before or behind a span.
def near (span : Span) (spans : List Span) : List Span :=
  (spans.dropWhile fun other => other.last.blt span.first).takeWhile fun other =>
    other.first.ble span.last

theorem holds_iff (span : Span) (n : Nat) :
    span.holds n ↔ span.first ≤ n ∧ n ≤ span.last ∧ (n - span.first) % span.step = 0 := by
  simp [holds, and_assoc]

theorem mem_points (span : Span) (n : Nat) (held : span.holds n) : n ∈ span.points := by
  obtain ⟨least, most, stepped⟩ := (holds_iff span n).mp held
  have distance : span.step * ((n - span.first) / span.step) = n - span.first :=
    Nat.mul_div_cancel' (Nat.dvd_of_mod_eq_zero stepped)
  have within : (n - span.first) / span.step ≤ (span.last - span.first) / span.step :=
    Nat.div_le_div_right (Nat.sub_le_sub_right most span.first)
  rw [points, List.mem_range']
  exact ⟨(n - span.first) / span.step, Nat.lt_succ_of_le within, by omega⟩

theorem ascending_rest (span : Span) (rest : List Span) (sorted : ascending (span :: rest)) :
    ascending rest ∧ ∀ other ∈ rest, span.first ≤ other.first := by
  induction rest generalizing span with
  | nil => exact ⟨rfl, nofun⟩
  | cons next rest ih =>
      rw [ascending, Bool.and_eq_true, Bool.and_eq_true, Nat.ble_eq, Nat.blt_eq] at sorted
      obtain ⟨⟨whole, before⟩, sorted⟩ := sorted
      obtain ⟨-, behind⟩ := ih next sorted
      refine ⟨sorted, List.forall_mem_cons.mpr ⟨by omega, fun other member => ?_⟩⟩
      have := behind other member
      omega

theorem any_behind (spans : List Span) (n bound : Nat) (reached : bound ≤ n) :
    (spans.dropWhile fun other => other.last.blt bound).any (·.holds n) =
      spans.any (·.holds n) := by
  induction spans with
  | nil => rfl
  | cons span rest ih =>
      rw [List.dropWhile_cons]
      split
      · rename_i before
        have missed : span.holds n = false := by
          rw [Nat.blt_eq] at before
          rw [← Bool.not_eq_true, holds_iff]
          omega
        rw [ih, List.any_cons, missed, Bool.false_or]
      · rfl

theorem any_ahead (spans : List Span) (n bound : Nat) (within : n ≤ bound)
    (sorted : ascending spans) :
    (spans.takeWhile fun other => other.first.ble bound).any (·.holds n) =
      spans.any (·.holds n) := by
  induction spans with
  | nil => rfl
  | cons span rest ih =>
      obtain ⟨others, behind⟩ := ascending_rest span rest sorted
      rw [List.takeWhile_cons]
      split
      · rw [List.any_cons, List.any_cons, ih others]
      · rename_i beyond
        rw [Nat.ble_eq] at beyond
        symm
        rw [List.any_nil, List.any_eq_false]
        intro other member
        rw [holds_iff]
        rcases List.mem_cons.mp member with rfl | later
        · omega
        · have := behind other later
          omega

theorem ascending_drop (spans : List Span) (p : Span → Bool) (sorted : ascending spans) :
    ascending (spans.dropWhile p) := by
  induction spans with
  | nil => rfl
  | cons span rest ih =>
      rw [List.dropWhile_cons]
      split
      · exact ih (ascending_rest span rest sorted).1
      · exact sorted

theorem any_near (span : Span) (spans : List Span) (sorted : ascending spans) (n : Nat)
    (held : span.holds n) : (span.near spans).any (·.holds n) = spans.any (·.holds n) := by
  obtain ⟨least, most, _⟩ := (holds_iff span n).mp held
  rw [near, any_ahead _ n span.last most (ascending_drop spans _ sorted),
    any_behind spans n span.first least]

end Span

theorem in_spans_iff (spans : List Span) (c : Char) :
    inSpans spans c ↔ ∃ span ∈ spans, span.holds c.toNat := by
  rw [inSpans, List.any_eq_true]

theorem in_spans_points (spans : List Span) (p : Span → Nat → Bool)
    (known : spans.all fun span => span.points.all (p span)) (c : Char) (held : inSpans spans c) :
    ∃ span ∈ spans, span.holds c.toNat ∧ p span c.toNat := by
  obtain ⟨span, member, here⟩ := (in_spans_iff spans c).mp held
  have pointwise := List.all_eq_true.mp (List.all_eq_true.mp known span member)
  exact ⟨span, member, here, pointwise _ (span.mem_points _ here)⟩

def CaseSpan.lowered (s : CaseSpan) : Span :=
  ⟨(s.span.first + s.shift).toNat, (s.span.last + s.shift).toNat, s.span.step⟩

theorem tables_ordered :
    Span.ascending uppercaseSpans ∧ Span.ascending (lowercaseSpans.map CaseSpan.span) ∧
      ∀ s ∈ lowercaseSpans, 0 ≤ s.span.first + s.shift ∧
        (s.lowered.last < 0xd800 ∨ 0xdfff < s.lowered.first ∧ s.lowered.last < 0x110000) := by
  decide +kernel

theorem titlecase_spans_outside :
    titlecaseSpans.all fun span => span.points.all fun n =>
      128 ≤ n && n ≠ 0x3a3 && (lowercaseChar (Char.ofNat n)).any (128 ≤ ·.toNat) := by
  decide

theorem sigma_changes :
    changes '\u03a3' ∧ changes '\u03c2' = false ∧ changes '\u03c3' = false := by
  decide

theorem dotted_settled : (lowercaseChar '\u0130').any changes = false := by decide

-- What the tables say of each other, looked up point by point.
theorem tables_agree :
    (changingSpans.all fun span => span.points.all fun n =>
        (span.near uppercaseSpans).any (·.holds n) || titlecaseSpans.any (·.holds n)) ∧
      (titlecaseSpans.all fun span => span.points.all fun n =>
        (span.near (lowercaseSpans.map CaseSpan.span)).any (·.holds n)) ∧
      ((lowercaseSpans.map CaseSpan.lowered).all fun span => span.points.all fun n =>
        !(⟨0x130, 0x130, 1⟩ : Span).holds n &&
          !(span.near (lowercaseSpans.map CaseSpan.span)).any (·.holds n)) := by
  refine ⟨?_, ?_, ?_⟩ <;> decide +kernel

theorem changes_cases (c : Char) (changing : changes c) : isUppercase c ∨ isTitlecase c := by
  obtain ⟨span, _, here, found⟩ := in_spans_points _ _ tables_agree.1 c changing
  rw [Span.any_near span _ tables_ordered.1 _ here, Bool.or_eq_true] at found
  exact found

theorem titlecase_changes (c : Char) (title : isTitlecase c) : changes c := by
  obtain ⟨span, _, here, found⟩ := in_spans_points _ _ tables_agree.2.1 c title
  rw [Span.any_near span _ tables_ordered.2.1 _ here] at found
  rw [changes, inSpans, changingSpans, List.any_cons, found, Bool.or_true]

theorem titlecase_outside (c : Char) (title : isTitlecase c) :
    128 ≤ c.toNat ∧ c ≠ '\u03a3' ∧ ∃ d ∈ lowercaseChar c, 128 ≤ d.toNat := by
  obtain ⟨span, _, _, found⟩ := in_spans_points _ _ titlecase_spans_outside c title
  simp only [Bool.and_eq_true, decide_eq_true_eq, List.any_eq_true, Char.ofNat_toNat] at found
  obtain ⟨⟨outside, other⟩, lowered⟩ := found
  refine ⟨outside, ?_, lowered⟩
  rintro rfl
  exact other rfl

theorem CaseSpan.lowered_holds (s : CaseSpan) (n : Nat) (inside : 0 ≤ s.span.first + s.shift)
    (held : s.span.holds n) : s.lowered.holds (n + s.shift).toNat := by
  obtain ⟨least, most, stepped⟩ := (Span.holds_iff s.span n).mp held
  have distance : (n + s.shift).toNat - (s.span.first + s.shift).toNat = n - s.span.first := by
    omega
  rw [← distance] at stepped
  refine (Span.holds_iff s.lowered _).mpr ⟨?_, ?_, stepped⟩
  · exact Int.toNat_le_toNat (by omega)
  · exact Int.toNat_le_toNat (by omega)

theorem char_of_nat (n : Nat) (valid : n.isValidChar) : (Char.ofNat n).toNat = n := by
  rw [Char.ofNat, dif_pos valid]
  rfl

theorem lowered_unchanging (s : CaseSpan) (member : s ∈ lowercaseSpans) (n : Nat)
    (held : s.span.holds n) : changes (Char.ofNat (n + s.shift).toNat) = false := by
  obtain ⟨inside, place⟩ := tables_ordered.2.2 s member
  have there := s.lowered_holds n inside held
  obtain ⟨least, most, _⟩ := (Span.holds_iff _ _).mp there
  have valid : (n + s.shift).toNat.isValidChar := by
    rw [Nat.isValidChar]
    omega
  have lowered : inSpans (lowercaseSpans.map CaseSpan.lowered)
      (Char.ofNat (n + s.shift).toNat) := by
    rw [in_spans_iff, char_of_nat _ valid]
    exact ⟨s.lowered, List.mem_map_of_mem member, there⟩
  obtain ⟨span, _, here, apart⟩ := in_spans_points _ _ tables_agree.2.2 _ lowered
  rw [Span.any_near span _ tables_ordered.2.1 _ here, Bool.and_eq_true, Bool.not_eq_true',
    Bool.not_eq_true'] at apart
  rw [changes, inSpans, changingSpans, List.any_cons, apart.1, apart.2, Bool.or_false]

theorem changes_iff (c : Char) :
    changes c ↔ c = '\u0130' ∨ ∃ s ∈ lowercaseSpans, s.span.holds c.toNat := by
  have alone : (⟨0x130, 0x130, 1⟩ : Span).holds c.toNat ↔ c = '\u0130' := by
    rw [Span.holds_iff, ← Char.toNat_inj]
    constructor
    · rintro ⟨least, most, _⟩
      exact Nat.le_antisymm most least
    · intro same
      simp [same]
  rw [changes, inSpans, changingSpans, List.any_cons, List.any_map, Bool.or_eq_true, alone,
    List.any_eq_true]
  rfl

theorem unchanging_iff (c : Char) :
    changes c = false ↔ c ≠ '\u0130' ∧ ∀ s ∈ lowercaseSpans, ¬ s.span.holds c.toNat := by
  rw [← Bool.not_eq_true, changes_iff, not_or]
  simp

theorem lowercase_char_unchanging (c : Char) (unchanging : changes c = false) :
    lowercaseChar c = [c] := by
  obtain ⟨plain, outside⟩ := (unchanging_iff c).mp unchanging
  have missing : lowercaseSpans.find? (·.span.holds c.toNat) = none :=
    List.find?_eq_none.mpr outside
  rw [lowercaseChar, if_neg plain, missing]

theorem lowercase_char_settled (c d : Char) (member : d ∈ lowercaseChar c) : changes d = false := by
  by_cases dotted : c = '\u0130'
  · rw [← Bool.not_eq_true]
    exact List.any_eq_false.mp dotted_settled d (dotted ▸ member)
  · rw [lowercaseChar, if_neg dotted] at member
    cases found : lowercaseSpans.find? (fun s => s.span.holds c.toNat) with
    | some s =>
        rw [found] at member
        rw [List.mem_singleton.mp member]
        have held := List.find?_some found
        exact lowered_unchanging s (List.mem_of_find?_eq_some found) _ held
    | none =>
        rw [found] at member
        rw [List.mem_singleton.mp member]
        exact (unchanging_iff c).mpr ⟨dotted, List.find?_eq_none.mp found⟩

theorem lowercase_after_unchanging (before text : List Char)
    (unchanging : ∀ c ∈ text, changes c = false) : lowercaseAfter before text = text := by
  induction text generalizing before with
  | nil => rfl
  | cons c rest ih =>
      obtain ⟨here, others⟩ := List.forall_mem_cons.mp unchanging
      have letter : c ≠ '\u03a3' := by
        rintro rfl
        rw [sigma_changes.1] at here
        cases here
      rw [lowercaseAfter, if_neg letter, lowercase_char_unchanging c here, ih _ others]
      rfl

theorem lowercase_after_settled (before text : List Char) :
    ∀ d ∈ lowercaseAfter before text, changes d = false := by
  induction text generalizing before with
  | nil => exact List.forall_mem_nil _
  | cons c rest ih =>
      rw [lowercaseAfter, List.forall_mem_append]
      refine ⟨?_, ih (c :: before)⟩
      split
      · split
        · exact List.forall_mem_singleton.mpr sigma_changes.2.1
        · exact List.forall_mem_singleton.mpr sigma_changes.2.2
      · exact lowercase_char_settled c

-- Only the sigma depends on its neighbours.
theorem lowercase_char_mem (before text : List Char) (c d : Char) (member : c ∈ text)
    (letter : c ≠ '\u03a3') (becomes : d ∈ lowercaseChar c) : d ∈ lowercaseAfter before text := by
  induction text generalizing before with
  | nil => cases member
  | cons first rest ih =>
      rw [lowercaseAfter, List.mem_append]
      rcases List.mem_cons.mp member with rfl | later
      · rw [if_neg letter]
        exact .inl becomes
      · exact .inr (ih _ later)

theorem lowercase_settled (s : String) : ∀ d ∈ (lowercase s).toList, changes d = false := by
  rw [lowercase, String.toList_ofList]
  exact lowercase_after_settled [] s.toList

theorem lowercase_eq_self_iff (s : String) :
    lowercase s = s ↔ ∀ c ∈ s.toList, changes c = false := by
  constructor
  · intro same
    rw [← same]
    exact lowercase_settled s
  · intro unchanging
    rw [lowercase, lowercase_after_unchanging [] _ unchanging, String.ofList_toList]

theorem lowercase_lowercase (s : String) : lowercase (lowercase s) = lowercase s :=
  (lowercase_eq_self_iff _).mpr (lowercase_settled s)

theorem lowercase_char_nonempty (c : Char) : lowercaseChar c ≠ [] := by
  unfold lowercaseChar
  split
  · simp
  · split <;> simp

theorem lowercase_nonempty (s : String) (inhabited : s ≠ "") : lowercase s ≠ "" := by
  intro empty
  rw [lowercase, String.ofList_eq_empty_iff] at empty
  cases chars : s.toList with
  | nil => exact inhabited (String.toList_eq_nil_iff.mp chars)
  | cons c rest =>
      rw [chars, lowercaseAfter, List.append_eq_nil_iff] at empty
      obtain ⟨here, _⟩ := empty
      split at here
      · split at here <;> cases here
      · exact lowercase_char_nonempty c here

end HtmlTemplate.Text
