import Mathlib.Data.Finset.Card
import Mathlib.Data.List.Induction
import HtmlTemplate.Attributes

set_option autoImplicit false

namespace HtmlTemplate.Entries

variable {α : Type}

-- The names of some pairs where they come first, each with the value that comes last.
def firstPlaceLastValue (pairs : List (String × α)) : List (String × α) :=
  (keys pairs).eraseDups.filterMap fun key => (pairs.reverse.lookup key).map (key, ·)

theorem lookup_absent (pairs : List (String × α)) (key : String) :
    pairs.lookup key = none ↔ key ∉ keys pairs := by
  rw [List.lookup_eq_none_iff]
  simp only [keys, bne_iff_ne, List.mem_map, not_exists, not_and]
  exact forall_congr' fun pair => forall_congr' fun _ => ne_comm

theorem length_distinct_names (entries : List (String × α)) (distinct : (keys entries).Nodup)
    (names : List String) (same : ∀ name, name ∈ keys entries ↔ name ∈ names) :
    entries.length = names.toFinset.card := by
  have named : (keys entries).toFinset = names.toFinset := by
    ext name
    rw [List.mem_toFinset, List.mem_toFinset, same]
  rw [← named, List.toFinset_card_of_nodup distinct, keys, List.length_map]

theorem keys_set_all (pairs : List (String × α)) :
    keys (setAll [] pairs) = (keys pairs).eraseDups := by
  induction pairs using List.reverseRecOn with
  | nil => rfl
  | append_singleton pairs pair ih =>
      have placed : keys (setAll [] (pairs ++ [pair])) =
          if pair.1 ∈ keys (setAll [] pairs) then keys (setAll [] pairs)
          else keys (setAll [] pairs) ++ [pair.1] := by
        rw [← keys_set _ pair.1 pair.2]
        simp [setAll]
      have split : keys (pairs ++ [pair]) = keys pairs ++ [pair.1] := by simp [keys]
      rw [placed, ih, split, List.eraseDups_append]
      by_cases held : pair.1 ∈ keys pairs <;> simp [held, List.removeAll, List.eraseDups_cons]

theorem get_set_all (pairs : List (String × α)) (key : String) :
    get? (setAll [] pairs) key = pairs.reverse.lookup key := by
  induction pairs using List.reverseRecOn with
  | nil => rfl
  | append_singleton pairs pair ih =>
      obtain ⟨last, value⟩ := pair
      have placed : setAll [] (pairs ++ [(last, value)]) = set (setAll [] pairs) last value := by
        simp [setAll]
      rw [placed, get?_set, ih, List.reverse_concat, List.lookup_cons]
      by_cases same : last = key
      · simp [same]
      · have apart : (key == last) = false := beq_eq_false_iff_ne.mpr (Ne.symm same)
        rw [if_neg same, apart]

theorem entries_from_keys (entries : List (String × α)) (distinct : (keys entries).Nodup) :
    entries = (keys entries).filterMap fun key => (get? entries key).map (key, ·) := by
  induction entries with
  | nil => rfl
  | cons entry rest ih =>
      obtain ⟨name, value⟩ := entry
      obtain ⟨fresh, restDistinct⟩ := List.nodup_cons.mp distinct
      have others : (keys rest).filterMap (fun key => (get? ((name, value) :: rest) key).map (key, ·)) =
          (keys rest).filterMap fun key => (get? rest key).map (key, ·) := by
        apply List.filterMap_congr
        intro key member
        have apart : name ≠ key := by
          intro same
          exact fresh (same ▸ member)
        simp only [get?, if_neg apart]
      have named : keys ((name, value) :: rest) = name :: keys rest := rfl
      rw [named, List.filterMap_cons, others, ← ih restDistinct]
      simp [get?]

theorem set_all_distinct (entries pairs : List (String × α)) (distinct : (keys entries).Nodup) :
    (keys (setAll entries pairs)).Nodup := by
  induction pairs generalizing entries with
  | nil => exact distinct
  | cons pair rest ih => exact ih _ (distinct_set distinct pair.1 pair.2)

theorem set_all_first_place_last_value (pairs : List (String × α)) :
    setAll [] pairs = firstPlaceLastValue pairs := by
  rw [entries_from_keys _ (set_all_distinct [] pairs List.nodup_nil), keys_set_all]
  simp only [get_set_all, firstPlaceLastValue]

theorem set_fresh (entries : List (String × α)) (key : String) (value : α)
    (fresh : key ∉ keys entries) : set entries key value = entries ++ [(key, value)] := by
  induction entries with
  | nil => rfl
  | cons entry rest ih =>
      obtain ⟨name, held⟩ := entry
      simp only [keys, List.map_cons, List.mem_cons, not_or] at fresh
      simp [set, Ne.symm fresh.1, ih fresh.2]

theorem first_place_last_value_distinct (pairs : List (String × α)) (distinct : (keys pairs).Nodup) :
    firstPlaceLastValue pairs = pairs := by
  rw [← set_all_first_place_last_value]
  induction pairs using List.reverseRecOn with
  | nil => rfl
  | append_singleton pairs pair ih =>
      have split : keys (pairs ++ [pair]) = keys pairs ++ [pair.1] := by simp [keys]
      rw [split, List.nodup_append] at distinct
      have placed : setAll [] (pairs ++ [pair]) = set (setAll [] pairs) pair.1 pair.2 := by
        simp [setAll]
      rw [placed, ih distinct.1, set_fresh]
      intro held
      exact distinct.2.2 pair.1 held pair.1 (List.mem_singleton_self _) rfl

end HtmlTemplate.Entries

namespace HtmlTemplate.Attributes

open Entries (setAll firstPlaceLastValue)

theorem of_list_entries (pairs : List (String × String)) :
    (ofList pairs).entries = (firstPlaceLastValue pairs).map fun pair => (pair.1, .literal pair.2) := by
  rw [← Entries.set_all_first_place_last_value]
  induction pairs using List.reverseRecOn with
  | nil => rfl
  | append_singleton pairs pair ih =>
      have placed : setAll [] (pairs ++ [pair]) = Entries.set (setAll [] pairs) pair.1 pair.2 := by
        simp [setAll]
      have added : (ofList (pairs ++ [pair])).entries =
          Entries.set (ofList pairs).entries pair.1 (.literal pair.2) := by
        simp [ofList, put, Attributes.set, Text.shown]
      rw [placed, added, ih, Entries.set_map Value.literal]

end HtmlTemplate.Attributes
