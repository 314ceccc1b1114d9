import HtmlTemplate.Json.Reader

/-!
Values in which no object has a name twice. Every value that is read from a text is one, so that a
part under a name can be spoken about.
-/

set_option autoImplicit false

namespace HtmlTemplate

namespace Entries

variable {κ α : Type} [DecidableEq κ]

theorem get_of_mem (entries : List (κ × α)) (distinct : (keys entries).Nodup)
    (entry : κ × α) (member : entry ∈ entries) : get? entries entry.1 = some entry.2 := by
  induction entries with
  | nil => cases member
  | cons first rest ih =>
      obtain ⟨name, value⟩ := first
      obtain ⟨fresh, restDistinct⟩ := List.nodup_cons.mp distinct
      rcases List.mem_cons.mp member with rfl | later
      · simp [get?]
      · have held : entry.1 ∈ keys rest := List.mem_map_of_mem later
        have apart : name ≠ entry.1 := fun same => fresh (same ▸ held)
        rw [get?, if_neg apart]
        exact ih restDistinct later

end Entries

namespace Json

mutual
def distinct : Json → Bool
  | .array items => allDistinct items
  | .object fields => (Entries.keys fields).Nodup && fieldsDistinct fields
  | _ => true
def allDistinct : List Json → Bool
  | [] => true
  | item :: rest => distinct item && allDistinct rest
def fieldsDistinct : List (String × Json) → Bool
  | [] => true
  | (_, value) :: rest => distinct value && fieldsDistinct rest
end

theorem object_distinct (fields : List (String × Json)) :
    (Json.object fields).distinct ↔ (Entries.keys fields).Nodup ∧ fieldsDistinct fields := by
  simp [distinct]

theorem all_distinct_append (items others : List Json) :
    allDistinct (items ++ others) = (allDistinct items && allDistinct others) := by
  induction items with
  | nil => rfl
  | cons item rest ih => simp [allDistinct, ih, Bool.and_assoc]

theorem all_distinct_reverse (items : List Json) (held : allDistinct items) :
    allDistinct items.reverse := by
  induction items with
  | nil => rfl
  | cons item rest ih =>
      simp only [allDistinct, Bool.and_eq_true] at held
      simp [all_distinct_append, allDistinct, ih held.2, held.1]

theorem fields_distinct_set (fields : List (String × Json)) (key : String) (value : Json)
    (held : fieldsDistinct fields) (own : value.distinct) :
    fieldsDistinct (Entries.set fields key value) := by
  induction fields with
  | nil => simp [Entries.set, fieldsDistinct, own]
  | cons field rest ih =>
      simp only [fieldsDistinct, Bool.and_eq_true] at held
      rw [Entries.set]
      split
      · simp [fieldsDistinct, own, held.2]
      · simp [fieldsDistinct, held.1, ih held.2]

theorem fields_distinct_get (fields : List (String × Json)) (held : fieldsDistinct fields)
    (name : String) (value : Json) (given : Entries.get? fields name = some value) :
    value.distinct := by
  induction fields with
  | nil => cases given
  | cons field rest ih =>
      simp only [fieldsDistinct, Bool.and_eq_true] at held
      rw [Entries.get?] at given
      split at given
      · cases given
        exact held.1
      · exact ih held.2 given

theorem read_word_value (value found : Json) (word text rest : List Char)
    (read : readWord value word text = .ok (found, rest)) : found = value := by
  induction word generalizing text with
  | nil =>
      cases read
      rfl
  | cons expected word ih =>
      cases text with
      | nil => cases read
      | cons c text =>
          rw [readWord] at read
          split at read
          · exact ih text read
          · cases read

section Items

variable (readItem : List Char → Read Json)
    (distinctItem : ∀ text rest value, readItem text = .ok (value, rest) → value.distinct)

include distinctItem

theorem read_items_distinct (bound : Nat) (items : List Json) (text rest : List Char)
    (value : Json) (held : allDistinct items)
    (read : readItems readItem items bound text = .ok (value, rest)) : value.distinct := by
  induction bound generalizing items text with
  | zero => cases read
  | succ bound ih =>
      rw [readItems] at read
      split at read
      · cases read
      · split at read
        · cases read
          exact all_distinct_reverse items held
        · split at read
          · split at read
            · cases read
            · split at read
              · cases read
              · split at read
                · rename_i item further given
                  refine ih (item :: items) further ?_ read
                  simp [allDistinct, distinctItem _ _ _ given, held]
                · cases read
          · cases read

theorem read_array_distinct (text rest : List Char) (value : Json)
    (read : readArray readItem text = .ok (value, rest)) : value.distinct := by
  rw [readArray] at read
  split at read
  · cases read
  · split at read
    · cases read
      rfl
    · split at read
      · rename_i item further given
        refine read_items_distinct readItem distinctItem _ [item] further rest value ?_ read
        simp [allDistinct, distinctItem _ _ _ given]
      · cases read

theorem read_field_distinct (text rest : List Char) (field : String × Json)
    (read : readField readItem text = .ok (field, rest)) : field.2.distinct := by
  unfold readField at read
  split at read
  · cases read
  · split at read
    · split at read
      · cases read
      · split at read
        · cases read
        · split at read
          · split at read
            · rename_i given
              cases read
              exact distinctItem _ _ _ given
            · cases read
          · cases read
    · cases read

theorem read_fields_distinct (bound : Nat) (fields : List (String × Json)) (text rest : List Char)
    (value : Json) (named : (Entries.keys fields).Nodup) (held : fieldsDistinct fields)
    (read : readFields readItem fields bound text = .ok (value, rest)) : value.distinct := by
  induction bound generalizing fields text with
  | zero => cases read
  | succ bound ih =>
      rw [readFields] at read
      split at read
      · cases read
      · split at read
        · cases read
          exact (object_distinct fields).mpr ⟨named, held⟩
        · split at read
          · split at read
            · cases read
            · split at read
              · cases read
              · split at read
                · rename_i key found further given
                  have own := read_field_distinct readItem distinctItem _ _ _ given
                  exact ih (Entries.set fields key found) further
                    (Entries.distinct_set named key found)
                    (fields_distinct_set fields key found held own) read
                · cases read
          · cases read

theorem read_object_distinct (text rest : List Char) (value : Json)
    (read : readObject readItem text = .ok (value, rest)) : value.distinct := by
  rw [readObject] at read
  split at read
  · cases read
  · split at read
    · cases read
      rfl
    · split at read
      · rename_i field further given
        refine read_fields_distinct readItem distinctItem _ [field] further rest value
          (by simp [Entries.keys]) ?_ read
        simp [fieldsDistinct, read_field_distinct readItem distinctItem _ _ _ given]
      · cases read

end Items

-- A value is a scalar, or an array or object that is read with less room.
theorem read_value_forms (room : Nat) (text rest : List Char) (value : Json)
    (read : readValue room text = .ok (value, rest)) :
    value.distinct ∨ ∃ smaller more, room = smaller + 1 ∧
      (readArray (readValue smaller) more = .ok (value, rest) ∨
        readObject (readValue smaller) more = .ok (value, rest)) := by
  have word (expected found : Json) (letters more : List Char) (plain : expected.distinct)
      (given : readWord expected letters more = .ok (found, rest)) : found.distinct :=
    read_word_value expected found letters more rest given ▸ plain
  unfold readValue at read
  split at read
  next => cases read
  next c further _ =>
  split at read
  next => exact .inl (word .null _ _ _ rfl read)
  split at read
  next => exact .inl (word (.bool true) _ _ _ rfl read)
  split at read
  next => exact .inl (word (.bool false) _ _ _ rfl read)
  split at read
  next =>
    split at read
    · cases read
      exact .inl rfl
    · cases read
  split at read
  next =>
    split at read
    · cases read
      exact .inl rfl
    · cases read
  split at read
  next =>
    split at read
    · cases read
      exact .inl rfl
    · cases read
  split at read
  next =>
    cases room with
    | zero => cases read
    | succ smaller => exact .inr ⟨smaller, further, rfl, .inl read⟩
  split at read
  next =>
    cases room with
    | zero => cases read
    | succ smaller => exact .inr ⟨smaller, further, rfl, .inr read⟩
  next => cases read

theorem read_value_distinct (room : Nat) (text rest : List Char) (value : Json)
    (read : readValue room text = .ok (value, rest)) : value.distinct := by
  induction room generalizing text rest value with
  | zero =>
      rcases read_value_forms 0 text rest value read with plain | ⟨smaller, _, none, _⟩
      · exact plain
      · cases none
  | succ room ih =>
      rcases read_value_forms (room + 1) text rest value read with
        plain | ⟨smaller, more, same, given | given⟩
      · exact plain
      · cases same
        exact read_array_distinct (readValue room) ih more rest value given
      · cases same
        exact read_object_distinct (readValue room) ih more rest value given

theorem read_distinct (text : String) (value : Json) (found : read text = .ok value) :
    value.distinct := by
  rw [read, readWithin] at found
  split at found
  · cases found
  · rename_i given
    split at found
    · cases found
    · cases found
      exact read_value_distinct _ _ _ _ given

end Json

end HtmlTemplate
