import HtmlTemplate.Proofs.InsertionOrder
import HtmlTemplate.Proofs.JsonLayout

/-!
The text of a JSON value read again. A value without numbers is read back from its text exactly if
the reader has room for its nesting; otherwise the first bracket for which there is no room is
refused.
-/

set_option autoImplicit false

namespace HtmlTemplate.Json

mutual
def nesting : Json → Nat
  | .array items => 1 + nestingOf items
  | .object fields => 1 + fieldsNesting fields
  | _ => 0
def nestingOf : List Json → Nat
  | [] => 0
  | item :: rest => max (nesting item) (nestingOf rest)
def fieldsNesting : List (String × Json) → Nat
  | [] => 0
  | (_, value) :: rest => max (nesting value) (fieldsNesting rest)
end

-- Values without numbers and without a repeated name.
inductive Legible : Json → Prop
  | null : Legible .null
  | bool (b : Bool) : Legible (.bool b)
  | string (s : String) : Legible (.string s)
  | array (items : List Json) : (∀ item ∈ items, Legible item) → Legible (.array items)
  | object (fields : List (String × Json)) :
      (Entries.keys fields).Nodup → (∀ field ∈ fields, Legible field.2) → Legible (.object fields)

theorem hex_escape_read :
    ∀ n < 32, fourHex? '0' '0' (hexDigit (n / 16)) (hexDigit (n % 16)) = some n := by
  decide

theorem read_control (done : String) (c : Char) (rest : List Char) (control : c < ' ') :
    readString done
        ('\\' :: 'u' :: '0' :: '0' :: hexDigit (c.toNat / 16) :: hexDigit (c.toNat % 16) :: rest) =
      readString (done.push c) rest := by
  have small : c.toNat < 32 := control
  have unpaired : isTrailing c.toNat = false ∧ isLeading c.toNat = false := by
    simp only [isTrailing, isLeading, Bool.and_eq_false_iff, decide_eq_false_iff_not]
    omega
  rw [readString]
  simp [hex_escape_read c.toNat small, unpaired]

theorem read_simple (done : String) (letter plain : Char) (rest : List Char) (other : letter ≠ 'u')
    (simple : simpleEscape? letter = some plain) :
    readString done ('\\' :: letter :: rest) = readString (done.push plain) rest := by
  rw [readString.eq_def]
  simp [other, simple]

theorem read_plain (done : String) (c : Char) (rest : List Char) (unquoted : c ≠ '"')
    (unescaped : c ≠ '\\') (printed : ¬ c < ' ') :
    readString done (c :: rest) = readString (done.push c) rest := by
  rw [readString.eq_def]
  simp only [if_neg unquoted, if_neg unescaped, if_neg printed]

theorem read_escape (done : String) (c : Char) (rest : List Char) :
    readString done (escape c ++ rest) = readString (done.push c) rest := by
  unfold escape
  split
  next same => exact same ▸ read_simple done '"' '"' rest (by decide) rfl
  next unquoted =>
  split
  next same => exact same ▸ read_simple done '\\' '\\' rest (by decide) rfl
  next unescaped =>
  split
  next same => exact same ▸ read_simple done 'b' '\x08' rest (by decide) rfl
  split
  next same => exact same ▸ read_simple done 't' '\t' rest (by decide) rfl
  split
  next same => exact same ▸ read_simple done 'n' '\n' rest (by decide) rfl
  split
  next same => exact same ▸ read_simple done 'f' '\x0c' rest (by decide) rfl
  split
  next same => exact same ▸ read_simple done 'r' '\r' rest (by decide) rfl
  split
  next control => exact read_control done c rest control
  next printed => exact read_plain done c rest unquoted unescaped printed

theorem read_escapes (done : String) (s rest : List Char) :
    readString done (s.flatMap escape ++ '"' :: rest) = .ok (done ++ String.ofList s, rest) := by
  induction s generalizing done with
  | nil =>
      rw [List.flatMap_nil, List.nil_append, readString.eq_def]
      simp
  | cons c s ih =>
      have joined : done.push c ++ String.ofList s = done ++ String.ofList (c :: s) := by
        simp [← String.toList_inj]
      rw [List.flatMap_cons, List.append_assoc, read_escape, ih, joined]

theorem read_quoted (s : String) (rest : List Char) :
    readString "" ((quoted s).tail ++ rest) = .ok (s, rest) := by
  simp [quoted, read_escapes]

-- What is read if it fits; what does not fit is refused for its depth.
def ReadIf {α : Type} (fits : Prop) (outcome : Except Stop α) (found : α) : Prop :=
  (fits ∧ outcome = .ok found) ∨ (¬ fits ∧ ∃ stop, outcome = .error stop ∧ stop.flaw = .tooDeep)

theorem ReadIf.congr {α : Type} {fits other : Prop} {outcome : Except Stop α} {found : α}
    (same : fits ↔ other) (read : ReadIf fits outcome found) : ReadIf other outcome found := by
  rwa [ReadIf, ← same]

theorem ReadIf.next {α β : Type} {fits behind : Prop} {first : Except Stop α} {a : α}
    {proceed : α → Except Stop β} {b : β} (read : ReadIf fits first a)
    (further : ReadIf behind (proceed a) b) : ReadIf (fits ∧ behind) (first.bind proceed) b := by
  rcases read with ⟨holds, rfl⟩ | ⟨deep, stop, rfl, flaw⟩
  · exact further.congr (by simp [holds])
  · exact .inr ⟨fun both => deep both.1, stop, rfl, flaw⟩

theorem skip_blank (blank text : List Char) (spaces : Blank blank) :
    skipBlank (blank ++ text) = skipBlank text :=
  List.dropWhile_append_of_pos spaces

theorem skip_visible (c : Char) (rest : List Char) (visible : isBlank c = false) :
    skipBlank (c :: rest) = c :: rest := by
  simp [skipBlank, visible]

variable (layout : Layout)

theorem text_opens (level : Nat) (value : Json) (legible : Legible value) :
    ∃ c more, layout.text level value = c :: more ∧ isBlank c = false ∧ c ≠ ']' := by
  cases legible with
  | null => exact ⟨'n', _, rfl, rfl, by decide⟩
  | bool b => cases b <;> exact ⟨_, _, rfl, rfl, by decide⟩
  | string s =>
      refine ⟨'"', (quoted s).tail, ?_, rfl, by decide⟩
      exact quote_quoted s
  | array items => cases items <;> exact ⟨'[', _, rfl, rfl, by decide⟩
  | object fields => cases fields <;> exact ⟨'\x7b', _, rfl, rfl, by decide⟩

def ReadsWithin (room : Nat) (readItem : List Char → Read Json) : Prop :=
  ∀ level value lead rest, Blank lead → Legible value →
    ReadIf (value.nesting ≤ room) (readItem (lead ++ (layout.text level value ++ rest)))
      (value, rest)

theorem read_items_comma (readItem : List Char → Read Json) (held : List Json) (bound : Nat)
    (text : List Char) (c : Char) (more : List Char) (opened : skipBlank text = c :: more)
    (inside : c ≠ ']') :
    readItems readItem held (bound + 1) (',' :: text) =
      (readItem (c :: more)).bind fun found =>
        readItems readItem (found.1 :: held) bound found.2 := by
  have comma : skipBlank (',' :: text) = ',' :: text := rfl
  simp only [readItems, comma, opened, if_neg inside]
  cases readItem (c :: more) <;> rfl

theorem read_array_item (readItem : List Char → Read Json) (text : List Char) (c : Char)
    (more : List Char) (opened : skipBlank text = c :: more) (inside : c ≠ ']') :
    readArray readItem text =
      (readItem (c :: more)).bind fun found =>
        readItems readItem [found.1] found.2.length.succ found.2 := by
  simp only [readArray, opened, if_neg inside]
  cases readItem (c :: more) <;> rfl

theorem items_length (level : Nat) (items : List Json) :
    items.length ≤ (layout.items level items).length := by
  induction items with
  | nil => exact Nat.zero_le _
  | cons item others ih =>
      simp only [Layout.items, List.length_cons, List.length_append]
      omega

theorem read_fields_comma (readItem : List Char → Read Json) (held : List (String × Json))
    (bound : Nat) (text : List Char) (c : Char) (more : List Char)
    (opened : skipBlank text = c :: more) (inside : c ≠ '\x7d') :
    readFields readItem held (bound + 1) (',' :: text) =
      (readField readItem (c :: more)).bind fun found =>
        readFields readItem (Entries.set held found.1.1 found.1.2) bound found.2 := by
  have comma : skipBlank (',' :: text) = ',' :: text := rfl
  simp only [readFields, comma, opened, if_neg inside]
  cases readField readItem (c :: more) <;> rfl

theorem read_object_field (readItem : List Char → Read Json) (text : List Char) (c : Char)
    (more : List Char) (opened : skipBlank text = c :: more) (inside : c ≠ '\x7d') :
    readObject readItem text =
      (readField readItem (c :: more)).bind fun found =>
        readFields readItem [found.1] found.2.length.succ found.2 := by
  simp only [readObject, opened, if_neg inside]
  cases readField readItem (c :: more) <;> rfl

theorem fields_length (level : Nat) (fields : List (String × Json)) :
    fields.length ≤ (layout.fields level fields).length := by
  induction fields with
  | nil => exact Nat.zero_le _
  | cons field others ih =>
      simp only [Layout.fields, List.length_cons, List.length_append]
      omega

theorem read_field_value (readItem : List Char → Read Json) (key : String) (text : List Char) :
    readField readItem (quoted key ++ ':' :: text) =
      (readItem text).bind fun found => .ok ((key, found.1), found.2) := by
  have opened : quoted key ++ ':' :: text = '"' :: ((quoted key).tail ++ ':' :: text) := rfl
  have colon : skipBlank (':' :: text) = ':' :: text := rfl
  simp only [opened, readField, if_pos, read_quoted, colon]
  cases readItem text <;> rfl

section Items

variable {room : Nat} {readItem : List Char → Read Json}
    (reads : ReadsWithin layout room readItem)

include reads

theorem item_opens (level : Nat) (item : Json) (lead rest : List Char) (blank : Blank lead)
    (legible : Legible item) :
    ∃ c more, skipBlank (lead ++ (layout.text level item ++ rest)) = c :: more ∧ c ≠ ']' ∧
      ReadIf (item.nesting ≤ room) (readItem (c :: more)) (item, rest) := by
  obtain ⟨c, more, opened, visible, inside⟩ := text_opens layout level item legible
  have read := reads level item [] rest blank_nil legible
  rw [opened, List.nil_append, List.cons_append] at read
  refine ⟨c, more ++ rest, ?_, inside, read⟩
  rw [skip_blank lead _ blank, opened]
  exact skip_visible c (more ++ rest) visible

theorem read_items_text (items held : List Json) (bound level : Nat) (closing rest : List Char)
    (blank : Blank closing) (enough : items.length < bound)
    (legible : ∀ item ∈ items, Legible item) :
    ReadIf (nestingOf items ≤ room)
      (readItems readItem held bound (layout.items level items ++ (closing ++ ']' :: rest)))
      (.array (held.reverse ++ items), rest) := by
  induction items generalizing held bound with
  | nil =>
      obtain ⟨bound, rfl⟩ : ∃ smaller, bound = smaller + 1 := ⟨bound - 1, by omega⟩
      have closed : skipBlank (closing ++ ']' :: rest) = ']' :: rest := skip_blank closing _ blank
      refine .inl ⟨Nat.zero_le _, ?_⟩
      simp [readItems, Layout.items, closed]
  | cons item others ih =>
      obtain ⟨bound, rfl⟩ : ∃ smaller, bound = smaller + 1 := ⟨bound - 1, by omega⟩
      obtain ⟨here, later⟩ := List.forall_mem_cons.mp legible
      have behind := ih (item :: held) bound (Nat.lt_of_succ_lt_succ enough) later
      obtain ⟨c, more, opened, inside, read⟩ := item_opens layout reads level item
        (layout.before level) (layout.items level others ++ (closing ++ ']' :: rest))
        (layout.before_blank level) here
      have stepped : readItems readItem held (bound + 1)
            (layout.items level (item :: others) ++ (closing ++ ']' :: rest)) =
          (readItem (c :: more)).bind fun found =>
            readItems readItem (found.1 :: held) bound found.2 := by
        rw [← read_items_comma readItem held bound _ c more opened inside]
        simp [Layout.items]
      rw [stepped]
      refine (ReadIf.next read ?_).congr Nat.max_le.symm
      rwa [List.reverse_cons, List.append_assoc] at behind

theorem read_array_text (items : List Json) (level : Nat) (rest : List Char)
    (legible : ∀ item ∈ items, Legible item) :
    ReadIf (nestingOf items ≤ room)
      (readArray readItem ((layout.text level (.array items)).tail ++ rest))
      (.array items, rest) := by
  cases items with
  | nil => exact .inl ⟨Nat.zero_le _, rfl⟩
  | cons item others =>
      obtain ⟨here, later⟩ := List.forall_mem_cons.mp legible
      obtain ⟨c, more, opened, inside, read⟩ := item_opens layout reads (level + 1) item
        (layout.before (level + 1))
        (layout.items (level + 1) others ++ (layout.before level ++ ']' :: rest))
        (layout.before_blank (level + 1)) here
      have stepped :
          readArray readItem ((layout.text level (.array (item :: others))).tail ++ rest) =
            (readItem (c :: more)).bind fun found =>
              readItems readItem [found.1] found.2.length.succ found.2 := by
        rw [← read_array_item readItem _ c more opened inside]
        simp [Layout.text]
      rw [stepped]
      refine (ReadIf.next read ?_).congr Nat.max_le.symm
      refine read_items_text layout reads others [item] _ (level + 1) (layout.before level) rest
        (layout.before_blank level) ?_ later
      have counted := items_length layout (level + 1) others
      simp only [List.length_append]
      omega

theorem field_opens (level : Nat) (key : String) (value : Json) (lead rest : List Char)
    (blank : Blank lead) (legible : Legible value) :
    ∃ c more,
      skipBlank
          (lead ++ (quoted key ++ ':' :: (layout.between ++ (layout.text level value ++ rest)))) =
        c :: more ∧
      c ≠ '\x7d' ∧
      ReadIf (value.nesting ≤ room) (readField readItem (c :: more)) ((key, value), rest) := by
  refine ⟨'"', _, skip_blank lead _ blank, by decide, ?_⟩
  refine (read_field_value readItem key _).symm ▸ ?_
  have read := reads level value layout.between rest layout.between_blank legible
  refine (ReadIf.next read ?_).congr (and_iff_left trivial)
  exact .inl ⟨trivial, rfl⟩

theorem read_fields_text (fields held : List (String × Json)) (bound level : Nat)
    (closing rest : List Char) (blank : Blank closing) (enough : fields.length < bound)
    (legible : ∀ field ∈ fields, Legible field.2)
    (named : (Entries.keys (held ++ fields)).Nodup) :
    ReadIf (fieldsNesting fields ≤ room)
      (readFields readItem held bound (layout.fields level fields ++ (closing ++ '\x7d' :: rest)))
      (.object (held ++ fields), rest) := by
  induction fields generalizing held bound with
  | nil =>
      obtain ⟨bound, rfl⟩ : ∃ smaller, bound = smaller + 1 := ⟨bound - 1, by omega⟩
      have closed : skipBlank (closing ++ '\x7d' :: rest) = '\x7d' :: rest :=
        skip_blank closing _ blank
      refine .inl ⟨Nat.zero_le _, ?_⟩
      simp [readFields, Layout.fields, closed]
  | cons field others ih =>
      obtain ⟨bound, rfl⟩ : ∃ smaller, bound = smaller + 1 := ⟨bound - 1, by omega⟩
      obtain ⟨key, value⟩ := field
      obtain ⟨here, later⟩ := List.forall_mem_cons.mp legible
      have fresh : key ∉ Entries.keys held := by
        intro member
        rw [Entries.keys, List.map_append, List.nodup_append] at named
        exact named.2.2 key member key List.mem_cons_self rfl
      have behind := ih (held ++ [(key, value)]) bound (Nat.lt_of_succ_lt_succ enough) later
        (by simpa using named)
      obtain ⟨c, more, opened, inside, read⟩ := field_opens layout reads level key value
        (layout.before level) (layout.fields level others ++ (closing ++ '\x7d' :: rest))
        (layout.before_blank level) here
      have stepped : readFields readItem held (bound + 1)
            (layout.fields level ((key, value) :: others) ++ (closing ++ '\x7d' :: rest)) =
          (readField readItem (c :: more)).bind fun found =>
            readFields readItem (Entries.set held found.1.1 found.1.2) bound found.2 := by
        rw [← read_fields_comma readItem held bound _ c more opened inside]
        simp [Layout.fields]
      rw [stepped]
      refine (ReadIf.next read ?_).congr Nat.max_le.symm
      rw [List.append_assoc] at behind
      rwa [Entries.set_fresh held key value fresh]

theorem read_object_text (fields : List (String × Json)) (level : Nat) (rest : List Char)
    (named : (Entries.keys fields).Nodup) (legible : ∀ field ∈ fields, Legible field.2) :
    ReadIf (fieldsNesting fields ≤ room)
      (readObject readItem ((layout.text level (.object fields)).tail ++ rest))
      (.object fields, rest) := by
  cases fields with
  | nil => exact .inl ⟨Nat.zero_le _, rfl⟩
  | cons field others =>
      obtain ⟨key, value⟩ := field
      obtain ⟨here, later⟩ := List.forall_mem_cons.mp legible
      obtain ⟨c, more, opened, inside, read⟩ := field_opens layout reads (level + 1) key value
        (layout.before (level + 1))
        (layout.fields (level + 1) others ++ (layout.before level ++ '\x7d' :: rest))
        (layout.before_blank (level + 1)) here
      have stepped :
          readObject readItem
              ((layout.text level (.object ((key, value) :: others))).tail ++ rest) =
            (readField readItem (c :: more)).bind fun found =>
              readFields readItem [found.1] found.2.length.succ found.2 := by
        rw [← read_object_field readItem _ c more opened inside]
        simp [Layout.text]
      rw [stepped]
      refine (ReadIf.next read ?_).congr Nat.max_le.symm
      refine read_fields_text layout reads others [(key, value)] _ (level + 1) (layout.before level)
        rest (layout.before_blank level) ?_ later named
      have counted := fields_length layout (level + 1) others
      simp only [List.length_append]
      omega

end Items

theorem read_value_blank (room : Nat) (lead text : List Char) (blank : Blank lead) :
    readValue room (lead ++ text) = readValue room text := by
  rw [readValue, skip_blank lead text blank, ← readValue]

theorem read_value_array (room : Nat) (text : List Char) :
    readValue (room + 1) ('[' :: text) = readArray (readValue room) text := by
  rw [readValue]
  rfl

theorem read_value_deep (text : List Char) :
    readValue 0 ('[' :: text) = .error (.next .tooDeep ('[' :: text)) ∧
      readValue 0 ('\x7b' :: text) = .error (.next .tooDeep ('\x7b' :: text)) := by
  constructor <;> (rw [readValue]; rfl)

theorem read_value_object (room : Nat) (text : List Char) :
    readValue (room + 1) ('\x7b' :: text) = readObject (readValue room) text := by
  rw [readValue]
  rfl

theorem read_value_flat (room level : Nat) (value : Json) (rest : List Char)
    (flat : value.nesting = 0) (legible : Legible value) :
    readValue room (layout.text level value ++ rest) = .ok (value, rest) := by
  cases legible with
  | null => rw [readValue.eq_def]; rfl
  | bool b => cases b <;> (rw [readValue.eq_def]; rfl)
  | string s =>
      have written : layout.text level (.string s) = quoted s := quote_quoted s
      have opened : skipBlank (quoted s ++ rest) = '"' :: ((quoted s).tail ++ rest) := rfl
      rw [written, readValue, opened]
      simp [read_quoted]
  | array items => simp [nesting] at flat
  | object fields => simp [nesting] at flat

theorem array_opens (level : Nat) (items : List Json) (rest : List Char) :
    layout.text level (.array items) ++ rest =
      '[' :: ((layout.text level (.array items)).tail ++ rest) := by
  cases items <;> rfl

theorem object_opens (level : Nat) (fields : List (String × Json)) (rest : List Char) :
    layout.text level (.object fields) ++ rest =
      '\x7b' :: ((layout.text level (.object fields)).tail ++ rest) := by
  cases fields <;> rfl

theorem legible_forms (value : Json) (legible : Legible value) :
    value.nesting = 0 ∨ (∃ items, value = .array items ∧ ∀ item ∈ items, Legible item) ∨
      ∃ fields, value = .object fields ∧ (Entries.keys fields).Nodup ∧
        ∀ field ∈ fields, Legible field.2 := by
  cases legible with
  | array items inside => exact .inr (.inl ⟨items, rfl, inside⟩)
  | object fields named inside => exact .inr (.inr ⟨fields, rfl, named, inside⟩)
  | _ => exact .inl rfl

-- By induction on the room: items and fields are read with one level less.
theorem read_value_text (room : Nat) : ReadsWithin layout room (readValue room) := by
  induction room with
  | zero =>
      intro level value lead rest blank legible
      rw [read_value_blank 0 lead _ blank]
      rcases legible_forms value legible with flat | ⟨items, rfl, _⟩ | ⟨fields, rfl, _, _⟩
      · exact .inl ⟨Nat.le_of_eq flat, read_value_flat layout 0 level value rest flat legible⟩
      · rw [array_opens]
        exact .inr ⟨by simp [nesting], _, (read_value_deep _).1, rfl⟩
      · rw [object_opens]
        exact .inr ⟨by simp [nesting], _, (read_value_deep _).2, rfl⟩
  | succ room ih =>
      intro level value lead rest blank legible
      rw [read_value_blank (room + 1) lead _ blank]
      rcases legible_forms value legible with
        flat | ⟨items, rfl, inside⟩ | ⟨fields, rfl, named, inside⟩
      · have fits : value.nesting ≤ room + 1 := by omega
        exact .inl ⟨fits, read_value_flat layout _ level value rest flat legible⟩
      · rw [array_opens, read_value_array]
        refine (read_array_text layout ih items level rest inside).congr ?_
        rw [nesting]
        omega
      · rw [object_opens, read_value_object]
        refine (read_object_text layout ih fields level rest named inside).congr ?_
        rw [nesting]
        omega

theorem read_layout (value : Json) (text : String) (trailing : List Char)
    (written : text.toList = layout.text 0 value ++ trailing) (blank : Blank trailing)
    (legible : Legible value) :
    (value.nesting ≤ nestingLimit ∧ read text = .ok value) ∨
      (nestingLimit < value.nesting ∧ ∃ m, read text = .error m ∧ m.flaw = .tooDeep) := by
  have front := read_value_text layout nestingLimit 0 value [] trailing blank_nil legible
  rw [List.nil_append, ← written] at front
  have ended : readEnd trailing = .ok () := by
    have nothing := skip_blank trailing [] blank
    rw [List.append_nil] at nothing
    rw [readEnd, nothing]
    rfl
  rcases front with ⟨fits, found⟩ | ⟨deep, stop, failed, flaw⟩
  · refine .inl ⟨fits, ?_⟩
    rw [read, readWithin, found]
    simp only [ended]
  · refine .inr ⟨by omega, stop.within text, ?_, flaw⟩
    rw [read, readWithin, failed]

theorem read_written (dense : Bool) (value : Json) (trailing : String)
    (blank : Blank trailing.toList) (legible : Legible value) :
    let text := (if dense then compact else pretty) value ++ trailing
    (value.nesting ≤ nestingLimit ∧ read text = .ok value) ∨
      (nestingLimit < value.nesting ∧ ∃ m, read text = .error m ∧ m.flaw = .tooDeep) := by
  cases dense with
  | true =>
      refine read_layout Layout.dense value _ trailing.toList ?_ blank legible
      rw [if_pos rfl, String.toList_append, compact_dense value 0]
  | false =>
      refine read_layout Layout.indented value _ trailing.toList ?_ blank legible
      rw [if_neg Bool.false_ne_true, String.toList_append]
      rw [pretty, pretty_indented value 0]

end HtmlTemplate.Json
