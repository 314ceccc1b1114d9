import HtmlTemplate.Json.Writer
import HtmlTemplate.Json.Reader

set_option autoImplicit false

namespace HtmlTemplate.Json

def Blank (text : List Char) : Prop :=
  ∀ c ∈ text, isBlank c

theorem blank_nil : Blank [] :=
  List.forall_mem_nil _

-- What is written before an item or a bracket that closes, and between a name and its value.
structure Layout where
  before : Nat → List Char
  between : List Char
  before_blank : ∀ level, Blank (before level)
  between_blank : Blank between

def Layout.dense : Layout :=
  ⟨fun _ => [], [], fun _ => blank_nil, blank_nil⟩

theorem line_break_blank (level : Nat) : Blank ('\n' :: List.replicate (2 * level) ' ') := by
  intro c member
  rcases List.mem_cons.mp member with rfl | later
  · rfl
  · obtain rfl := List.eq_of_mem_replicate later
    rfl

def Layout.indented : Layout :=
  ⟨fun level => '\n' :: List.replicate (2 * level) ' ', [' '], line_break_blank, by
    intro c member
    obtain rfl := List.mem_singleton.mp member
    rfl⟩

def quoted (s : String) : List Char :=
  '"' :: (s.toList.flatMap escape ++ ['"'])

variable (layout : Layout)

mutual
def Layout.text (level : Nat) : Json → List Char
  | .array (item :: rest) =>
      '[' :: (layout.before (level + 1) ++ Layout.text (level + 1) item ++
        Layout.items (level + 1) rest ++ layout.before level ++ [']'])
  | .object ((key, value) :: rest) =>
      '\x7b' :: (layout.before (level + 1) ++ quoted key ++ ':' :: layout.between ++
        Layout.text (level + 1) value ++ Layout.fields (level + 1) rest ++
          layout.before level ++ ['\x7d'])
  | value => (compact value).toList
def Layout.items (level : Nat) : List Json → List Char
  | [] => []
  | item :: rest =>
      ',' :: (layout.before level ++ Layout.text level item ++ Layout.items level rest)
def Layout.fields (level : Nat) : List (String × Json) → List Char
  | [] => []
  | (key, value) :: rest =>
      ',' :: (layout.before level ++ quoted key ++ ':' :: layout.between ++
        Layout.text level value ++ Layout.fields level rest)
end

theorem quote_quoted (s : String) : (quote s).toList = quoted s := by
  simp [quote, quoted]

mutual
theorem compact_dense : (value : Json) → (level : Nat) →
    (compact value).toList = Layout.dense.text level value
  | .null, _ => rfl
  | .bool _, _ => rfl
  | .number _, _ => rfl
  | .string _, _ => rfl
  | .array [], _ => rfl
  | .object [], _ => rfl
  | .array (item :: rest), level => by
      have inside := compact_dense_items (item :: rest) (level + 1) nofun
      simp only [Layout.items, List.cons.injEq, true_and] at inside
      rw [compact, String.toList_append, String.toList_append, inside]
      simp [Layout.text, Layout.dense]
  | .object ((key, value) :: rest), level => by
      have inside := compact_dense_fields ((key, value) :: rest) (level + 1) nofun
      simp only [Layout.fields, List.cons.injEq, true_and] at inside
      rw [compact, String.toList_append, String.toList_append, inside]
      simp [Layout.text, Layout.dense]
theorem compact_dense_items : (items : List Json) → (level : Nat) → items ≠ [] →
    ',' :: (compactItems items).toList = Layout.dense.items level items
  | [], _, inhabited => absurd rfl inhabited
  | [item], level, _ => by
      simp [compactItems, compact_dense item level, Layout.items, Layout.dense]
  | item :: next :: rest, level, _ => by
      have others := compact_dense_items (next :: rest) level nofun
      simpa [compactItems, compact_dense item level, Layout.items, Layout.dense] using others
theorem compact_dense_fields : (fields : List (String × Json)) → (level : Nat) → fields ≠ [] →
    ',' :: (compactFields fields).toList = Layout.dense.fields level fields
  | [], _, inhabited => absurd rfl inhabited
  | [(key, value)], level, _ => by
      simp [compactFields, compact_dense value level, quote_quoted, Layout.fields, Layout.dense]
  | (key, value) :: next :: rest, level, _ => by
      have others := compact_dense_fields (next :: rest) level nofun
      simpa [compactFields, compact_dense value level, quote_quoted, Layout.fields, Layout.dense]
        using others
end

theorem line_break_indented (level : Nat) :
    (lineBreak level).toList = Layout.indented.before level := by
  simp [lineBreak, Layout.indented]

mutual
theorem pretty_indented : (value : Json) → (level : Nat) →
    (prettyAt level value).toList = Layout.indented.text level value
  | .null, _ => rfl
  | .bool _, _ => rfl
  | .number _, _ => rfl
  | .string _, _ => rfl
  | .array [], _ => rfl
  | .object [], _ => rfl
  | .array (item :: rest), level => by
      have inside := pretty_indented_items (item :: rest) (level + 1) nofun
      simp only [Layout.items, List.cons.injEq, true_and] at inside
      simp [prettyAt, inside, Layout.text, line_break_indented]
  | .object ((key, value) :: rest), level => by
      have inside := pretty_indented_fields ((key, value) :: rest) (level + 1) nofun
      simp only [Layout.fields, List.cons.injEq, true_and] at inside
      simp [prettyAt, inside, Layout.text, line_break_indented]
theorem pretty_indented_items : (items : List Json) → (level : Nat) → items ≠ [] →
    ',' :: (prettyItems level items).toList = Layout.indented.items level items
  | [], _, inhabited => absurd rfl inhabited
  | [item], level, _ => by
      simp [prettyItems, pretty_indented item level, Layout.items, line_break_indented]
  | item :: next :: rest, level, _ => by
      have others := pretty_indented_items (next :: rest) level nofun
      simp [prettyItems, pretty_indented item level, Layout.items, line_break_indented, others]
theorem pretty_indented_fields : (fields : List (String × Json)) → (level : Nat) → fields ≠ [] →
    ',' :: (prettyFields level fields).toList = Layout.indented.fields level fields
  | [], _, inhabited => absurd rfl inhabited
  | [(key, value)], level, _ => by
      simp [prettyFields, pretty_indented value level, quote_quoted, Layout.fields,
        line_break_indented]
      rfl
  | (key, value) :: next :: rest, level, _ => by
      have others := pretty_indented_fields (next :: rest) level nofun
      simp [prettyFields, pretty_indented value level, quote_quoted, Layout.fields,
        line_break_indented, others]
      rfl
end

end HtmlTemplate.Json
