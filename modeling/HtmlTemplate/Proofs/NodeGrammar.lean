import Mathlib.Data.List.Forall2
import HtmlTemplate.Json.Writer
import HtmlTemplate.Node.Reader
import HtmlTemplate.Proofs.InsertionOrder

/-!
The JSON values that describe nodes, and the node that each of them describes. Reading accepts
exactly these. Fields that are unknown or shadowed by a preferred name have no influence.
-/

set_option autoImplicit false

namespace HtmlTemplate.Node

section Outcome

variable {ε α β : Type}

theorem bind_ok (first : Except ε α) (next : α → Except ε β) (b : β) :
    (first >>= next) = .ok b ↔ ∃ a, first = .ok a ∧ next a = .ok b := by
  cases first with
  | ok a => exact ⟨fun done => ⟨a, rfl, done⟩, fun ⟨_, same, done⟩ => Except.ok.inj same ▸ done⟩
  | error e => exact ⟨nofun, nofun⟩

theorem map_ok (f : α → β) (outcome : Except ε α) (b : β) :
    outcome.map f = .ok b ↔ ∃ a, outcome = .ok a ∧ f a = b := by
  cases outcome <;> simp [Except.map]

theorem map_error_ok (f : ε → β) (outcome : Except ε α) (a : α) :
    outcome.mapError f = .ok a ↔ outcome = .ok a := by
  cases outcome <;> simp [Except.mapError]

theorem within_ok (key : String) (outcome : Except Rejection α) (a : α) :
    within key outcome = .ok a ↔ outcome = .ok a :=
  map_error_ok _ outcome a

end Outcome

-- Numbers and booleans stand for their own JSON text.
inductive ScalarText : Json → String → Prop
  | string (s : String) : ScalarText (.string s) s
  | number (n : Number) : ScalarText (.number n) (Json.compact (.number n))
  | bool (b : Bool) : ScalarText (.bool b) (Json.compact (.bool b))

-- The keys of an object in order, each with the text of its scalar.
inductive DescribesAttributes : Json → Attributes → Prop
  | object (fields : List (String × Json)) (texts : List (String × String))
      (attributes : Attributes) :
      List.Forall₂ (fun field text => field.1 = text.1 ∧ ScalarText field.2 text.2) fields texts →
      attributes.entries =
        (Entries.firstPlaceLastValue texts).map (fun entry => (entry.1, .literal entry.2)) →
      DescribesAttributes (.object fields) attributes

def chosen (fields : List (String × Json)) (names : List String) : Option Json :=
  names.findSome? (Entries.get? fields)

mutual
-- What each node looks like as JSON. Of an object only the fields named here matter.
inductive Describes : Json → Node → Prop
  | text (s : String) : Describes (.string s) (.text s)
  | reference (fields : List (String × Json)) (name : String) (params : Json) :
      Entries.get? fields "template" = some (.string name) →
      Entries.get? fields "params" = some params →
      (∀ field ∈ ["tag", "body", "children", "attributes", "attrs", "properties", "comment"],
        Entries.get? fields field = none) →
      Describes (.object fields) (.reference ⟨name, params⟩)
  | element (fields : List (String × Json)) (tag comment : Option String)
      (attributes : Option Attributes) (body : Option (Body Node)) :
      Entries.get? fields "template" = none →
      Entries.get? fields "params" = none →
      Entries.get? fields "tag" = tag.map .string →
      Entries.get? fields "comment" = comment.map .string →
      Option.Rel DescribesAttributes (chosen fields ["attributes", "properties", "attrs"])
        attributes →
      Option.Rel DescribesBody (chosen fields ["body", "children"]) body →
      Describes (.object fields)
        (.element
          ⟨tag.map .literal, attributes.map .literal, body.map .literal, comment.map .literal⟩)
inductive DescribesBody : Json → Body Node → Prop
  | text (s : String) : DescribesBody (.string s) (.text s)
  | nodes (items : List Json) (children : List Node) :
      List.Forall₂ Describes items children → DescribesBody (.array items) (.nodes children)
end

theorem string_of_ok (value : Json) (s : String) : stringOf value = .ok s ↔ value = .string s := by
  cases value <;> simp [stringOf]

theorem string_field_ok (fields : List (String × Json)) (name : String) (text : Option String) :
    stringField fields name = .ok text ↔ Entries.get? fields name = text.map .string := by
  unfold stringField
  cases Entries.get? fields name with
  | none => cases text <;> simp
  | some value => cases text <;> simp [within_ok, map_ok, string_of_ok]

theorem attribute_text_ok (value : Json) (text : String) :
    attributeText value = .ok text ↔ ScalarText value text := by
  constructor
  · intro read
    cases value with
    | string =>
        cases read
        exact .string _
    | number =>
        cases read
        exact .number _
    | bool =>
        cases read
        exact .bool _
    | null => cases read
    | array items => cases read
    | object fields => cases read
  · intro scalar
    cases scalar <;> rfl

theorem attribute_texts_ok (fields : List (String × Json)) (texts : List (String × String)) :
    attributeTexts fields = .ok texts ↔
      List.Forall₂ (fun field text => field.1 = text.1 ∧ ScalarText field.2 text.2) fields
        texts := by
  induction fields generalizing texts with
  | nil => cases texts <;> simp [attributeTexts]
  | cons field rest ih =>
      obtain ⟨key, value⟩ := field
      simp only [attributeTexts, bind_ok, within_ok, attribute_text_ok, ih]
      cases texts with
      | nil => simp [pure, Except.pure]
      | cons text others =>
          obtain ⟨name, shown⟩ := text
          simp only [List.forall₂_cons, pure, Except.pure, Except.ok.injEq, List.cons.injEq,
            Prod.mk.injEq]
          constructor
          · rintro ⟨_, scalar, _, behind, ⟨same, rfl⟩, rfl⟩
            exact ⟨⟨same, scalar⟩, behind⟩
          · rintro ⟨⟨same, scalar⟩, behind⟩
            exact ⟨shown, scalar, others, behind, ⟨same, rfl⟩, rfl⟩

theorem attributes_of_entries (attributes : Attributes) (texts : List (String × String)) :
    Attributes.ofList texts = attributes ↔
      attributes.entries =
        (Entries.firstPlaceLastValue texts).map (fun entry => (entry.1, .literal entry.2)) := by
  rw [← Attributes.of_list_entries]
  constructor
  · rintro rfl
    rfl
  · intro same
    cases attributes
    cases same
    rfl

theorem attributes_of_ok (value : Json) (attributes : Attributes) :
    attributesOf value = .ok attributes ↔ DescribesAttributes value attributes := by
  constructor
  · intro read
    cases value with
    | object fields =>
        rw [attributesOf, map_ok] at read
        obtain ⟨texts, scalars, same⟩ := read
        exact .object fields texts attributes ((attribute_texts_ok fields texts).mp scalars)
          ((attributes_of_entries attributes texts).mp same)
    | null => cases read
    | bool b => cases read
    | number n => cases read
    | string s => cases read
    | array items => cases read
  · intro described
    cases described with
    | object fields texts _ scalars entries =>
        rw [attributesOf, map_ok]
        exact ⟨texts, (attribute_texts_ok fields texts).mpr scalars,
          (attributes_of_entries attributes texts).mpr entries⟩

theorem first_present_chosen (fields : List (String × Json)) (names : List String) :
    (firstPresent fields names).map Prod.snd = chosen fields names := by
  induction names with
  | nil => rfl
  | cons name rest ih =>
      cases held : Entries.get? fields name with
      | none => simpa [firstPresent, chosen, held] using ih
      | some value => simp [firstPresent, chosen, held]

def aliasField {α : Type} (read : Json → Except Rejection α) (fields : List (String × Json))
    (names : List String) : Except Rejection (Option α) :=
  match firstPresent fields names with
  | none => .ok none
  | some (name, value) => within name ((read value).map some)

theorem alias_field_ok {α : Type} (read : Json → Except Rejection α) (described : Json → α → Prop)
    (fields : List (String × Json)) (names : List String) (found : Option α)
    (reads : ∀ value a, chosen fields names = some value →
      (read value = .ok a ↔ described value a)) :
    aliasField read fields names = .ok found ↔
      Option.Rel described (chosen fields names) found := by
  rw [← first_present_chosen] at reads ⊢
  unfold aliasField
  cases present : firstPresent fields names with
  | none => cases found <;> simp
  | some entry =>
      obtain ⟨name, value⟩ := entry
      have here (a : α) : read value = .ok a ↔ described value a :=
        reads value a (by simp [present])
      cases found <;> simp [within_ok, map_ok, here]

theorem body_named_lookup (name : String) (fields : List (String × Json)) :
    bodyNamed name fields =
      (Entries.get? fields name).map fun value => within name (bodyOf value) := by
  induction fields with
  | nil => rfl
  | cons field rest ih =>
      obtain ⟨key, value⟩ := field
      by_cases same : key = name <;> simp [bodyNamed, Entries.get?, same, ih]

theorem within_map {α β : Type} (name : String) (f : α → β) (outcome : Except Rejection α) :
    (within name outcome).map f = within name (outcome.map f) := by
  cases outcome <;> rfl

-- An object read field by field. It matters only through what stands under the names asked for.
theorem of_json_object (fields : List (String × Json)) :
    ofJson (.object fields) =
      if Entries.has fields "template" || Entries.has fields "params" then
        (referenceOf fields).map .reference
      else do
        let tag ← stringField fields "tag"
        let comment ← stringField fields "comment"
        let attributes ← aliasField attributesOf fields attributesNames
        let body ← aliasField bodyOf fields ["body", "children"]
        return .element
          ⟨tag.map .literal, attributes.map .literal, body.map .literal, comment.map .literal⟩ := by
  have mapping : attributesField fields = aliasField attributesOf fields attributesNames := rfl
  rw [ofJson, mapping]
  split
  · rfl
  · refine bind_congr fun tag => bind_congr fun comment => bind_congr fun attributes => ?_
    rw [body_named_lookup, body_named_lookup, aliasField]
    cases first : Entries.get? fields "body" with
    | some value => simp [firstPresent, first, within_map]
    | none =>
        cases second : Entries.get? fields "children" with
        | some value => simp [firstPresent, first, second, within_map]
        | none => simp [firstPresent, first, second]

theorem reference_of_ok (fields : List (String × Json)) (r : Reference) :
    referenceOf fields = .ok r ↔
      Entries.get? fields "template" = some (.string r.name) ∧
        Entries.get? fields "params" = some r.params ∧
        ∀ field ∈ elementFields, Entries.get? fields field = none := by
  have absent : elementFields.find? (Entries.has fields) = none ↔
      ∀ field ∈ elementFields, Entries.get? fields field = none := by
    simp [List.find?_eq_none, Entries.has]
  unfold referenceOf
  split
  · rename_i missing
    simp [missing]
  · rename_i missing
    simp [missing]
  · rename_i name params template given
    split
    · rename_i field found
      have mixed : ¬ ∀ field ∈ elementFields, Entries.get? fields field = none := by
        rw [← absent, found]
        nofun
      simp [mixed]
    · rename_i pure
      simp only [bind_ok, within_ok, string_of_ok, template, given]
      obtain ⟨called, passed⟩ := r
      constructor
      · rintro ⟨_, rfl, done⟩
        cases done
        exact ⟨rfl, rfl, absent.mp pure⟩
      · rintro ⟨same, passes, _⟩
        cases same
        cases passes
        exact ⟨called, rfl, rfl⟩

theorem object_ok (fields : List (String × Json)) (node : Node)
    (reads : ∀ value body, chosen fields ["body", "children"] = some value →
      (bodyOf value = .ok body ↔ DescribesBody value body)) :
    ofJson (.object fields) = .ok node ↔ Describes (.object fields) node := by
  rw [of_json_object]
  by_cases marked : (Entries.has fields "template" || Entries.has fields "params") = true
  · rw [if_pos marked, map_ok]
    constructor
    · rintro ⟨r, read, rfl⟩
      obtain ⟨named, passed, plain⟩ := (reference_of_ok fields r).mp read
      exact .reference fields r.name r.params named passed plain
    · intro described
      cases described with
      | reference _ name params named passed plain =>
          exact ⟨⟨name, params⟩, (reference_of_ok fields _).mpr ⟨named, passed, plain⟩, rfl⟩
      | element _ tag comment attributes body unnamed unpassed =>
          simp [Entries.has, unnamed, unpassed] at marked
  · have unmarked :
        Entries.get? fields "template" = none ∧ Entries.get? fields "params" = none := by
      simpa [Entries.has] using marked
    have mapping := fun attributes => alias_field_ok attributesOf DescribesAttributes fields
      attributesNames attributes fun value a _ => attributes_of_ok value a
    have content := fun body => alias_field_ok bodyOf DescribesBody fields ["body", "children"]
      body reads
    rw [if_neg marked]
    simp only [bind_ok, string_field_ok, mapping, content]
    constructor
    · rintro ⟨tag, tagged, comment, commented, attributes, mapped, body, filled, done⟩
      cases done
      exact .element fields tag comment attributes body unmarked.1 unmarked.2 tagged commented
        mapped filled
    · intro described
      cases described with
      | reference _ name params named => simp [unmarked.1] at named
      | element _ tag comment attributes body _ _ tagged commented mapped filled =>
          exact ⟨tag, tagged, comment, commented, attributes, mapped, body, filled, rfl⟩

mutual
theorem of_json_ok : (value : Json) → (node : Node) →
    (ofJson value = .ok node ↔ Describes value node)
  | .string s, node => by
      constructor
      · intro read
        cases read
        exact .text s
      · intro described
        cases described
        rfl
  | .object fields, node => by
      refine object_ok fields node fun value body held => ?_
      obtain ⟨name, _, found⟩ := List.exists_of_findSome?_eq_some held
      exact fields_bodies_ok fields name value found body
  | .null, node => ⟨nofun, nofun⟩
  | .bool _, node => ⟨nofun, nofun⟩
  | .number _, node => ⟨nofun, nofun⟩
  | .array _, node => ⟨nofun, nofun⟩
theorem body_of_ok : (value : Json) → (body : Body Node) →
    (bodyOf value = .ok body ↔ DescribesBody value body)
  | .string s, body => by
      constructor
      · intro read
        cases read
        exact .text s
      · intro described
        cases described
        rfl
  | .array items, body => by
      rw [bodyOf, map_ok]
      constructor
      · rintro ⟨children, read, rfl⟩
        exact .nodes items children ((of_items_ok items 0 children).mp read)
      · intro described
        cases described with
        | nodes _ children listed =>
            exact ⟨children, (of_items_ok items 0 children).mpr listed, rfl⟩
  | .null, body => ⟨nofun, nofun⟩
  | .bool _, body => ⟨nofun, nofun⟩
  | .number _, body => ⟨nofun, nofun⟩
  | .object _, body => ⟨nofun, nofun⟩
theorem fields_bodies_ok : (fields : List (String × Json)) → (name : String) → (value : Json) →
    Entries.get? fields name = some value → (body : Body Node) →
    (bodyOf value = .ok body ↔ DescribesBody value body)
  | [], name, value, held, body => by cases held
  | (key, first) :: rest, name, value, held, body => by
      rw [Entries.get?] at held
      split at held
      · cases held
        exact body_of_ok first body
      · exact fields_bodies_ok rest name value held body
theorem of_items_ok : (items : List Json) → (i : Nat) → (nodes : List Node) →
    (ofItems i items = .ok nodes ↔ List.Forall₂ Describes items nodes)
  | [], i, nodes => by cases nodes <;> simp [ofItems]
  | item :: rest, i, nodes => by
      simp only [ofItems, bind_ok, within_ok, of_json_ok item, of_items_ok rest (i + 1)]
      cases nodes with
      | nil => simp [pure, Except.pure]
      | cons node others => simp [pure, Except.pure]
end

theorem object_congr (fields others : List (String × Json))
    (plain : ∀ name ∈ ["template", "params", "tag", "comment"],
      Entries.get? others name = Entries.get? fields name)
    (mapping : firstPresent others attributesNames = firstPresent fields attributesNames)
    (content : firstPresent others ["body", "children"] = firstPresent fields ["body", "children"])
    (mixed : Entries.has fields "template" || Entries.has fields "params" →
      ∀ name ∈ elementFields, Entries.get? others name = Entries.get? fields name) :
    ofJson (.object others) = ofJson (.object fields) := by
  simp only [List.forall_mem_cons] at plain
  obtain ⟨template, params, tag, comment, _⟩ := plain
  have marks : (Entries.has others "template" || Entries.has others "params") =
      (Entries.has fields "template" || Entries.has fields "params") := by
    simp only [Entries.has, template, params]
  rw [of_json_object, of_json_object, marks]
  by_cases marked : (Entries.has fields "template" || Entries.has fields "params") = true
  · have search : elementFields.find? (Entries.has others) =
        elementFields.find? (Entries.has fields) := by
      have same := mixed marked
      simp only [elementFields, List.forall_mem_cons] at same
      simp [elementFields, List.find?_cons, Entries.has, same]
    rw [if_pos marked, if_pos marked, referenceOf, referenceOf, template, params, search]
  · rw [if_neg marked, if_neg marked, stringField, stringField, stringField, stringField, tag,
      comment, aliasField, aliasField, aliasField, aliasField, mapping, content]

-- A field that is not looked at: it is unknown, or a preferred name stands for it.
inductive Ignored (fields : List (String × Json)) : String → Prop
  | unknown (key : String) :
      key ∉ ["template", "params", "tag", "body", "children", "attributes", "attrs", "properties",
        "comment"] →
      Ignored fields key
  | shadowed (aliases : List String) (preferred key : String) :
      aliases = ["attributes", "properties", "attrs"] ∨ aliases = ["body", "children"] →
      [preferred, key].Sublist aliases →
      Entries.has fields preferred →
      Entries.get? fields "template" = none →
      Entries.get? fields "params" = none →
      Ignored fields key

theorem first_present_congr (fields others : List (String × Json)) (names : List String)
    (same : ∀ name ∈ names, Entries.get? others name = Entries.get? fields name) :
    firstPresent others names = firstPresent fields names := by
  induction names with
  | nil => rfl
  | cons name rest ih =>
      obtain ⟨first, behind⟩ := List.forall_mem_cons.mp same
      rw [firstPresent, firstPresent, first, ih behind]

theorem shadowed_behind (names : List String) (name preferred key : String)
    (order : [preferred, key].Sublist (name :: names)) : key ∈ names := by
  cases order with
  | cons _ behind => exact behind.subset (by simp)
  | cons_cons _ behind => exact behind.subset (by simp)

theorem first_present_shadowed (fields : List (String × Json)) (names : List String)
    (preferred key : String) (value : Json) (order : [preferred, key].Sublist names)
    (distinct : names.Nodup) (present : Entries.has fields preferred) :
    firstPresent (Entries.set fields key value) names = firstPresent fields names := by
  induction names with
  | nil => cases order
  | cons name rest ih =>
      obtain ⟨fresh, restDistinct⟩ := List.nodup_cons.mp distinct
      have later := shadowed_behind rest name preferred key order
      have apart : key ≠ name := fun same => fresh (same ▸ later)
      rw [firstPresent, firstPresent, Entries.get?_set, if_neg apart]
      cases held : Entries.get? fields name with
      | some found => rfl
      | none =>
          cases order with
          | cons _ behind => exact ih behind restDistinct
          | cons_cons _ _ => simp [Entries.has, held] at present

theorem ignored_field (fields : List (String × Json)) (key : String) (value : Json)
    (ignored : Ignored fields key) :
    ofJson (.object (Entries.set fields key value)) = ofJson (.object fields) := by
  have kept (name : String) (apart : key ≠ name) :
      Entries.get? (Entries.set fields key value) name = Entries.get? fields name := by
    rw [Entries.get?_set, if_neg apart]
  cases ignored with
  | unknown _ unknown =>
      simp only [List.mem_cons, List.not_mem_nil, or_false, not_or] at unknown
      refine object_congr fields _ ?_ ?_ ?_ ?_
      · simp [unknown]
      · exact first_present_congr _ _ _ (by simp [attributesNames, unknown])
      · exact first_present_congr _ _ _ (by simp [unknown])
      · simp [elementFields, unknown]
  | shadowed aliases preferred _ listed order present unnamed unpassed =>
      have unmarked : ¬ (Entries.has fields "template" || Entries.has fields "params") = true := by
        simp [Entries.has, unnamed, unpassed]
      rcases listed with rfl | rfl
      · have content : key ∉ ["template", "params", "tag", "comment", "body", "children"] := by
          rcases List.mem_pair.mp (shadowed_behind _ _ _ _ order) with rfl | rfl <;> decide
        simp only [List.mem_cons, List.not_mem_nil, or_false, not_or] at content
        refine object_congr fields _ ?_ ?_ ?_ fun marked => absurd marked unmarked
        · simp [content]
        · exact first_present_shadowed fields _ preferred key value order (by decide) present
        · exact first_present_congr _ _ _ (by simp [content])
      · have mapping : key ∉
            ["template", "params", "tag", "comment", "attributes", "properties", "attrs"] := by
          rcases List.mem_singleton.mp (shadowed_behind _ _ _ _ order) with rfl
          decide
        simp only [List.mem_cons, List.not_mem_nil, or_false, not_or] at mapping
        refine object_congr fields _ ?_ ?_ ?_ fun marked => absurd marked unmarked
        · simp [mapping]
        · exact first_present_congr _ _ _ (by simp [attributesNames, mapping])
        · exact first_present_shadowed fields _ preferred key value order (by decide) present

theorem from_json_ok (value : Json) (node : Node) :
    fromJson value = .ok node ↔ ofJson value = .ok node :=
  map_error_ok _ _ _

theorem from_json_grammar :
    (∀ value node, fromJson value = .ok node ↔ Describes value node) ∧
      ∀ fields key value, Ignored fields key →
        fromJson (.object (Entries.set fields key value)) = fromJson (.object fields) := by
  constructor
  · intro value node
    rw [from_json_ok, of_json_ok]
  · intro fields key value ignored
    rw [fromJson, fromJson, ignored_field fields key value ignored]

-- Every alias is there, some with values that no field may have.
def aliasedFields : List (String × Json) :=
  [("attrs", .null), ("children", .bool true), ("comment", .string "c"), ("tag", .string "A"),
    ("properties",
      .object [("b", .string "x"), ("a", .number (.integer (-1))), ("d", .number (.real 2.5)),
        ("c", .bool false)]),
    ("body", .array [.object [("params", .null), ("extra", .null), ("template", .string "t")],
      .object [], .string ""]),
    ("other", .array [])]

def aliasedNode : Node :=
  .element
    ⟨some (.literal "A"),
      some (.literal (.ofList
        [("b", "x"), ("a", "-1"), ("d", (Number.real 2.5).text), ("c", "false")])),
      some (.literal (.nodes
        [.reference ⟨"t", .null⟩, .element ⟨none, none, none, none⟩, .text ""])),
      some (.literal "c")⟩

theorem aliased_fields_describe :
    Describes (.object aliasedFields) aliasedNode ∧ Ignored aliasedFields "children" ∧
      fromJson (.object (Entries.set aliasedFields "children" .null)) = .ok aliasedNode := by
  have read : fromJson (.object aliasedFields) = .ok aliasedNode := rfl
  have ignored : Ignored aliasedFields "children" :=
    .shadowed ["body", "children"] "body" "children" (.inr rfl) (by decide) rfl rfl rfl
  refine ⟨(from_json_grammar.1 _ _).mp read, ignored, ?_⟩
  exact (from_json_grammar.2 aliasedFields "children" .null ignored).trans read

end HtmlTemplate.Node
