import HtmlTemplate.Proofs.DistinctNames
import HtmlTemplate.Proofs.NodeGrammar

/-!
JSON values that differ only in the order of the fields of their nodes and in fields that are not
looked at. Such values are read as the same node, or rejected at the same path for the same reason.
-/

set_option autoImplicit false

namespace HtmlTemplate.Node

-- The fields of a node may stand in another order and have ignored fields set among them, and the
-- same goes for the items of the body that is used. Attributes and parameters stay as they are.
-- The names in an object are distinct, as they are in every object that is read.
inductive Similar : Json → Json → Prop
  | refl (value : Json) : Similar value value
  | symm (value other : Json) : Similar value other → Similar other value
  | trans (value between other : Json) :
      Similar value between → Similar between other → Similar value other
  | permuted (fields others : List (String × Json)) :
      (Entries.keys fields).Nodup → fields.Perm others → Similar (.object fields) (.object others)
  | ignored (fields : List (String × Json)) (key : String) (value : Json) :
      Ignored fields key → Similar (.object fields) (.object (Entries.set fields key value))
  | item (fields : List (String × Json)) (name : String) (before after : List Json)
      (item other : Json) :
      Entries.get? fields "template" = none →
      Entries.get? fields "params" = none →
      firstPresent fields ["body", "children"] = some (name, .array (before ++ item :: after)) →
      Similar item other →
      Similar (.object fields)
        (.object (Entries.set fields name (.array (before ++ other :: after))))

theorem get_permuted (fields others : List (String × Json)) (distinct : (Entries.keys fields).Nodup)
    (permuted : fields.Perm others) (name : String) :
    Entries.get? others name = Entries.get? fields name := by
  have otherDistinct : (Entries.keys others).Nodup := (permuted.map Prod.fst).nodup_iff.mp distinct
  refine Option.ext fun value => ?_
  have held (entries : List (String × Json)) (apart : (Entries.keys entries).Nodup) :
      Entries.get? entries name = some value ↔ (name, value) ∈ entries :=
    ⟨Entries.mem_of_get? entries name value, Entries.get_of_mem entries apart (name, value)⟩
  rw [held others otherDistinct, held fields distinct, permuted.mem_iff]

theorem object_same (fields others : List (String × Json))
    (same : ∀ name, Entries.get? others name = Entries.get? fields name) :
    ofJson (.object others) = ofJson (.object fields) :=
  object_congr fields others (fun name _ => same name)
    (first_present_congr fields others _ fun name _ => same name)
    (first_present_congr fields others _ fun name _ => same name) fun _ name _ => same name

theorem first_present_set (fields : List (String × Json)) (names : List String) (name : String)
    (value new : Json) (present : firstPresent fields names = some (name, value)) :
    name ∈ names ∧ firstPresent (Entries.set fields name new) names = some (name, new) := by
  induction names with
  | nil => cases present
  | cons first rest ih =>
      rw [firstPresent] at present
      rw [firstPresent, Entries.get?_set]
      cases held : Entries.get? fields first with
      | some found =>
          rw [held] at present
          cases present
          rw [if_pos rfl]
          exact ⟨List.mem_cons_self, rfl⟩
      | none =>
          rw [held] at present
          obtain ⟨member, found⟩ := ih present
          refine ⟨List.mem_cons_of_mem _ member, ?_⟩
          by_cases same : name = first
          · rw [if_pos same, same]
          · rw [if_neg same]
            exact found

theorem of_items_congr (before after : List Json) (item other : Json)
    (same : ofJson item = ofJson other) (i : Nat) :
    ofItems i (before ++ item :: after) = ofItems i (before ++ other :: after) := by
  induction before generalizing i with
  | nil => simp only [List.nil_append, ofItems, same]
  | cons first rest ih => simp only [List.cons_append, ofItems, ih]

theorem body_congr (fields : List (String × Json)) (name : String) (value new : Json)
    (unnamed : Entries.get? fields "template" = none)
    (unpassed : Entries.get? fields "params" = none)
    (present : firstPresent fields ["body", "children"] = some (name, value))
    (same : bodyOf value = bodyOf new) :
    ofJson (.object fields) = ofJson (.object (Entries.set fields name new)) := by
  obtain ⟨member, found⟩ := first_present_set fields _ name value new present
  have kept (other : String) (apart : other ∉ ["body", "children"]) :
      Entries.get? (Entries.set fields name new) other = Entries.get? fields other := by
    rw [Entries.get?_set, if_neg]
    rintro rfl
    exact apart member
  have mapping : aliasField attributesOf (Entries.set fields name new) attributesNames =
      aliasField attributesOf fields attributesNames := by
    have present : firstPresent (Entries.set fields name new) attributesNames =
        firstPresent fields attributesNames :=
      first_present_congr _ _ _ fun other listed => kept other fun body => by
        simp only [attributesNames, List.mem_cons, List.not_mem_nil, or_false] at listed body
        rcases listed with rfl | rfl | rfl <;> simp at body
    rw [aliasField, aliasField, present]
  have content : aliasField bodyOf (Entries.set fields name new) ["body", "children"] =
      aliasField bodyOf fields ["body", "children"] := by
    rw [aliasField, aliasField, found, present]
    simp only [same]
  rw [of_json_object, of_json_object, mapping, content]
  simp only [Entries.has, stringField, kept "template" (by decide), kept "params" (by decide),
    kept "tag" (by decide), kept "comment" (by decide), unnamed, unpassed, Option.isSome_none,
    Bool.or_self, Bool.false_eq_true, if_false]

theorem similar_of_json (value other : Json) (similar : Similar value other) :
    ofJson value = ofJson other := by
  induction similar with
  | refl value => rfl
  | symm value other _ ih => exact ih.symm
  | trans value between other _ _ first second => exact first.trans second
  | permuted fields others distinct permuted =>
      exact (object_same fields others (get_permuted fields others distinct permuted)).symm
  | ignored fields key value ignored => exact (ignored_field fields key value ignored).symm
  | item fields name before after item other unnamed unpassed present _ ih =>
      refine body_congr fields name _ _ unnamed unpassed present ?_
      rw [bodyOf, bodyOf, of_items_congr before after item other ih]

theorem similar_values_read_alike (value other : Json) (similar : Similar value other) :
    (∃ node, fromJson value = .ok node ∧ fromJson other = .ok node) ∨
      ∃ path reason, fromJson value = .error (.invalidNode path reason) ∧
        fromJson other = .error (.invalidNode path reason) := by
  rw [fromJson, fromJson, ← similar_of_json value other similar]
  cases ofJson value with
  | ok node => exact .inl ⟨node, rfl, rfl⟩
  | error rejection => exact .inr ⟨_, _, rfl, rfl⟩

-- A reference with two fields that it must not have.
def mixedFields : List (String × Json) :=
  [("comment", .null), ("template", .string "t"), ("tag", .null), ("params", .null)]

def mixedOthers : List (String × Json) :=
  [("extra", .bool true), ("params", .null), ("tag", .null), ("template", .string "t"),
    ("comment", .null)]

def listFields : List (String × Json) :=
  [("tag", .string "ul"), ("children", .array [.string "a", .object mixedFields]),
    ("properties", .object [("b", .bool true)])]

def listOthers : List (String × Json) :=
  [("attrs", .null), ("properties", .object [("b", .bool true)]),
    ("children", .array [.string "a", .object mixedOthers]), ("tag", .string "ul")]

theorem mixed_fields_similar : Similar (.object mixedFields) (.object mixedOthers) := by
  have extra : Ignored mixedFields "extra" := .unknown "extra" (by decide)
  refine .trans _ _ _ (.ignored mixedFields "extra" (.bool true) extra) ?_
  exact .permuted _ _ (by decide) (List.reverse_perm _).symm

theorem list_values_read_alike :
    Similar (.object listFields) (.object listOthers) ∧
      fromJson (.object listFields) = .error (.invalidNode "/children/1"
        "a template reference can't also have \x60tag\x60") ∧
      fromJson (.object listOthers) = .error (.invalidNode "/children/1"
        "a template reference can't also have \x60tag\x60") := by
  have similar : Similar (.object listFields) (.object listOthers) := by
    have shadowed : Ignored
        (Entries.set listFields "children" (.array [.string "a", .object mixedOthers])) "attrs" :=
      .shadowed ["attributes", "properties", "attrs"] "properties" "attrs" (.inl rfl) (by decide)
        rfl rfl rfl
    refine .trans _ _ _ (.item listFields "children" [.string "a"] [] _ _ rfl rfl rfl
      mixed_fields_similar) ?_
    refine .trans _ _ _ (.ignored _ "attrs" .null shadowed) ?_
    exact .permuted _ _ (by decide) (List.reverse_perm _).symm
  have rejected : fromJson (.object listFields) = .error (.invalidNode "/children/1"
      "a template reference can't also have \x60tag\x60") := rfl
  refine ⟨similar, rejected, ?_⟩
  rcases similar_values_read_alike _ _ similar with ⟨node, read, _⟩ | ⟨path, reason, read, same⟩
  · rw [rejected] at read
    cases read
  · rw [rejected] at read
    rw [same, ← read]

end HtmlTemplate.Node
