import HtmlTemplate.Proofs.DistinctNames
import HtmlTemplate.Proofs.NodeGrammar
import HtmlTemplate.Proofs.PointerReading

/-!
The faults of a JSON value that is no node, in the order in which its parts are looked at. Reading
rejects a value at the first of them, and the path of a rejection leads to the part at fault.
-/

set_option autoImplicit false

namespace HtmlTemplate.Node

-- A part of a value that does not fit: where it stands, what it is and what is said against it.
structure Fault where
  pointer : List String
  part : Json
  reason : String

def Fault.under (key : String) (fault : Fault) : Fault :=
  { fault with pointer := key :: fault.pointer }

def Fault.told (fault : Fault) : List String × String :=
  (fault.pointer, fault.reason)

def typeWords : Json → String
  | .null => "null"
  | .bool _ => "a boolean"
  | .number _ => "a number"
  | .string _ => "a string"
  | .array _ => "an array"
  | .object _ => "an object"

def mismatch (wanted : String) (value : Json) : List Fault :=
  [⟨[], value, wanted ++ ", got " ++ typeWords value⟩]

def textFaults : Json → List Fault
  | .string _ => []
  | other => mismatch "expected a string" other

def scalarFaults : Json → List Fault
  | .string _ | .number _ | .bool _ => []
  | other => mismatch "attribute values must be strings, numbers or booleans" other

def mappingFaults : Json → List Fault
  | .object fields => fields.flatMap fun field => (scalarFaults field.2).map (.under field.1)
  | other => mismatch "expected an object" other

def fieldFaults (faultsOf : Json → List Fault) (fields : List (String × Json)) :
    List (String × List Fault) :=
  fields.map fun field => (field.1, (faultsOf field.2).map (.under field.1))

-- The faults of the first of some fields that is present; the others are not looked at.
def firstPresentFaults (names : List String) (faulty : List (String × List Fault)) : List Fault :=
  (names.findSome? (Entries.get? faulty)).getD []

-- A reference needs both of its fields and none of an element.
def referenceFaults (fields : List (String × Json)) : List Fault :=
  let whole (reason : String) : Fault := ⟨[], .object fields, reason⟩
  (if Entries.has fields "params" then []
    else [whole "\x60template\x60 given without \x60params\x60"]) ++
    (if Entries.has fields "template" then []
      else [whole "\x60params\x60 given without \x60template\x60"]) ++
    (["tag", "body", "children", "attributes", "attrs", "properties", "comment"].filter
      (Entries.has fields)).map (fun name =>
        whole ("a template reference can't also have \x60" ++ name ++ "\x60")) ++
    firstPresentFaults ["template"] (fieldFaults textFaults fields)

mutual
def faults : Json → List Fault
  | .string _ => []
  | .object fields =>
    if Entries.has fields "template" || Entries.has fields "params" then referenceFaults fields
    else
      firstPresentFaults ["tag"] (fieldFaults textFaults fields) ++
        firstPresentFaults ["comment"] (fieldFaults textFaults fields) ++
        firstPresentFaults ["attributes", "properties", "attrs"]
          (fieldFaults mappingFaults fields) ++
        firstPresentFaults ["body", "children"] (bodyFieldFaults fields)
  | other => mismatch "expected a string or an object" other
def bodyFaults : Json → List Fault
  | .string _ => []
  | .array items => itemFaults 0 items
  | other => mismatch "expected a string or an array" other
def bodyFieldFaults : List (String × Json) → List (String × List Fault)
  | [] => []
  | (key, value) :: rest => (key, (bodyFaults value).map (.under key)) :: bodyFieldFaults rest
def itemFaults (i : Nat) : List Json → List Fault
  | [] => []
  | item :: rest => (faults item).map (.under (Pointer.decimal i)) ++ itemFaults (i + 1) rest
end

theorem body_field_faults (fields : List (String × Json)) :
    bodyFieldFaults fields = fieldFaults bodyFaults fields := by
  induction fields with
  | nil => rfl
  | cons field rest ih =>
      rw [bodyFieldFaults, ih]
      rfl

theorem get_field_faults (faultsOf : Json → List Fault) (fields : List (String × Json))
    (name : String) :
    Entries.get? (fieldFaults faultsOf fields) name =
      (Entries.get? fields name).map fun value => (faultsOf value).map (.under name) := by
  induction fields with
  | nil => rfl
  | cons field rest ih =>
      obtain ⟨key, value⟩ := field
      have split : fieldFaults faultsOf ((key, value) :: rest) =
          (key, (faultsOf value).map (.under key)) :: fieldFaults faultsOf rest := rfl
      rw [split, Entries.get?, Entries.get?]
      by_cases same : key = name
      · simp [same]
      · simp [same, ih]

theorem first_present_faults_cons (faultsOf : Json → List Fault) (fields : List (String × Json))
    (name : String) (names : List String) :
    firstPresentFaults (name :: names) (fieldFaults faultsOf fields) =
      match Entries.get? fields name with
      | some value => (faultsOf value).map (.under name)
      | none => firstPresentFaults names (fieldFaults faultsOf fields) := by
  rw [firstPresentFaults, List.findSome?_cons, get_field_faults]
  cases Entries.get? fields name <;> rfl

section Rejected

variable {α β : Type}

def rejection? : Except Rejection α → Option (List String × String)
  | .ok _ => none
  | .error r => some (r.pointer, r.objection.reason)

-- An outcome is a rejection for the first of some faults, or none if there are no faults.
def FailsFirst (outcome : Except Rejection α) (listed : List Fault) : Prop :=
  rejection? outcome = listed.head?.map Fault.told

theorem fails_first_error (pointer : List String) (part : Json) (objection : Objection)
    (rest : List Fault) :
    FailsFirst (.error ⟨pointer, objection⟩ : Except Rejection α)
      (⟨pointer, part, objection.reason⟩ :: rest) := rfl

theorem fails_first_none (a : α) (listed : List Fault)
    (fails : FailsFirst (.ok a : Except Rejection α) listed) : listed = [] := by
  cases listed with
  | nil => rfl
  | cons fault rest => cases fails

theorem fails_first_map (f : α → β) (outcome : Except Rejection α) (listed : List Fault)
    (fails : FailsFirst outcome listed) : FailsFirst (outcome.map f) listed := by
  cases outcome with
  | ok a => exact fails
  | error r => exact fails

theorem fails_first_within (key : String) (outcome : Except Rejection α) (listed : List Fault)
    (fails : FailsFirst outcome listed) :
    FailsFirst (within key outcome) (listed.map (.under key)) := by
  cases outcome with
  | ok a =>
      rw [fails_first_none a listed fails]
      rfl
  | error r =>
      cases listed with
      | nil => cases fails
      | cons fault rest =>
          exact congrArg (Option.map fun told => (key :: told.1, told.2)) fails

theorem fails_first_bind (first : Except Rejection α) (next : α → Except Rejection β)
    (listed later : List Fault) (fails : FailsFirst first listed)
    (behind : ∀ a, FailsFirst (next a) later) : FailsFirst (first >>= next) (listed ++ later) := by
  cases first with
  | ok a =>
      rw [fails_first_none a listed fails]
      exact behind a
  | error r =>
      cases listed with
      | nil => cases fails
      | cons fault rest => exact fails

end Rejected

theorem string_of_fails (value : Json) : FailsFirst (stringOf value) (textFaults value) := by
  cases value <;> rfl

theorem attribute_text_fails (value : Json) :
    FailsFirst (attributeText value) (scalarFaults value) := by
  cases value <;> rfl

theorem attribute_texts_fail (fields : List (String × Json)) :
    FailsFirst (attributeTexts fields)
      (fields.flatMap fun field => (scalarFaults field.2).map (.under field.1)) := by
  induction fields with
  | nil => rfl
  | cons field rest ih =>
      obtain ⟨key, value⟩ := field
      rw [attributeTexts, List.flatMap_cons]
      refine fails_first_bind _ _ _ _
        (fails_first_within key _ _ (attribute_text_fails value)) fun text => ?_
      exact fails_first_map ((key, text) :: ·) _ _ ih

theorem attributes_of_fails (value : Json) :
    FailsFirst (attributesOf value) (mappingFaults value) := by
  cases value with
  | object fields => exact fails_first_map Attributes.ofList _ _ (attribute_texts_fail fields)
  | _ => rfl

theorem alias_field_fails {α : Type} (read : Json → Except Rejection α)
    (faultsOf : Json → List Fault) (fields : List (String × Json)) (names : List String)
    (fails : ∀ name value, Entries.get? fields name = some value →
      FailsFirst (read value) (faultsOf value)) :
    FailsFirst (aliasField read fields names)
      (firstPresentFaults names (fieldFaults faultsOf fields)) := by
  induction names with
  | nil => rfl
  | cons name rest ih =>
      rw [first_present_faults_cons, aliasField, firstPresent]
      cases held : Entries.get? fields name with
      | none => exact ih
      | some value =>
          exact fails_first_within name _ _ (fails_first_map some _ _ (fails name value held))

theorem string_field_fails (fields : List (String × Json)) (name : String) :
    FailsFirst (stringField fields name)
      (firstPresentFaults [name] (fieldFaults textFaults fields)) := by
  rw [first_present_faults_cons, stringField]
  cases Entries.get? fields name with
  | none => rfl
  | some value =>
      exact fails_first_within name _ _ (fails_first_map some _ _ (string_of_fails value))

theorem reference_of_fails (fields : List (String × Json))
    (marked : Entries.has fields "template" || Entries.has fields "params") :
    FailsFirst (referenceOf fields) (referenceFaults fields) := by
  unfold referenceOf referenceFaults
  cases named : Entries.get? fields "template" with
  | none =>
      have absent : Entries.has fields "template" = false := by rw [Entries.has, named]; rfl
      have passed : Entries.has fields "params" = true := by simpa [absent] using marked
      simp only [absent, passed, if_true, Bool.false_eq_true, if_false]
      exact fails_first_error [] (.object fields) .missingTemplate _
  | some name =>
      have present : Entries.has fields "template" = true := by rw [Entries.has, named]; rfl
      cases passed : Entries.get? fields "params" with
      | none =>
          have missing : Entries.has fields "params" = false := by rw [Entries.has, passed]; rfl
          simp only [present, missing, if_true, Bool.false_eq_true, if_false]
          exact fails_first_error [] (.object fields) .missingParams _
      | some params =>
          have given : Entries.has fields "params" = true := by rw [Entries.has, passed]; rfl
          simp only [present, given, if_true, List.nil_append]
          cases mixed : elementFields.find? (Entries.has fields) with
          | some field =>
              obtain ⟨rest, listed⟩ : ∃ rest,
                  elementFields.filter (Entries.has fields) = field :: rest := by
                rw [← List.head?_filter] at mixed
                exact List.head?_eq_some_iff.mp mixed
              rw [elementFields] at listed
              rw [listed]
              exact fails_first_error [] (.object fields) (.mixedField field) _
          | none =>
              have plain : elementFields.filter (Entries.has fields) = [] := by
                rw [← List.head?_eq_none_iff, List.head?_filter]
                exact mixed
              rw [elementFields] at plain
              rw [plain, first_present_faults_cons, named]
              exact fails_first_map (fun text => (⟨text, params⟩ : Reference)) _ _
                (fails_first_within "template" _ _ (string_of_fails name))

mutual
theorem of_json_fails : (value : Json) → FailsFirst (ofJson value) (faults value)
  | .string _ => rfl
  | .object fields => by
      rw [of_json_object, faults, body_field_faults]
      split
      · rename_i marked
        exact fails_first_map _ _ _ (reference_of_fails fields marked)
      · simp only [List.append_assoc]
        refine fails_first_bind _ _ _ _ (string_field_fails fields "tag") fun tag => ?_
        refine fails_first_bind _ _ _ _ (string_field_fails fields "comment") fun comment => ?_
        refine fails_first_bind _ _ _ _ (alias_field_fails attributesOf mappingFaults fields _
          fun _ value _ => attributes_of_fails value) fun attributes => ?_
        exact fails_first_map _ _ _ (alias_field_fails bodyOf bodyFaults fields _
          (fields_bodies_fail fields))
  | .null => rfl
  | .bool _ => rfl
  | .number _ => rfl
  | .array _ => rfl
theorem body_of_fails : (value : Json) → FailsFirst (bodyOf value) (bodyFaults value)
  | .string _ => rfl
  | .array items => fails_first_map _ _ _ (of_items_fail items 0)
  | .null => rfl
  | .bool _ => rfl
  | .number _ => rfl
  | .object _ => rfl
theorem fields_bodies_fail : (fields : List (String × Json)) → (name : String) → (value : Json) →
    Entries.get? fields name = some value → FailsFirst (bodyOf value) (bodyFaults value)
  | [], name, value, held => by cases held
  | (key, first) :: rest, name, value, held => by
      rw [Entries.get?] at held
      split at held
      · cases held
        exact body_of_fails first
      · exact fields_bodies_fail rest name value held
theorem of_items_fail : (items : List Json) → (i : Nat) →
    FailsFirst (ofItems i items) (itemFaults i items)
  | [], i => rfl
  | item :: rest, i => by
      rw [ofItems, itemFaults, Pointer.index_key_decimal]
      refine fails_first_bind _ _ _ _
        (fails_first_within _ _ _ (of_json_fails item)) fun node => ?_
      exact fails_first_map (node :: ·) _ _ (of_items_fail rest (i + 1))
end

-- A reason names the type of the part that has the wrong one, or is about a whole reference.
def Names (reason : String) : Json → Prop
  | .null => ∃ wanted, reason = wanted ++ ", got null"
  | .bool _ => ∃ wanted, reason = wanted ++ ", got a boolean"
  | .number _ => ∃ wanted, reason = wanted ++ ", got a number"
  | .string _ => ∃ wanted, reason = wanted ++ ", got a string"
  | .array _ => ∃ wanted, reason = wanted ++ ", got an array"
  | .object fields =>
    (∃ wanted, reason = wanted ++ ", got an object") ∨
      (Entries.has fields "template" || Entries.has fields "params")

-- The pointer of a fault leads to the part that its reason is about.
structure Fault.Stands (value : Json) (fault : Fault) : Prop where
  leads : value.at? fault.pointer = some fault.part
  names : Names fault.reason fault.part

theorem fault_under_stands (value part : Json) (key : String) (fault : Fault)
    (held : Entries.get? value.parts key = some part) (stands : fault.Stands part) :
    (fault.under key).Stands value where
  leads := by
    rw [Fault.under, Json.at?, held]
    exact stands.leads
  names := stands.names

theorem mismatch_stands (wanted : String) (value : Json) :
    ∀ fault ∈ mismatch wanted value, fault.Stands value := by
  intro fault member
  obtain rfl := List.mem_singleton.mp member
  have ending (told : String) :
      ∃ others, wanted ++ ", got " ++ told = others ++ (", got " ++ told) :=
    ⟨wanted, String.append_assoc⟩
  refine ⟨rfl, ?_⟩
  cases value with
  | object fields => exact .inl (ending "an object")
  | null => exact ending "null"
  | bool b => exact ending "a boolean"
  | number n => exact ending "a number"
  | string s => exact ending "a string"
  | array items => exact ending "an array"

theorem text_faults_stand (value : Json) : ∀ fault ∈ textFaults value, fault.Stands value := by
  cases value with
  | string s => nofun
  | _ => exact mismatch_stands _ _

theorem scalar_faults_stand (value : Json) : ∀ fault ∈ scalarFaults value, fault.Stands value := by
  cases value with
  | string s => nofun
  | number n => nofun
  | bool b => nofun
  | _ => exact mismatch_stands _ _

theorem mapping_faults_stand (value : Json) (distinct : value.distinct) :
    ∀ fault ∈ mappingFaults value, fault.Stands value := by
  cases value with
  | object fields =>
      intro fault member
      obtain ⟨named, _⟩ := (Json.object_distinct fields).mp distinct
      obtain ⟨field, held, listed⟩ := List.mem_flatMap.mp member
      obtain ⟨inner, faulty, rfl⟩ := List.mem_map.mp listed
      exact fault_under_stands _ field.2 field.1 inner (Entries.get_of_mem fields named field held)
        (scalar_faults_stand field.2 inner faulty)
  | _ => exact mismatch_stands _ _

theorem first_present_fault (names : List String) (faultsOf : Json → List Fault)
    (fields : List (String × Json)) :
    ∀ fault ∈ firstPresentFaults names (fieldFaults faultsOf fields),
      ∃ name ∈ names, ∃ value inner, Entries.get? fields name = some value ∧
        inner ∈ faultsOf value ∧ fault = inner.under name := by
  induction names with
  | nil => nofun
  | cons name rest ih =>
      intro fault member
      rw [first_present_faults_cons] at member
      cases held : Entries.get? fields name with
      | none =>
          rw [held] at member
          obtain ⟨other, listed, found⟩ := ih fault member
          exact ⟨other, List.mem_cons_of_mem _ listed, found⟩
      | some value =>
          rw [held] at member
          obtain ⟨inner, faulty, rfl⟩ := List.mem_map.mp member
          exact ⟨name, List.mem_cons_self, value, inner, held, faulty, rfl⟩

theorem object_fault_forms (fields : List (String × Json)) (fault : Fault)
    (member : fault ∈ faults (.object fields)) :
    (fault.pointer = [] ∧ fault.Stands (.object fields)) ∨
      ∃ name value inner, name ≠ "" ∧ Entries.get? fields name = some value ∧
        (inner ∈ textFaults value ∨ inner ∈ mappingFaults value ∨ inner ∈ bodyFaults value) ∧
        fault = inner.under name := by
  have field (names : List String) (faultsOf : Json → List Fault) (proper : "" ∉ names)
      (own : ∀ value, ∀ inner ∈ faultsOf value,
        inner ∈ textFaults value ∨ inner ∈ mappingFaults value ∨ inner ∈ bodyFaults value)
      (listed : fault ∈ firstPresentFaults names (fieldFaults faultsOf fields)) :
      ∃ name value inner, name ≠ "" ∧ Entries.get? fields name = some value ∧
        (inner ∈ textFaults value ∨ inner ∈ mappingFaults value ∨ inner ∈ bodyFaults value) ∧
        fault = inner.under name := by
    obtain ⟨name, named, value, inner, held, faulty, rfl⟩ :=
      first_present_fault names faultsOf fields fault listed
    have inhabited : name ≠ "" := fun empty => proper (empty ▸ named)
    exact ⟨name, value, inner, inhabited, held, own value inner faulty, rfl⟩
  have text (name : String) (proper : "" ∉ [name]) :=
    field [name] textFaults proper fun _ _ faulty => .inl faulty
  rw [faults, body_field_faults] at member
  split at member
  · rename_i marked
    simp only [referenceFaults, List.mem_append, List.mem_ite_nil_left, List.mem_singleton,
      List.mem_map] at member
    rcases member with ((⟨_, rfl⟩ | ⟨_, rfl⟩) | ⟨name, _, rfl⟩) | template
    · exact .inl ⟨rfl, rfl, .inr marked⟩
    · exact .inl ⟨rfl, rfl, .inr marked⟩
    · exact .inl ⟨rfl, rfl, .inr marked⟩
    · exact .inr (text "template" (by decide) template)
  · simp only [List.mem_append] at member
    rcases member with ((tagged | commented) | mapped) | filled
    · exact .inr (text "tag" (by decide) tagged)
    · exact .inr (text "comment" (by decide) commented)
    · exact .inr (field _ mappingFaults (by decide) (fun _ _ faulty => .inr (.inl faulty)) mapped)
    · exact .inr (field _ bodyFaults (by decide) (fun _ _ faulty => .inr (.inr faulty)) filled)

mutual
theorem faults_stand : (value : Json) → value.distinct → ∀ fault ∈ faults value, fault.Stands value
  | .string _, _ => nofun
  | .object fields, distinct => by
      obtain ⟨_, held⟩ := (Json.object_distinct fields).mp distinct
      intro fault member
      rcases object_fault_forms fields fault member with
        ⟨_, stands⟩ | ⟨name, value, inner, _, given, faulty, rfl⟩
      · exact stands
      · refine fault_under_stands (.object fields) value name inner given ?_
        rcases faulty with text | mapping | body
        · exact text_faults_stand value inner text
        · have valueDistinct := Json.fields_distinct_get fields held name value given
          exact mapping_faults_stand value valueDistinct inner mapping
        · exact field_bodies_stand fields held name value given inner body
  | .null, _ => mismatch_stands _ _
  | .bool _, _ => mismatch_stands _ _
  | .number _, _ => mismatch_stands _ _
  | .array _, _ => mismatch_stands _ _
theorem body_faults_stand : (value : Json) → value.distinct →
    ∀ fault ∈ bodyFaults value, fault.Stands value
  | .string _, _ => nofun
  | .array items, distinct => by
      intro fault member
      obtain ⟨position, item, inner, held, stands, rfl⟩ :=
        item_faults_stand items distinct 0 fault member
      refine fault_under_stands (.array items) item _ inner ?_ stands
      rw [Json.parts, Json.get_keyed, held]
  | .null, _ => mismatch_stands _ _
  | .bool _, _ => mismatch_stands _ _
  | .number _, _ => mismatch_stands _ _
  | .object _, _ => mismatch_stands _ _
theorem field_bodies_stand : (fields : List (String × Json)) → Json.fieldsDistinct fields →
    (name : String) → (value : Json) → Entries.get? fields name = some value →
    ∀ fault ∈ bodyFaults value, fault.Stands value
  | [], _, _, _, given => by cases given
  | (key, first) :: rest, held, name, value, given => by
      simp only [Json.fieldsDistinct, Bool.and_eq_true] at held
      rw [Entries.get?] at given
      split at given
      · cases given
        exact body_faults_stand first held.1
      · exact field_bodies_stand rest held.2 name value given
theorem item_faults_stand : (items : List Json) → Json.allDistinct items → (i : Nat) →
    ∀ fault ∈ itemFaults i items, ∃ position item inner, items[position]? = some item ∧
      Fault.Stands item inner ∧ fault = inner.under (Pointer.decimal (i + position))
  | [], _, _ => nofun
  | item :: rest, distinct, i => by
      simp only [Json.allDistinct, Bool.and_eq_true] at distinct
      intro fault member
      rw [itemFaults, List.mem_append] at member
      rcases member with own | later
      · obtain ⟨inner, faulty, rfl⟩ := List.mem_map.mp own
        exact ⟨0, item, inner, rfl, faults_stand item distinct.1 inner faulty, rfl⟩
      · obtain ⟨position, found, inner, held, stands, rfl⟩ :=
          item_faults_stand rest distinct.2 (i + 1) fault later
        refine ⟨position + 1, found, inner, held, stands, ?_⟩
        rw [Nat.add_right_comm, Nat.add_assoc]
end

theorem fault_pointer_named (value : Json) (fault : Fault) (member : fault ∈ faults value) :
    fault.pointer ≠ [""] := by
  cases value with
  | string s => cases member
  | object fields =>
      rcases object_fault_forms fields fault member with
        ⟨whole, _⟩ | ⟨name, _, inner, proper, _, _, rfl⟩
      · rw [whole]
        nofun
      · exact fun same => proper (List.cons.inj same).1
  | _ =>
      obtain rfl := List.mem_singleton.mp member
      nofun

theorem from_json_error (value : Json) (e : Error) :
    fromJson value = .error e ↔
      ∃ fault, (faults value).head? = some fault ∧
        e = .invalidNode (Pointer.text fault.pointer) fault.reason := by
  have fails : rejection? (ofJson value) = (faults value).head?.map Fault.told :=
    of_json_fails value
  rw [fromJson]
  generalize (faults value).head? = first at fails ⊢
  cases read : ofJson value with
  | ok node =>
      rw [read] at fails
      cases first with
      | none => simp [Except.mapError]
      | some fault => cases fails
  | error r =>
      rw [read] at fails
      cases first with
      | none => cases fails
      | some fault =>
          obtain ⟨pointer, reason⟩ := Prod.mk.inj (Option.some.inj fails)
          simp [Except.mapError, Rejection.error, pointer, reason, eq_comm]

-- The second child is at fault twice, and what is in the shadowed field does not matter.
def crookedFields : List (String × Json) :=
  [("children", .null), ("tag", .string "ul"),
    ("body", .array
      [.string "ok",
        .object [("body", .null), ("attrs", .object [("", .bool true), ("a/b~1", .array [])])]])]

end HtmlTemplate.Node
