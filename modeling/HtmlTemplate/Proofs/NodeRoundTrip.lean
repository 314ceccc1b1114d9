import HtmlTemplate.Node.Writer
import HtmlTemplate.Proofs.Literal
import HtmlTemplate.Proofs.NodeGrammar

/-!
Nodes written as JSON and read again. A literal node comes back as it was, so that what is written
for a value that describes a node is a canonical form of it.
-/

set_option autoImplicit false

namespace HtmlTemplate.Node

mutual
inductive Canonical : Json → Prop
  | text (s : String) : Canonical (.string s)
  | reference (name : String) (params : Json) :
      Canonical (.object [("template", .string name), ("params", params)])
  | element (fields : List (String × Json)) :
      (Entries.keys fields).Sublist ["tag", "attributes", "body", "comment"] →
      (∀ field ∈ fields, CanonicalField field.1 field.2) →
      Canonical (.object fields)
inductive CanonicalField : String → Json → Prop
  | tag (s : String) : CanonicalField "tag" (.string s)
  | attributes (texts : List (String × String)) :
      (Entries.keys texts).Nodup →
      CanonicalField "attributes" (.object (texts.map fun text => (text.1, .string text.2)))
  | text (s : String) : CanonicalField "body" (.string s)
  | nodes (items : List Json) :
      (∀ item ∈ items, Canonical item) → CanonicalField "body" (.array items)
  | comment (s : String) : CanonicalField "comment" (.string s)
end

def optionalEntry (name : String) (value : Option Json) : List (String × Json) :=
  value.toList.map (name, ·)

def writtenFields (tag mapping content comment : Option Json) : List (String × Json) :=
  optionalEntry "tag" tag ++ optionalEntry "attributes" mapping ++ optionalEntry "body" content ++
    optionalEntry "comment" comment

theorem get_append (entries others : List (String × Json)) (name : String) :
    Entries.get? (entries ++ others) name =
      (Entries.get? entries name).or (Entries.get? others name) := by
  induction entries with
  | nil => simp [Entries.get?]
  | cons entry rest ih =>
      by_cases same : entry.1 = name <;> simp [Entries.get?, same, ih]

theorem get_optional_entry (name other : String) (value : Option Json) :
    Entries.get? (optionalEntry name value) other = if name = other then value else none := by
  cases value with
  | none => simp [optionalEntry, Entries.get?]
  | some value => simp [optionalEntry, Entries.get?]

theorem get_written_fields (tag mapping content comment : Option Json) (name : String) :
    Entries.get? (writtenFields tag mapping content comment) name =
      if name = "tag" then tag else if name = "attributes" then mapping
      else if name = "body" then content else if name = "comment" then comment else none := by
  simp only [writtenFields, get_append, get_optional_entry]
  grind

theorem chosen_written_attributes (tag mapping content comment : Option Json) :
    chosen (writtenFields tag mapping content comment) ["attributes", "properties", "attrs"] =
      mapping := by
  cases mapping <;> simp [chosen, get_written_fields]

theorem chosen_written_body (tag mapping content comment : Option Json) :
    chosen (writtenFields tag mapping content comment) ["body", "children"] = content := by
  cases content <;> simp [chosen, get_written_fields]

theorem optional_entry_keys (name : String) (value : Option Json) :
    (Entries.keys (optionalEntry name value)).Sublist [name] := by
  cases value with
  | none => exact List.nil_sublist _
  | some value => exact List.Sublist.refl _

theorem written_fields_keys (tag mapping content comment : Option Json) :
    (Entries.keys (writtenFields tag mapping content comment)).Sublist
      ["tag", "attributes", "body", "comment"] := by
  simp only [writtenFields, Entries.keys, List.map_append]
  exact (((optional_entry_keys "tag" tag).append (optional_entry_keys "attributes" mapping)).append
    (optional_entry_keys "body" content)).append (optional_entry_keys "comment" comment)

theorem written_fields_canonical (tag mapping content comment : Option Json)
    (tagged : ∀ value ∈ tag, CanonicalField "tag" value)
    (mapped : ∀ value ∈ mapping, CanonicalField "attributes" value)
    (filled : ∀ value ∈ content, CanonicalField "body" value)
    (commented : ∀ value ∈ comment, CanonicalField "comment" value) :
    Canonical (.object (writtenFields tag mapping content comment)) := by
  refine .element _ (written_fields_keys tag mapping content comment) ?_
  have entry (name : String) (value : Option Json) (fits : ∀ v ∈ value, CanonicalField name v) :
      ∀ field ∈ optionalEntry name value, CanonicalField field.1 field.2 := by
    intro field member
    cases value with
    | none => cases member
    | some held =>
        obtain rfl := List.mem_singleton.mp member
        exact fits held rfl
  simp only [writtenFields, List.mem_append]
  rintro field (((member | member) | member) | member)
  · exact entry "tag" tag tagged field member
  · exact entry "attributes" mapping mapped field member
  · exact entry "body" content filled field member
  · exact entry "comment" comment commented field member

theorem string_entry_given (name : String) (text : Option String) :
    stringEntry name (text.map .literal) = .ok (optionalEntry name (text.map .string)) := by
  cases text <;> rfl

theorem attribute_entries_given (texts : List (String × String)) :
    attributeEntries (texts.map fun entry => (entry.1, .literal entry.2)) =
      .ok (texts.map fun text => (text.1, .string text.2)) := by
  induction texts with
  | nil => rfl
  | cons text rest ih =>
      simp only [List.map_cons, attributeEntries, ih]
      rfl

-- The mapping that is written has the same keys in the same order, so that it reads back.
theorem attributes_written (attributes : Attributes)
    (given : Attributes.literalEntries attributes.entries) :
    ∃ value, attributesEntry (some (.literal attributes)) =
        .ok (optionalEntry "attributes" (some value)) ∧
      DescribesAttributes value attributes ∧ CanonicalField "attributes" value := by
  have entries := literal_entries_given attributes.entries given
  generalize Attributes.literals attributes.entries = texts at entries
  have distinct : (Entries.keys texts).Nodup := by
    have held := attributes.distinct
    rw [entries, Entries.keys, List.map_map] at held
    exact held
  refine ⟨.object (texts.map fun text => (text.1, .string text.2)), ?_, ?_,
    .attributes texts distinct⟩
  · have opened : attributesEntry (some (.literal attributes)) =
        beneath "attributes" (attributeEntries attributes.entries >>= fun entries =>
          pure [("attributes", .object entries)]) := rfl
    rw [opened, entries, attribute_entries_given]
    rfl
  · refine .object _ texts attributes ?_ ?_
    · rw [List.forall₂_map_left_iff, List.forall₂_same]
      intro text _
      exact ⟨rfl, .string text.2⟩
    · rw [Entries.first_place_last_value_distinct texts distinct]
      exact entries

theorem mapping_written (mapping : Option (Value Attributes)) (given : literalMapping mapping) :
    ∃ (held : Option Attributes) (value : Option Json), mapping = held.map .literal ∧
      attributesEntry mapping = .ok (optionalEntry "attributes" value) ∧
      Option.Rel DescribesAttributes value held ∧ ∀ v ∈ value, CanonicalField "attributes" v := by
  cases mapping with
  | none => exact ⟨none, none, rfl, rfl, .none, nofun⟩
  | some field =>
      cases field with
      | deferred d => cases given
      | literal attributes =>
          obtain ⟨value, written, described, canonical⟩ := attributes_written attributes given
          refine ⟨some attributes, some value, rfl, written, .some described, ?_⟩
          intro v member
          cases member
          exact canonical

def WrittenAs (node : Node) (value : Json) : Prop :=
  write node = .ok value ∧ Describes value node ∧ Canonical value

theorem element_written (e : Element Node) (content : Option Json) (body : Option (Body Node))
    (given : (Node.element e).literal) (held : e.body = body.map .literal)
    (written : bodyEntry e.body = .ok (optionalEntry "body" content))
    (described : Option.Rel DescribesBody content body)
    (canonical : ∀ value ∈ content, CanonicalField "body" value) :
    ∃ value, WrittenAs (.element e) value := by
  obtain ⟨tagGiven, mappingGiven, _, commentGiven⟩ := element_literal_fields e given
  obtain ⟨tag, tagHeld⟩ := literal_field_given e.tag tagGiven
  obtain ⟨comment, commentHeld⟩ := literal_field_given e.comment commentGiven
  obtain ⟨attributes, mapping, mappingHeld, mappingWritten, mapped, mappingCanonical⟩ :=
    mapping_written e.attributes mappingGiven
  obtain ⟨tagField, mappingField, bodyField, commentField⟩ := e
  dsimp only at tagHeld commentHeld mappingHeld held mappingWritten written
  subst tagHeld commentHeld mappingHeld held
  refine ⟨.object (writtenFields (tag.map .string) mapping content (comment.map .string)),
    ?_, ?_, ?_⟩
  · simp only [write, string_entry_given, mappingWritten, written]
    rfl
  · refine .element _ tag comment attributes body ?_ ?_ ?_ ?_ ?_ ?_
    · simp [get_written_fields]
    · simp [get_written_fields]
    · simp [get_written_fields]
    · simp [get_written_fields]
    · rw [chosen_written_attributes]
      exact mapped
    · rw [chosen_written_body]
      exact described
  · refine written_fields_canonical _ _ _ _ ?_ mappingCanonical canonical ?_
    · intro value member
      obtain ⟨s, _, rfl⟩ := Option.map_eq_some_iff.mp member
      exact .tag s
    · intro value member
      obtain ⟨s, _, rfl⟩ := Option.map_eq_some_iff.mp member
      exact .comment s

mutual
theorem literal_written : (node : Node) → node.literal → ∃ value, WrittenAs node value
  | .text s, _ => ⟨.string s, rfl, .text s, .text s⟩
  | .reference r, _ => by
      refine ⟨_, rfl, .reference _ r.name r.params rfl rfl ?_, .reference r.name r.params⟩
      simp [Entries.get?]
  | .element ⟨tag, attributes, body, comment⟩, given => by
      obtain ⟨_, _, bodyGiven, _⟩ := element_literal_fields _ given
      obtain ⟨content, found, held, written, described, canonical⟩ :=
        literal_body_written body bodyGiven
      exact element_written _ content found given held written described canonical
theorem literal_body_written : (field : Option (Value (Body Node))) → literalBody field →
    ∃ (content : Option Json) (body : Option (Body Node)), field = body.map .literal ∧
      bodyEntry field = .ok (optionalEntry "body" content) ∧ Option.Rel DescribesBody content body ∧
      ∀ value ∈ content, CanonicalField "body" value
  | none, _ => ⟨none, none, rfl, rfl, .none, nofun⟩
  | some (.deferred _), given => by simp [literalBody] at given
  | some (.literal (.text s)), _ => by
      refine ⟨some (.string s), some (.text s), rfl, rfl, .some (.text s), ?_⟩
      intro value member
      cases member
      exact .text s
  | some (.literal (.nodes children)), given => by
      obtain ⟨items, written, described, canonical⟩ := literals_written children given 0
      refine ⟨some (.array items), some (.nodes children), rfl, ?_,
        .some (.nodes items children described), ?_⟩
      · simp only [bodyEntry, written]
        rfl
      · intro value member
        cases member
        exact .nodes items canonical
theorem literals_written : (nodes : List Node) → allLiteral nodes → (i : Nat) →
    ∃ items, writeFrom i nodes = .ok items ∧ List.Forall₂ Describes items nodes ∧
      ∀ item ∈ items, Canonical item
  | [], _, _ => ⟨[], rfl, .nil, nofun⟩
  | node :: rest, given, i => by
      obtain ⟨nodeGiven, restGiven⟩ : node.literal ∧ allLiteral rest := by
        simpa [allLiteral] using given
      obtain ⟨item, written, described, canonical⟩ := literal_written node nodeGiven
      obtain ⟨items, allWritten, allDescribed, allCanonical⟩ :=
        literals_written rest restGiven (i + 1)
      refine ⟨item :: items, ?_, .cons described allDescribed, ?_⟩
      · simp only [writeFrom, written, allWritten]
        rfl
      · exact List.forall_mem_cons.mpr ⟨canonical, allCanonical⟩
end

theorem described_attributes_literal (value : Json) (attributes : Attributes)
    (described : DescribesAttributes value attributes) :
    Attributes.literalEntries attributes.entries := by
  cases described with
  | object fields texts _ scalars entries =>
      rw [entries]
      exact literal_entries_map _

mutual
theorem described_literal : (node : Node) → (value : Json) → Describes value node → node.literal
  | .text s, _, _ => rfl
  | .reference r, _, _ => rfl
  | .element ⟨tagField, mappingField, bodyField, commentField⟩, value, described => by
      generalize content : bodyField = field at described
      cases described with
      | element fields tag comment attributes body _ _ tagged commented mapped filled =>
          have bodyGiven := described_body_literal bodyField body content _ filled
          rw [content] at bodyGiven
          have tagGiven : literalField (tag.map .literal) := by cases tag <;> rfl
          have commentGiven : literalField (comment.map .literal) := by cases comment <;> rfl
          have mappingGiven : literalMapping (attributes.map .literal) := by
            generalize chosen fields ["attributes", "properties", "attrs"] = mapping at mapped
            cases mapped with
            | none => rfl
            | some own => exact described_attributes_literal _ _ own
          simp [literal, tagGiven, commentGiven, mappingGiven, bodyGiven]
theorem described_body_literal : (field : Option (Value (Body Node))) →
    (body : Option (Body Node)) → field = body.map .literal → (content : Option Json) →
    Option.Rel DescribesBody content body → literalBody field
  | none, _, _, _, _ => rfl
  | some (.deferred _), body, held, _, _ => by cases body <;> cases held
  | some (.literal (.text s)), _, _, _, _ => rfl
  | some (.literal (.nodes children)), body, held, content, described => by
      cases described with
      | none => cases held
      | some own =>
          cases held
          cases own with
          | nodes items _ listed => exact described_all_literal children items listed
theorem described_all_literal : (nodes : List Node) → (items : List Json) →
    List.Forall₂ Describes items nodes → allLiteral nodes
  | [], _, _ => rfl
  | node :: rest, _, listed => by
      cases listed with
      | cons first behind =>
          simp [allLiteral, described_literal node _ first, described_all_literal rest _ behind]
end

theorem to_json_read (node : Node) (given : node.literal) :
    ∃ value, node.toJson = .ok value ∧ fromJson value = .ok node ∧ Canonical value := by
  obtain ⟨value, written, described, canonical⟩ := literal_written node given
  refine ⟨value, ?_, ?_, canonical⟩
  · rw [toJson, written]
    rfl
  · rw [from_json_ok, of_json_ok]
    exact described

theorem json_round_trip_canonical :
    (∀ node : Node, node.literal → ∃ value, node.toJson = .ok value ∧ fromJson value = .ok node) ∧
      ∀ value node, fromJson value = .ok node →
        ∃ canonical, node.toJson = .ok canonical ∧ Canonical canonical ∧
          fromJson canonical = fromJson value ∧
          (fromJson canonical >>= toJson) = .ok canonical ∧
          ∀ registry limit past,
            (fromJson canonical).map (fun again => (again.render registry limit).account past) =
              (fromJson value).map fun node => (node.render registry limit).account past := by
  constructor
  · intro node given
    obtain ⟨value, written, read, _⟩ := to_json_read node given
    exact ⟨value, written, read⟩
  · intro value node read
    have described := (of_json_ok value node).mp ((from_json_ok value node).mp read)
    have given := described_literal node value described
    obtain ⟨canonical, written, again, shaped⟩ := to_json_read node given
    have same : fromJson canonical = fromJson value := again.trans read.symm
    refine ⟨canonical, written, shaped, same, ?_, ?_⟩
    · rw [again]
      exact written
    · intro registry limit past
      rw [same]

def aliasedCanonical : Json :=
  .object
    [("tag", .string "A"),
      ("attributes", .object
        [("b", .string "x"), ("a", .string "-1"), ("d", .string (Number.real 2.5).text),
          ("c", .string "false")]),
      ("body",
        .array [.object [("template", .string "t"), ("params", .null)], .object [], .string ""]),
      ("comment", .string "c")]

theorem aliased_round_trip :
    aliasedNode.literal ∧
      (∃ value, aliasedNode.toJson = .ok value ∧ fromJson value = .ok aliasedNode) ∧
      fromJson (.object aliasedFields) = .ok aliasedNode ∧
      aliasedNode.toJson = .ok aliasedCanonical ∧ Canonical aliasedCanonical ∧
      fromJson aliasedCanonical = fromJson (.object aliasedFields) ∧
      (fromJson aliasedCanonical >>= toJson) = .ok aliasedCanonical := by
  have given : aliasedNode.literal := rfl
  have read : fromJson (.object aliasedFields) = .ok aliasedNode := rfl
  have written : aliasedNode.toJson = .ok aliasedCanonical := rfl
  obtain ⟨canonical, again, shaped, same, fixed, _⟩ :=
    json_round_trip_canonical.2 (.object aliasedFields) aliasedNode read
  obtain rfl : canonical = aliasedCanonical := Except.ok.inj (again.symm.trans written)
  exact ⟨given, json_round_trip_canonical.1 aliasedNode given, read, written, shaped, same, fixed⟩

end HtmlTemplate.Node
