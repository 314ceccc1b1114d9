import HtmlTemplate.Proofs.DistinctNames
import HtmlTemplate.Proofs.InsertionOrder

/-!
Attributes after any sequence of operations: they stand in the order in which their names were first
set, each with the value that was set last. Nothing else of the sequence can be told from them.
-/

set_option autoImplicit false

namespace HtmlTemplate.Attributes

open Entries (keys setAll firstPlaceLastValue)
open Text (Shown shown)

inductive Operation : Type 1 where
  | set (key : String) (value : Value String)
  | put {α : Type} [Shown α] (key : String) (value : α)
  | ofList (pairs : List (String × String))

namespace Operation

def apply (attributes : Attributes) : Operation → Attributes
  | .set key value => attributes.set key value
  | @put _ _ key value => attributes.put key value
  | .ofList pairs => Attributes.ofList pairs

def starts : Operation → Bool
  | .ofList _ => true
  | _ => false

def pairs : Operation → List (String × Value String)
  | .set key value => [(key, value)]
  | @put _ _ key value => [(key, .literal (shown value))]
  | .ofList texts => texts.map fun text => (text.1, .literal text.2)

end Operation

def after (operations : List Operation) : Attributes :=
  operations.foldl Operation.apply empty

-- All that is set from the last start on.
def settings : List Operation → List (String × Value String)
  | [] => []
  | operation :: rest =>
    if rest.any Operation.starts then settings rest else operation.pairs ++ settings rest

theorem settings_step (operations : List Operation) (operation : Operation) :
    settings (operations ++ [operation]) =
      if operation.starts then operation.pairs else settings operations ++ operation.pairs := by
  induction operations with
  | nil => simp [settings]
  | cons first rest ih =>
      simp only [List.cons_append, settings, List.any_append, ih]
      cases anew : operation.starts with
      | true => simp [anew]
      | false => by_cases later : rest.any Operation.starts = true <;> simp [anew, later]

theorem of_list_set_all (pairs : List (String × String)) (attributes : Attributes) :
    (pairs.foldl (fun attributes pair => attributes.put pair.1 pair.2) attributes).entries =
      setAll attributes.entries (pairs.map fun pair => (pair.1, .literal pair.2)) := by
  induction pairs generalizing attributes with
  | nil => rfl
  | cons pair rest ih => exact ih (attributes.put pair.1 pair.2)

theorem after_set_all (operations : List Operation) :
    (after operations).entries = setAll [] (settings operations) := by
  induction operations using List.reverseRecOn with
  | nil => rfl
  | append_singleton operations operation ih =>
      have applied : after (operations ++ [operation]) = operation.apply (after operations) := by
        simp [after]
      have added (key : String) (value : Value String) :
          Entries.set (setAll [] (settings operations)) key value =
            setAll [] (settings operations ++ [(key, value)]) := by
        simp [setAll]
      rw [applied, settings_step]
      cases operation with
      | set key value => exact (congrArg (Entries.set · key value) ih).trans (added key value)
      | put key value => exact (congrArg (Entries.set · key _) ih).trans (added key _)
      | ofList pairs => exact of_list_set_all pairs empty

theorem same_entries (attributes other : Attributes) (same : attributes.entries = other.entries) :
    attributes = other := by
  cases attributes
  cases same
  rfl

theorem after_from_lookups (operations others : List Operation)
    (order : (keys (settings others)).eraseDups = (keys (settings operations)).eraseDups)
    (last : ∀ key, (settings others).reverse.lookup key = (settings operations).reverse.lookup key) :
    after others = after operations := by
  refine same_entries _ _ ?_
  rw [after_set_all, after_set_all, Entries.set_all_first_place_last_value,
    Entries.set_all_first_place_last_value, firstPlaceLastValue, firstPlaceLastValue, order]
  simp only [last]

theorem operations_keep_first_place_last_value (operations : List Operation) :
    let attributes := after operations
    let set := settings operations
    (keys attributes.entries).Nodup ∧
      keys attributes.entries = (keys set).eraseDups ∧
      (∀ key value, (key, value) ∈ attributes.entries ↔ set.reverse.lookup key = some value) ∧
      (∀ key, attributes.get? key = set.reverse.lookup key) ∧
      (∀ key, attributes.get? key = none ↔ key ∉ keys set) ∧
      attributes.size = (keys set).toFinset.card ∧
      (attributes.isEmpty ↔ attributes.size = 0) ∧
      attributes.force = forceAll (firstPlaceLastValue set) ∧
      ∀ others, (keys (settings others)).eraseDups = (keys set).eraseDups →
        (∀ key, (settings others).reverse.lookup key = set.reverse.lookup key) →
          after others = attributes := by
  intro attributes set
  have entries : attributes.entries = setAll [] set := after_set_all operations
  have got (key : String) : attributes.get? key = set.reverse.lookup key := by
    rw [get?, entries, Entries.get_set_all]
  refine ⟨attributes.distinct, ?_, ?_, got, ?_, ?_, ?_, ?_, ?_⟩
  · rw [entries, Entries.keys_set_all]
  · intro key value
    rw [← got]
    exact ⟨Entries.get_of_mem attributes.entries attributes.distinct (key, value),
      Entries.mem_of_get? attributes.entries key value⟩
  · intro key
    rw [got, Entries.lookup_absent]
    simp [keys]
  · refine Entries.length_distinct_names attributes.entries attributes.distinct _ fun key => ?_
    rw [entries, Entries.keys_set_all, List.mem_eraseDups]
  · rw [isEmpty, size, List.isEmpty_iff, List.length_eq_zero_iff]
  · rw [force, entries, Entries.set_all_first_place_last_value]
  · exact after_from_lookups operations

def brokenValue (label : String) : Value String :=
  .deferred (.fixed (some label) (.error (.failure "overwritten")))

def lastValue : Value String :=
  .deferred (.fixed (some "last") (.ok "4"))

-- Whatever fails is overwritten, or set before the start.
def windingOperations : List Operation :=
  [.set "x" (brokenValue "early"), .ofList [("b", "1"), ("a", "2"), ("b", "3")],
    .set "c" (brokenValue "old"), .put "a" true, .set "c" lastValue]

def straightOperations : List Operation :=
  [.put "b" (3 : Nat), .put "a" "true", .set "c" lastValue]

theorem winding_operations_keep_last :
    (keys (settings straightOperations)).eraseDups = (keys (settings windingOperations)).eraseDups ∧
      (∀ key, (settings straightOperations).reverse.lookup key =
        (settings windingOperations).reverse.lookup key) ∧
      after straightOperations = after windingOperations ∧
      keys (after windingOperations).entries = ["b", "a", "c"] ∧
      (after windingOperations).get? "x" = none ∧
      (after windingOperations).get? "c" = some lastValue ∧
      ((after windingOperations).force.account []).outcome =
        .ok [("b", "3"), ("a", "true"), ("c", "4")] := by
  have winding : settings windingOperations =
      [("b", .literal "1"), ("a", .literal "2"), ("b", .literal "3"), ("c", brokenValue "old"),
        ("a", .literal "true"), ("c", lastValue)] := rfl
  have straight : settings straightOperations =
      [("b", .literal "3"), ("a", .literal "true"), ("c", lastValue)] := rfl
  have order : (keys (settings straightOperations)).eraseDups =
      (keys (settings windingOperations)).eraseDups := by
    rw [straight, winding]
    decide
  have last (key : String) : (settings straightOperations).reverse.lookup key =
      (settings windingOperations).reverse.lookup key := by
    rw [straight, winding]
    simp only [List.reverse_cons, List.reverse_nil, List.nil_append, List.cons_append,
      List.lookup_cons]
    cases key == "c" <;> cases key == "a" <;> cases key == "b" <;> rfl
  obtain ⟨-, named, -, got, -, -, -, forced, alike⟩ :=
    operations_keep_first_place_last_value windingOperations
  refine ⟨order, last, alike straightOperations order last, named.trans ?_, (got "x").trans ?_,
    (got "c").trans ?_, ?_⟩
  · rw [winding]
    decide
  · rw [winding]
    rfl
  · rw [winding]
    rfl
  · rw [forced, winding]
    rfl

end HtmlTemplate.Attributes
