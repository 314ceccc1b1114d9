import Mathlib.Data.List.Induction
import HtmlTemplate.Node.Builder
import HtmlTemplate.Proofs.CallOrder

/-!
An element that is built in steps is what a replay of the steps tells, also where attributes are
set on top of a mapping that is yet to be produced. Only what the replay is left with is run.
-/

set_option autoImplicit false

namespace HtmlTemplate.Element

open Stage (firstFailure reached)

section Replay

variable {ν : Type}

namespace Step

def starts : Step ν → Bool
  | .ofTag _ => true
  | .fragment => true
  | _ => false

def tag? : Step ν → Option (Value String)
  | .ofTag tag => some (.literal tag)
  | .deferTag d => some (.deferred d)
  | _ => none

def body? : Step ν → Option (Value (Body ν))
  | .setText s => some (.literal (.text s))
  | .setChildren children => some (.literal (.nodes children))
  | .deferBody d => some (.deferred d)
  | _ => none

def comment? : Step ν → Option (Value String)
  | .setComment s => some (.literal s)
  | .deferComment d => some (.deferred d)
  | _ => none

def mapping? : Step ν → Option (Value Attributes)
  | .setAttributes attributes => some (.literal attributes)
  | .deferAttributes d => some (.deferred d)
  | _ => none

def pair? : Step ν → Option (String × Value String)
  | .attr key value => some (key, .literal value)
  | .deferAttr key d => some (key, .deferred d)
  | _ => none

end Step

-- Of some steps, given the latest first, those since the last start.
def sinceStart : List (Step ν) → List (Step ν)
  | [] => []
  | step :: earlier => if step.starts then [step] else step :: sinceStart earlier

-- What the last step since the last start that sets a field sets it to.
def lastSet {α : Type} (field? : Step ν → Option (Value α)) (steps : List (Step ν)) :
    Option (Value α) :=
  (sinceStart steps.reverse).findSome? field?

-- The attributes set after the last mapping, in the order of their steps.
def laterPairs (steps : List (Step ν)) : List (String × Value String) :=
  (((sinceStart steps.reverse).takeWhile (·.mapping?.isNone)).filterMap Step.pair?).reverse

def added (mapping : Option (Value Attributes)) (pair : String × Value String) :
    Option (Value Attributes) :=
  ({ fragment with attributes := mapping } : Element Node).addAttribute pair.1 pair.2 |>.attributes

theorem since_start_step (steps : List (Step ν)) (step : Step ν) :
    sinceStart (steps ++ [step]).reverse =
      if step.starts then [step] else step :: sinceStart steps.reverse := by
  rw [List.reverse_concat]
  rfl

theorem last_set_step {α : Type} (field? : Step ν → Option (Value α)) (steps : List (Step ν))
    (step : Step ν) :
    lastSet field? (steps ++ [step]) =
      if step.starts then field? step else (field? step).or (lastSet field? steps) := by
  rw [lastSet, since_start_step]
  cases starts : step.starts with
  | true => simp
  | false => cases found : field? step <;> simp [lastSet, found]

theorem later_pairs_step (steps : List (Step ν)) (step : Step ν) :
    laterPairs (steps ++ [step]) =
      if step.starts ∨ step.mapping?.isSome then [] else laterPairs steps ++ step.pair?.toList := by
  rw [laterPairs, since_start_step]
  cases starts : step.starts with
  | true =>
      cases step with
      | ofTag tag => rfl
      | fragment => rfl
      | _ => cases starts
  | false =>
      cases placed : step.mapping? with
      | some mapping => simp [placed]
      | none => cases added : step.pair? <;> simp [laterPairs, placed, added]

-- The fields of a built element. The attributes are stacked on the last mapping one by one.
theorem build_replayed (steps : List (Step ν)) :
    build steps =
      ⟨lastSet Step.tag? steps, (laterPairs steps).foldl added (lastSet Step.mapping? steps),
        lastSet Step.body? steps, lastSet Step.comment? steps⟩ := by
  induction steps using List.reverseRecOn with
  | nil => rfl
  | append_singleton steps step ih =>
      have built : build (steps ++ [step]) = (build steps).apply step := by simp [build]
      rw [built, ih]
      simp only [last_set_step, later_pairs_step]
      cases step <;> simp [apply, Step.starts, Step.tag?, Step.body?, Step.comment?, Step.mapping?,
        Step.pair?, ofTag, fragment, deferTag, attr, deferAttr, addAttribute, setAttributes,
        deferAttributes, setText, setChildren, deferBody, setComment, deferComment, added,
        Text.shown]

end Replay

section Left

variable (past : Trace) (steps : List (Step Node))

def filledPast : Trace :=
  fieldPast (fieldPast past (lastSet Step.tag? steps)) (lastSet Step.body? steps)

def mappedPast : Trace :=
  fieldPast (filledPast past steps) (lastSet Step.mapping? steps)

-- The mapping that the steps leave: the one that was set last, with the later attributes set in it.
def finalMapping : List (String × Value String) :=
  Entries.setAll
    (fieldGives (filledPast past steps) Attributes.empty (lastSet Step.mapping? steps)).entries
    (laterPairs steps)

def replayedCalls : List Stage :=
  fieldStages past (lastSet Step.tag? steps) ++
    fieldStages (fieldPast past (lastSet Step.tag? steps)) (lastSet Step.body? steps) ++
    fieldStages (filledPast past steps) (lastSet Step.mapping? steps) ++
    valueStages (mappedPast past steps) (finalMapping past steps) ++
    fieldStages (valuesPast (mappedPast past steps) (finalMapping past steps))
      (lastSet Step.comment? steps)

def replayed : ResolvedElement where
  tag := normalizeTag (fieldGives past "" (lastSet Step.tag? steps))
  attributes := valuesGiven (mappedPast past steps) (finalMapping past steps)
  body := fieldGives (fieldPast past (lastSet Step.tag? steps)) .empty (lastSet Step.body? steps)
  comment := (lastSet Step.comment? steps).map fun value =>
    fieldGives (valuesPast (mappedPast past steps) (finalMapping past steps)) "" (some value)

end Left

theorem added_told (trace : Trace) (mapping : Option (Value Attributes))
    (pair : String × Value String) :
    (fieldStages trace (added mapping pair)).map Stage.told =
      (fieldStages trace mapping).map Stage.told := by
  match mapping with
  | none => rfl
  | some (.literal attributes) => rfl
  | some (.deferred d) =>
      cases made : d.outcome trace <;>
        simp [fieldStages, added, addAttribute, fragment, Deferred.map, made, callStage, Except.map,
          Stage.told, Stage.event?, Stage.failure?]

theorem added_past (trace : Trace) (mapping : Option (Value Attributes))
    (pair : String × Value String) :
    fieldPast trace (added mapping pair) = fieldPast trace mapping := by
  match mapping with
  | none => rfl
  | some (.literal attributes) => rfl
  | some (.deferred d) => rfl

theorem added_entries (trace : Trace) (mapping : Option (Value Attributes))
    (pair : String × Value String) (passes : firstFailure (fieldStages trace mapping) = none) :
    (fieldGives trace Attributes.empty (added mapping pair)).entries =
      Entries.set (fieldGives trace Attributes.empty mapping).entries pair.1 pair.2 := by
  match mapping with
  | none => rfl
  | some (.literal attributes) => rfl
  | some (.deferred d) =>
      cases made : d.outcome trace with
      | ok attributes =>
          simp [fieldGives, added, addAttribute, fragment, Deferred.map, made, Except.map,
            Attributes.set]
      | error e => simp [firstFailure, fieldStages, made, callStage, Stage.failure?] at passes

theorem stacked_told (trace : Trace) (mapping : Option (Value Attributes))
    (pairs : List (String × Value String)) :
    (fieldStages trace (pairs.foldl added mapping)).map Stage.told =
      (fieldStages trace mapping).map Stage.told := by
  induction pairs generalizing mapping with
  | nil => rfl
  | cons pair rest ih => rw [List.foldl_cons, ih, added_told]

theorem stacked_past (trace : Trace) (mapping : Option (Value Attributes))
    (pairs : List (String × Value String)) :
    fieldPast trace (pairs.foldl added mapping) = fieldPast trace mapping := by
  induction pairs generalizing mapping with
  | nil => rfl
  | cons pair rest ih => rw [List.foldl_cons, ih, added_past]

theorem stacked_entries (trace : Trace) (mapping : Option (Value Attributes))
    (pairs : List (String × Value String))
    (passes : firstFailure (fieldStages trace mapping) = none) :
    (fieldGives trace Attributes.empty (pairs.foldl added mapping)).entries =
      Entries.setAll (fieldGives trace Attributes.empty mapping).entries pairs := by
  induction pairs generalizing mapping with
  | nil => rfl
  | cons pair rest ih =>
      have still : firstFailure (fieldStages trace (added mapping pair)) = none := by
        rw [Stage.first_failure_told _ _ (added_told trace mapping pair), passes]
      rw [List.foldl_cons, ih _ still, added_entries trace mapping pair passes]
      rfl

theorem build_follows (steps : List (Step Node)) (past : Trace) :
    (build steps).resolve.Follows past (replayedCalls past steps) (replayed past steps) := by
  have follows := follows_element (build steps) past
  rw [build_replayed] at follows ⊢
  let built : Element Node :=
    ⟨lastSet Step.tag? steps, (laterPairs steps).foldl added (lastSet Step.mapping? steps),
      lastSet Step.body? steps, lastSet Step.comment? steps⟩
  have told : (fieldStages (built.bodyPast past) built.attributes).map Stage.told = _ :=
    stacked_told (filledPast past steps) (lastSet Step.mapping? steps) (laterPairs steps)
  have mapped : built.mappingPast past = mappedPast past steps :=
    stacked_past (filledPast past steps) (lastSet Step.mapping? steps) (laterPairs steps)
  have front : (replayedCalls past steps).map Stage.told =
      (fieldStages past built.tag ++ fieldStages (built.tagPast past) built.body ++
        fieldStages (built.bodyPast past) built.attributes ++
        valueStages (mappedPast past steps) (finalMapping past steps) ++
        fieldStages (valuesPast (mappedPast past steps) (finalMapping past steps))
          built.comment).map Stage.told := by
    simp only [replayedCalls, List.map_append, told]
    rfl
  refine follows_told _ _ _ _ _ front ?_
  cases failed :
      firstFailure (fieldStages (filledPast past steps) (lastSet Step.mapping? steps)) with
  | none =>
      have entries : built.mappingGiven past = finalMapping past steps :=
        stacked_entries (filledPast past steps) _ (laterPairs steps) failed
      rw [← mapped, ← entries, replayed, ← mapped, ← entries]
      exact follows
  | some e =>
      -- The attributes that are stacked on a mapping that fails are never seen.
      have cut : (firstFailure (fieldStages past built.tag ++
          fieldStages (built.tagPast past) built.body ++
          fieldStages (built.bodyPast past) built.attributes)).isSome := by
        have stops := Stage.first_failure_told _ _ told
        rw [failed] at stops
        simp [Stage.first_failure_append, stops]
      rw [stages, List.append_assoc] at follows
      rw [List.append_assoc]
      exact follows_cut _ _ _ _ _ _ _ cut follows

-- Whether an event is among what has run makes no difference to a value that is run later on.
def Overlooks {α : Type} (event : Event) (past : Trace) : Value α → Prop
  | .literal _ => True
  | .deferred d => ∀ newer, d.outcome (newer ++ event :: past) = d.outcome (newer ++ past)

section Overlooking

variable {α : Type} (event : Event) (past newer : Trace)

theorem overlooked_field [Labelled α] (absent : α) (value : Value α)
    (overlooks : Overlooks event past value) :
    fieldStages (newer ++ event :: past) (some value) = fieldStages (newer ++ past) (some value) ∧
      fieldGives (newer ++ event :: past) absent (some value) =
        fieldGives (newer ++ past) absent (some value) ∧
      ∃ more, fieldPast (newer ++ event :: past) (some value) = more ++ event :: past ∧
        fieldPast (newer ++ past) (some value) = more ++ past := by
  cases value with
  | literal a => exact ⟨rfl, rfl, newer, rfl, rfl⟩
  | deferred d =>
      have same := overlooks newer
      refine ⟨?_, ?_, .produced d.label :: newer, rfl, rfl⟩
      · simp only [fieldStages, same]
      · simp only [fieldGives, same]

theorem overlooked_values (entries : List (String × Value String))
    (overlook : ∀ entry ∈ entries, Overlooks event past entry.2) :
    valueStages (newer ++ event :: past) entries = valueStages (newer ++ past) entries ∧
      valuesGiven (newer ++ event :: past) entries = valuesGiven (newer ++ past) entries ∧
      ∃ more, valuesPast (newer ++ event :: past) entries = more ++ event :: past ∧
        valuesPast (newer ++ past) entries = more ++ past := by
  induction entries generalizing newer with
  | nil => exact ⟨rfl, rfl, newer, rfl, rfl⟩
  | cons entry rest ih =>
      obtain ⟨key, value⟩ := entry
      obtain ⟨first, others⟩ := List.forall_mem_cons.mp overlook
      obtain ⟨stages, gives, more, seen, unseen⟩ := overlooked_field event past newer "" value first
      obtain ⟨later, given, further⟩ := ih more others
      refine ⟨?_, ?_, ?_⟩
      · rw [valueStages, valueStages, stages, seen, unseen, later]
      · rw [valuesGiven, valuesGiven, gives, seen, unseen, given]
      · rw [valuesPast, valuesPast, seen, unseen]
        exact further

end Overlooking

structure MappingGiven {ν : Type} (d : Deferred Attributes) (filled : Trace)
    (left : Option (Value Attributes)) (e other : Element ν) : Prop where
  tag : other.tag = e.tag
  body : other.body = e.body
  comment : other.comment = e.comment
  attributes : other.attributes = e.attributes ∨
    left = some (.deferred d) ∧ ∃ stacked mapping,
      e.attributes = some (.deferred stacked) ∧ stacked.label = d.label ∧
      stacked.outcome filled = .ok mapping ∧ other.attributes = some (.literal mapping)

section Given

variable (d : Deferred Attributes) (filled : Trace)

theorem apply_mapping_given {ν : Type} (left : Option (Value Attributes)) (e other : Element ν)
    (same : MappingGiven d filled left e other) (step : Step ν) :
    MappingGiven d filled (if step.starts then step.mapping? else step.mapping?.or left)
      (e.apply step) (other.apply step) := by
  obtain ⟨_, attributes, _, _⟩ := e
  obtain ⟨tag, attributes', body, comment⟩ := other
  obtain ⟨rfl, rfl, rfl, mappings⟩ := same
  dsimp only at mappings
  have added (key : String) (value : Value String) :
      MappingGiven d filled left (addAttribute ⟨tag, attributes, body, comment⟩ key value)
        (addAttribute ⟨tag, attributes', body, comment⟩ key value) := by
    refine ⟨rfl, rfl, rfl, ?_⟩
    rcases mappings with rfl | ⟨last, stacked, mapping, rfl, label, made, rfl⟩
    · exact .inl rfl
    · refine .inr ⟨last, stacked.map (·.set key value), mapping.set key value, rfl, label, ?_, rfl⟩
      exact congrArg (Except.map (·.set key value)) made
  cases step with
  | attr key value => exact added key _
  | deferAttr key d => exact added key _
  | setAttributes attributes => exact ⟨rfl, rfl, rfl, .inl rfl⟩
  | deferAttributes d => exact ⟨rfl, rfl, rfl, .inl rfl⟩
  | ofTag tag => exact ⟨rfl, rfl, rfl, .inl rfl⟩
  | fragment => exact ⟨rfl, rfl, rfl, .inl rfl⟩
  | _ => exact ⟨rfl, rfl, rfl, mappings⟩

theorem build_mapping_given {ν : Type} (mapping : Attributes)
    (made : d.outcome filled = .ok mapping) (before after : List (Step ν)) :
    MappingGiven d filled (lastSet Step.mapping? (before ++ .deferAttributes d :: after))
      (build (before ++ .deferAttributes d :: after))
      (build (before ++ .setAttributes mapping :: after)) := by
  have built (steps : List (Step ν)) (step : Step ν) :
      build (steps ++ [step]) = (build steps).apply step := by simp [build]
  induction after using List.reverseRecOn with
  | nil =>
      rw [built, built]
      refine ⟨rfl, rfl, rfl, .inr ⟨?_, d, mapping, rfl, rfl, made, rfl⟩⟩
      rw [last_set_step]
      rfl
  | append_singleton after step ih =>
      rw [← List.cons_append, ← List.cons_append, ← List.append_assoc, ← List.append_assoc, built,
        built, last_set_step]
      exact apply_mapping_given d filled _ _ _ ih step

theorem mapping_given_outcome (left : Option (Value Attributes)) (e other : Element Node)
    (past : Trace) (same : MappingGiven d (e.bodyPast past) left e other)
    (overlooked : left = some (.deferred d) →
      (∀ entry ∈ e.mappingGiven past, Overlooks (.produced d.label) (e.bodyPast past) entry.2) ∧
      ∀ value, e.comment = some value → Overlooks (.produced d.label) (e.bodyPast past) value) :
    (other.resolve.account past).outcome = (e.resolve.account past).outcome := by
  obtain ⟨_, attributes, _, _⟩ := e
  obtain ⟨tag, attributes', body, comment⟩ := other
  obtain ⟨rfl, rfl, rfl, rfl | ⟨last, stacked, mapping, rfl, label, made, rfl⟩⟩ := same
  · rfl
  · let e : Element Node := ⟨tag, some (.deferred stacked), body, comment⟩
    let other : Element Node := ⟨tag, some (.literal mapping), body, comment⟩
    let event := Event.produced d.label
    have mapped : e.mappingPast past = event :: e.bodyPast past :=
      congrArg (Event.produced · :: e.bodyPast past) label
    have entries : e.mappingGiven past = mapping.entries := by
      rw [mappingGiven, fieldGives, made]
    have passes : firstFailure (fieldStages (e.bodyPast past) e.attributes) = none := by
      simp only [fieldStages, e, made, callStage]
      rfl
    obtain ⟨values, ends⟩ := overlooked last
    rw [entries] at values
    obtain ⟨stages, given, more, seen, unseen⟩ :=
      overlooked_values event (e.bodyPast past) [] mapping.entries values
    rw [List.nil_append, List.nil_append] at stages given
    rw [List.nil_append] at seen unseen
    have comments : fieldStages (more ++ event :: e.bodyPast past) comment =
          fieldStages (more ++ e.bodyPast past) comment ∧
        (comment.map fun value => fieldGives (more ++ event :: e.bodyPast past) "" (some value)) =
          comment.map fun value => fieldGives (more ++ e.bodyPast past) "" (some value) := by
      cases comment with
      | none => exact ⟨rfl, rfl⟩
      | some value =>
          obtain ⟨same, gives, _⟩ := overlooked_field event _ more "" value (ends value rfl)
          exact ⟨same, congrArg some gives⟩
    have failures : firstFailure (other.stages past) = firstFailure (e.stages past) := by
      have direct : other.stages past =
          fieldStages past tag ++ fieldStages (e.tagPast past) body ++ [] ++
            valueStages (e.bodyPast past) mapping.entries ++
            fieldStages (valuesPast (e.bodyPast past) mapping.entries) comment := rfl
      rw [direct, Element.stages, entries, mapped, stages, seen, unseen, comments.1]
      simp only [Stage.first_failure_append, passes]
      rfl
    have gives : other.given past = e.given past := by
      have direct : other.given past =
          ⟨normalizeTag (fieldGives past "" tag), valuesGiven (e.bodyPast past) mapping.entries,
            fieldGives (e.tagPast past) .empty body, comment.map fun value =>
              fieldGives (valuesPast (e.bodyPast past) mapping.entries) "" (some value)⟩ := rfl
      rw [direct, Element.given, entries, mapped, given, seen, unseen, comments.2]
    rw [follows_account _ _ _ _ (follows_element other past),
      follows_account _ _ _ _ (follows_element e past), failures, gives]

end Given

theorem steps_replayed (steps : List (Step Node)) :
    (build steps).tag = lastSet Step.tag? steps ∧ (build steps).body = lastSet Step.body? steps ∧
      (build steps).comment = lastSet Step.comment? steps ∧
      ∀ past,
        (build steps).resolve.account past =
          ⟨(firstFailure (replayedCalls past steps)).elim (.ok (replayed past steps)) .error,
            Stage.past past (reached (replayedCalls past steps)),
            Stage.events (reached (replayedCalls past steps))⟩ ∧
        ∀ before d mapping after, steps = before ++ .deferAttributes d :: after →
          d.outcome (filledPast past steps) = .ok mapping →
          (lastSet Step.mapping? steps = some (.deferred d) →
            (∀ entry ∈ finalMapping past steps,
              Overlooks (.produced d.label) (filledPast past steps) entry.2) ∧
            ∀ value, lastSet Step.comment? steps = some value →
              Overlooks (.produced d.label) (filledPast past steps) value) →
          ((build (before ++ .setAttributes mapping :: after)).resolve.account past).outcome =
            ((build steps).resolve.account past).outcome := by
  have fields := build_replayed steps
  have tags : (build steps).tag = lastSet Step.tag? steps := congrArg tag fields
  have bodies : (build steps).body = lastSet Step.body? steps := congrArg body fields
  have comments : (build steps).comment = lastSet Step.comment? steps := congrArg comment fields
  refine ⟨tags, bodies, comments, fun past => ⟨?_, ?_⟩⟩
  · exact follows_account _ _ _ _ (build_follows steps past)
  · intro before d mapping after split made overlooked
    have filled : (build steps).bodyPast past = filledPast past steps := by
      rw [bodyPast, tagPast, tags, bodies]
      rfl
    have same := build_mapping_given d (filledPast past steps) mapping made before after
    rw [← split, ← filled] at same
    refine mapping_given_outcome d _ _ _ past same fun last => ?_
    obtain ⟨values, ends⟩ := overlooked last
    have passes : firstFailure (fieldStages (filledPast past steps)
        (lastSet Step.mapping? steps)) = none := by
      rw [last, fieldStages, made]
      rfl
    have entries : (build steps).mappingGiven past = finalMapping past steps := by
      rw [mappingGiven, filled, fields]
      exact stacked_entries _ _ _ passes
    rw [entries, comments, filled]
    exact ⟨values, ends⟩

def ranBefore (label : String) (past : Trace) : Bool :=
  past.any fun event =>
    match event with
    | .produced made => made = some label
    | _ => false

def promise {α : Type} (label : String) (a : α) : Deferred α :=
  .fixed (some label) (.ok a)

def failing {α : Type} (label : String) : Deferred α :=
  .fixed (some label) (.error (.failure "dropped"))

-- All that is dropped by the time the mapping is set fails if it is run.
def droppedSteps : List (Step Node) :=
  [.ofTag "div", .deferTag (failing "old tag"), .deferAttributes (failing "old mapping"),
    .deferAttr "old" (failing "old value"), .ofTag "P", .deferBody (promise "body" (.text "c"))]

-- The first attribute depends on the body that is produced before it.
def pageId : Value String :=
  .deferred ⟨some "id", fun past => .ok (if ranBefore "body" past then "a" else "b")⟩

def pageMapping : Attributes :=
  (Attributes.empty.set "id" pageId).set "lang" (.deferred (failing "old lang"))

def addedSteps : List (Step Node) :=
  [.deferAttr "lang" (promise "lang" "de"), .deferAttr "class" (promise "class" "b"),
    .attr "lang" "en"]

def pageSteps : List (Step Node) :=
  droppedSteps ++ .deferAttributes (promise "mapping" pageMapping) :: addedSteps

def pageResolved : ResolvedElement :=
  ⟨some "p", [("id", "a"), ("lang", "en"), ("class", "b")], .text "c", none⟩

def pageCalls : List Event :=
  [.produced (some "body"), .produced (some "mapping"), .produced (some "id"),
    .produced (some "class")]

theorem page_steps_replayed :
    (promise "mapping" pageMapping).outcome (filledPast [] pageSteps) = .ok pageMapping ∧
      lastSet Step.mapping? pageSteps = some (.deferred (promise "mapping" pageMapping)) ∧
      (∀ entry ∈ finalMapping [] pageSteps,
        Overlooks (.produced (some "mapping")) (filledPast [] pageSteps) entry.2) ∧
      (build pageSteps).resolve.account [] = ⟨.ok pageResolved, pageCalls.reverse, pageCalls⟩ ∧
      ((build (droppedSteps ++ .setAttributes pageMapping :: addedSteps)).resolve.account []).outcome =
        .ok pageResolved := by
  obtain ⟨-, -, -, replays⟩ := steps_replayed pageSteps
  obtain ⟨account, replaces⟩ := replays []
  have whole : (build pageSteps).resolve.account [] =
      ⟨.ok pageResolved, pageCalls.reverse, pageCalls⟩ := account.trans rfl
  have values : ∀ entry ∈ finalMapping [] pageSteps,
      Overlooks (.produced (some "mapping")) (filledPast [] pageSteps) entry.2 := by
    have left : finalMapping [] pageSteps =
        [("id", pageId), ("lang", .literal "en"), ("class", .deferred (promise "class" "b"))] := rfl
    have overlooks : Overlooks (.produced (some "mapping")) (filledPast [] pageSteps) pageId := by
      intro newer
      simp [ranBefore]
    rw [left]
    exact List.forall_mem_cons.mpr ⟨overlooks, List.forall_mem_cons.mpr
      ⟨trivial, List.forall_mem_singleton.mpr fun _ => rfl⟩⟩
  refine ⟨rfl, rfl, values, whole, ?_⟩
  refine (replaces droppedSteps _ pageMapping addedSteps rfl rfl fun _ => ⟨values, ?_⟩).trans
    (congrArg Account.outcome whole)
  nofun

def noticedMapping : Deferred Attributes :=
  promise "mapping" .empty

def noticingComment : Deferred String :=
  ⟨some "comment", fun past => .ok (if ranBefore "mapping" past then "set" else "unset")⟩

-- The comment tells whether the mapping was produced, and a body that fails keeps it from being so.
theorem given_mapping_noticed :
    (∀ past, noticedMapping.outcome past = .ok .empty) ∧
      ((build [.ofTag "p", .deferAttributes noticedMapping,
        .deferComment noticingComment]).resolve.account []).outcome =
          .ok ⟨some "p", [], .text "", some "set"⟩ ∧
      ((build [.ofTag "p", .setAttributes .empty,
        .deferComment noticingComment]).resolve.account []).outcome =
          .ok ⟨some "p", [], .text "", some "unset"⟩ ∧
      let stopped := [.ofTag "p", .deferBody (failing "body"), .deferAttributes noticedMapping]
      lastSet Step.mapping? stopped = some (.deferred noticedMapping) ∧
        ((build stopped).resolve.account []).events = [.produced (some "body")] :=
  ⟨fun _ => rfl, rfl, rfl, rfl, rfl⟩

end HtmlTemplate.Element
