import Mathlib.Data.List.Forall2
import HtmlTemplate.Proofs.PlainText
import HtmlTemplate.Proofs.Timeless

/-!
Rendering with templates is substitution: the text of a node is the text of a node in which every
reference that would be rendered has been replaced by what it stands for.
-/

set_option autoImplicit false

namespace HtmlTemplate

-- Every node that a template gives has nothing deferred in it.
def Registry.GivesLiterals (registry : Registry) : Prop :=
  ∀ entry ∈ registry.templates, ∀ past params node, entry.2 past params = .ok node → node.literal

def Node.isReference : Node → Bool
  | .reference _ => true
  | _ => false

-- Looking references up, some number of times in a row, leads from one node to another one.
inductive Leads (registry : Registry) : Nat → Node → Node → Prop
  | here (node : Node) : Leads registry 0 node node
  | lookup (count : Nat) (r : Reference) (given final : Node) :
      registry.target r = .ok given → Leads registry count given final →
      Leads registry (count + 1) (.reference r) final

-- A node and what it is when its references are replaced. References that are not rendered stay.
inductive Expands (registry : Registry) (limit : Nat) : Node → Node → Prop
  | text (s : String) : Expands registry limit (.text s) (.text s)
  | whole (e : Element Node) :
      Node.bodiless e.tag ∨ e.body = none ∨ (∃ s, e.body = some (.literal (.text s))) →
      Expands registry limit (.element e) (.element e)
  | children (e : Element Node) (nodes others : List Node) :
      ¬ Node.bodiless e.tag → e.body = some (.literal (.nodes nodes)) →
      List.Forall₂ (Expands registry limit) nodes others →
      Expands registry limit (.element e) (.element { e with body := some (.literal (.nodes others)) })
  | reference (r : Reference) (count : Nat) (final expanded : Node) :
      count ≤ limit → Leads registry count (.reference r) final → final.isReference = false →
      Expands registry limit final expanded → Expands registry limit (.reference r) expanded

section Chains

variable (registry : Registry)

theorem target_literal (literals : registry.GivesLiterals) (r : Reference) (node : Node)
    (stands : registry.target r = .ok node) : node.literal := by
  unfold Registry.target at stands
  split at stands
  · rename_i template known
    exact literals _ (Entries.mem_of_get? _ _ _ known) [] r.params node stands
  · cases stands
    rfl

theorem leads_literal (literals : registry.GivesLiterals) (count : Nat) (node final : Node)
    (leads : Leads registry count node final) (given : node.literal) : final.literal := by
  induction leads with
  | here node => exact given
  | lookup count r between final stands _ ih =>
      exact ih (target_literal registry literals r between stands)

theorem leads_final (count : Nat) (node final : Node) (leads : Leads registry count node final)
    (settled : node.isReference = false) : count = 0 ∧ final = node := by
  cases leads with
  | here node => exact ⟨rfl, rfl⟩
  | lookup count r given final stands behind => cases settled

theorem expands_final (limit : Nat) (node expanded : Node) :
    Expands registry limit node expanded ↔
      ∃ count final, count ≤ limit ∧ Leads registry count node final ∧
        final.isReference = false ∧ Expands registry limit final expanded := by
  constructor
  · intro expands
    cases node with
    | text s => exact ⟨0, _, Nat.zero_le _, .here _, rfl, expands⟩
    | element e => exact ⟨0, _, Nat.zero_le _, .here _, rfl, expands⟩
    | reference r =>
        cases expands with
        | reference r count final expanded within leads ends behind =>
            exact ⟨count, final, within, leads, ends, behind⟩
  · rintro ⟨count, final, within, leads, ends, behind⟩
    cases known : node.isReference with
    | false =>
        obtain ⟨_, rfl⟩ := leads_final registry count node final leads known
        exact behind
    | true =>
        cases node with
        | text s => cases known
        | element e => cases known
        | reference r => exact .reference r count final expanded within leads ends behind

end Chains

def Node.resolved? : Node → Option Resolved
  | .text s => some (.text s)
  | .element e => some (.element e.resolved)
  | .reference _ => none

theorem resolved_final (node : Node) (resolved : Resolved) (plain : node.resolved? = some resolved) :
    node.isReference = false := by
  cases node with
  | text s => rfl
  | element e => rfl
  | reference r => cases plain

theorem resolve_within_final (registry : Registry) (limit left : Nat) (node : Node)
    (resolved : Resolved) (given : node.literal) (plain : node.resolved? = some resolved) :
    node.resolveWithin registry limit left = pure resolved := by
  cases node with
  | text s =>
      cases plain
      exact resolve_within_text registry limit left s
  | element e =>
      cases plain
      rw [resolve_within_element, element_resolve_literal e given, map_pure]
  | reference r => cases plain

section Substitution

variable (registry : Registry) (limit : Nat)

theorem resolved_leads (timeless : registry.Timeless) (literals : registry.GivesLiterals)
    (left : Nat) (node : Node) (given : node.literal) (resolved : Resolved) (past later : Trace)
    (ran : (node.resolveWithin registry limit left).run.run past = (.ok resolved, later)) :
    ∃ count final, count ≤ left ∧ Leads registry count node final ∧
      final.resolved? = some resolved := by
  induction left generalizing node past with
  | zero =>
      cases node with
      | text s =>
          cases ran
          exact ⟨0, _, Nat.le_refl _, .here _, rfl⟩
      | element e =>
          rw [resolve_within_final registry limit 0 (.element e) _ given rfl] at ran
          cases ran
          exact ⟨0, _, Nat.le_refl _, .here _, rfl⟩
      | reference r => cases ran
  | succ left ih =>
      cases node with
      | text s =>
          cases ran
          exact ⟨0, _, Nat.zero_le _, .here _, rfl⟩
      | element e =>
          rw [resolve_within_final registry limit (left + 1) (.element e) _ given rfl] at ran
          cases ran
          exact ⟨0, _, Nat.zero_le _, .here _, rfl⟩
      | reference r =>
          obtain ⟨node, between, looked, behind⟩ := (Run.bind_gives _ _ _ _ _).mp ran
          rw [lookup_timeless registry timeless] at looked
          have stands : registry.target r = .ok node := congrArg Prod.fst looked
          have nodeGiven := target_literal registry literals r node stands
          obtain ⟨count, final, within, leads, plain⟩ := ih node nodeGiven between behind
          exact ⟨count + 1, final, Nat.succ_le_succ within, .lookup count r node final stands leads,
            plain⟩

theorem leads_resolved (timeless : registry.Timeless) (literals : registry.GivesLiterals)
    (count left : Nat) (node final : Node) (resolved : Resolved) (past : Trace)
    (leads : Leads registry count node final) (within : count ≤ left) (given : node.literal)
    (plain : final.resolved? = some resolved) :
    ∃ later, (node.resolveWithin registry limit left).run.run past = (.ok resolved, later) := by
  induction leads generalizing left past with
  | here node =>
      rw [resolve_within_final registry limit left node resolved given plain]
      exact ⟨past, rfl⟩
  | lookup count r between final stands _ ih =>
      cases left with
      | zero => cases within
      | succ left =>
          have betweenGiven := target_literal registry literals r between stands
          obtain ⟨later, behind⟩ := ih left (registry.lookupEvent r :: past)
            (Nat.le_of_succ_le_succ within) betweenGiven plain
          refine ⟨later, (Run.bind_gives _ _ _ _ _).mpr ⟨between, _, ?_, behind⟩⟩
          rw [lookup_timeless registry timeless, stands]

-- What is asked of the way in which child nodes are rendered: it gives the texts of the expansions
-- that fit into `room` levels.
def Substitutes (room : Nat) (child : Node → Run String) : Prop :=
  ∀ node, node.literal → ∀ past,
    (∀ s later, (child node).run.run past = (.ok s, later) →
      ∃ expanded, Expands registry limit node expanded ∧ expanded.height < room ∧
        s = expanded.plainText) ∧
    (∀ expanded, Expands registry limit node expanded → expanded.height < room →
      ∃ later, (child node).run.run past = (.ok expanded.plainText, later))

theorem all_literal_cons (node : Node) (rest : List Node) :
    Node.allLiteral (node :: rest) ↔ node.literal ∧ Node.allLiteral rest := by
  simp [Node.allLiteral]

theorem levels_cons (node : Node) (rest : List Node) (room : Nat) :
    Node.levels (node :: rest) ≤ room ↔ node.height < room ∧ Node.levels rest ≤ room := by
  simp only [Node.levels]
  omega

theorem children_substitute (room : Nat) (child : Node → Run String)
    (substitutes : Substitutes registry limit room child) (nodes : List Node)
    (given : Node.allLiteral nodes) (past : Trace) :
    (∀ s later, (Render.children child nodes).run.run past = (.ok s, later) →
      ∃ others, List.Forall₂ (Expands registry limit) nodes others ∧ Node.levels others ≤ room ∧
        s = Node.plainTexts others) ∧
    (∀ others, List.Forall₂ (Expands registry limit) nodes others → Node.levels others ≤ room →
      ∃ later, (Render.children child nodes).run.run past =
        (.ok (Node.plainTexts others), later)) := by
  induction nodes generalizing past with
  | nil =>
      constructor
      · intro s later ran
        cases ran
        exact ⟨[], .nil, Nat.zero_le _, rfl⟩
      · intro others expands _
        cases expands
        exact ⟨past, rfl⟩
  | cons node rest ih =>
      obtain ⟨nodeGiven, restGiven⟩ := (all_literal_cons node rest).mp given
      constructor
      · intro s later ran
        obtain ⟨first, between, begun, behind⟩ := (Run.bind_gives _ _ _ _ _).mp ran
        obtain ⟨others, last, continued, ended⟩ := (Run.bind_gives _ _ _ _ _).mp behind
        cases ended
        obtain ⟨expanded, expands, fits, rfl⟩ :=
          (substitutes node nodeGiven past).1 first between begun
        obtain ⟨more, expandsAll, fitAll, rfl⟩ := (ih restGiven between).1 others later continued
        exact ⟨expanded :: more, .cons expands expandsAll,
          (levels_cons expanded more room).mpr ⟨fits, fitAll⟩, rfl⟩
      · intro others expands fits
        cases expands with
        | cons first behind =>
            rename_i expanded more
            obtain ⟨nodeFits, restFits⟩ := (levels_cons expanded more room).mp fits
            obtain ⟨between, begun⟩ := (substitutes node nodeGiven past).2 expanded first nodeFits
            obtain ⟨later, continued⟩ := (ih restGiven between).2 more behind restFits
            refine ⟨later, (Run.bind_gives _ _ _ _ _).mpr ⟨_, between, begun, ?_⟩⟩
            exact (Run.bind_gives _ _ _ _ _).mpr ⟨_, later, continued, rfl⟩

theorem children_plain_text (e : Element Node) (others : List Node) :
    (Node.element { e with body := some (.literal (.nodes others)) }).plainText =
      e.resolved.wrap (Node.plainTexts others) := by
  rw [element_plain_text]
  rfl

theorem children_height (e : Element Node) (others : List Node) (bodied : ¬ Node.bodiless e.tag) :
    (Node.element { e with body := some (.literal (.nodes others)) }).height =
      Node.levels others := by
  rw [element_height, if_neg bodied]
  rfl

theorem whole_element (child : Node → Run String) (e : Element Node)
    (whole : Node.bodiless e.tag ∨ e.body = none ∨ ∃ s, e.body = some (.literal (.text s))) :
    Render.element child e.resolved = pure (Node.element e).plainText ∧
      (Node.element e).height = 0 := by
  rw [element_plain_text, element_height]
  by_cases single : Node.bodiless e.tag
  · exact ⟨element_bodiless child e.resolved _ single, if_pos single⟩
  · rw [element_maps_body child e.resolved single, if_neg single]
    rcases whole.resolve_left single with absent | ⟨s, text⟩
    · simp only [Element.resolved, absent]
      exact ⟨rfl, rfl⟩
    · simp only [Element.resolved, text]
      exact ⟨rfl, rfl⟩

theorem parted_element (child : Node → Run String) (e : Element Node)
    (given : (Node.element e).literal)
    (parted : ¬ (Node.bodiless e.tag ∨ e.body = none ∨ ∃ s, e.body = some (.literal (.text s)))) :
    ¬ Node.bodiless e.tag ∧ ∃ nodes, e.body = some (.literal (.nodes nodes)) ∧
      Node.allLiteral nodes ∧
      Render.element child e.resolved = e.resolved.wrap <$> Render.children child nodes := by
  obtain ⟨_, _, bodyGiven, _⟩ := element_literal_fields e given
  have bodied : ¬ Node.bodiless e.tag := fun single => parted (.inl single)
  refine ⟨bodied, ?_⟩
  rw [element_maps_body child e.resolved bodied, Element.resolved]
  match body : e.body with
  | none => exact absurd (.inr (.inl body)) parted
  | some (.literal (.text s)) => exact absurd (.inr (.inr ⟨s, body⟩)) parted
  | some (.literal (.nodes nodes)) =>
      rw [body] at bodyGiven
      exact ⟨nodes, rfl, bodyGiven, rfl⟩
  | some (.deferred d) =>
      rw [body] at bodyGiven
      cases bodyGiven

theorem element_substitutes (room : Nat) (child : Node → Run String)
    (substitutes : Substitutes registry limit room child) (e : Element Node)
    (given : (Node.element e).literal) (past : Trace) :
    (∀ s later, (Render.element child e.resolved).run.run past = (.ok s, later) →
      ∃ expanded, Expands registry limit (.element e) expanded ∧ expanded.height < room + 1 ∧
        s = expanded.plainText) ∧
    (∀ expanded, Expands registry limit (.element e) expanded → expanded.height < room + 1 →
      ∃ later, (Render.element child e.resolved).run.run past =
        (.ok expanded.plainText, later)) := by
  by_cases whole :
      Node.bodiless e.tag ∨ e.body = none ∨ ∃ s, e.body = some (.literal (.text s))
  · obtain ⟨written, flat⟩ := whole_element child e whole
    rw [written]
    constructor
    · intro s later ran
      cases ran
      exact ⟨_, .whole e whole, by omega, rfl⟩
    · intro expanded expands _
      cases expands with
      | whole e _ => exact ⟨past, rfl⟩
      | children e nodes others bodied listed _ =>
          rcases whole with single | absent | ⟨s, text⟩
          · exact absurd single bodied
          · rw [listed] at absent
            cases absent
          · rw [listed] at text
            cases text
  · obtain ⟨bodied, nodes, listed, nodesGiven, written⟩ := parted_element child e given whole
    obtain ⟨reads, writes⟩ :=
      children_substitute registry limit room child substitutes nodes nodesGiven past
    rw [written]
    constructor
    · intro s later ran
      obtain ⟨text, inside, rfl⟩ := (Run.map_gives _ _ _ _ _).mp ran
      obtain ⟨others, expands, fits, rfl⟩ := reads text later inside
      refine ⟨_, .children e nodes others bodied listed expands, ?_, ?_⟩
      · rw [children_height e others bodied]
        exact Nat.lt_succ_of_le fits
      · rw [children_plain_text]
    · intro expanded expands fits
      cases expands with
      | whole e other => exact absurd other whole
      | children e nodes' others _ listed' expandsAll =>
          rw [listed] at listed'
          cases listed'
          rw [children_height e others bodied] at fits
          obtain ⟨later, inside⟩ := writes others expandsAll (Nat.le_of_lt_succ fits)
          refine ⟨later, (Run.map_gives _ _ _ _ _).mpr ⟨_, inside, ?_⟩⟩
          rw [children_plain_text]

theorem node_substitutes (timeless : registry.Timeless) (literals : registry.GivesLiterals)
    (room : Nat) : Substitutes registry limit room (Render.node registry limit room) := by
  induction room with
  | zero =>
      intro node _ past
      constructor
      · intro s later ran
        cases ran
      · intro expanded _ fits
        cases fits
  | succ room ih =>
      intro node given past
      constructor
      · intro s later ran
        obtain ⟨resolved, between, found, written⟩ := (Run.bind_gives _ _ _ _ _).mp ran
        obtain ⟨count, final, within, leads, plain⟩ :=
          resolved_leads registry limit timeless literals limit node given resolved past between found
        have ends := resolved_final final resolved plain
        have finalGiven := leads_literal registry literals count node final leads given
        have placed (expanded : Node) (expands : Expands registry limit final expanded) :
            Expands registry limit node expanded :=
          (expands_final registry limit node expanded).mpr
            ⟨count, final, within, leads, ends, expands⟩
        cases final with
        | text t =>
            cases plain
            cases written
            exact ⟨_, placed _ (.text s), Nat.succ_pos room, rfl⟩
        | element e =>
            cases plain
            obtain ⟨expanded, expands, fits, same⟩ :=
              (element_substitutes registry limit room _ ih e finalGiven between).1 s later written
            exact ⟨expanded, placed _ expands, fits, same⟩
        | reference r => cases plain
      · intro expanded expands fits
        obtain ⟨count, final, within, leads, ends, behind⟩ :=
          (expands_final registry limit node expanded).mp expands
        have finalGiven := leads_literal registry literals count node final leads given
        cases final with
        | text t =>
            obtain ⟨later, found⟩ := leads_resolved registry limit timeless literals count limit
              node (.text t) (.text t) past leads within given rfl
            cases behind
            exact ⟨later, (Run.bind_gives _ _ _ _ _).mpr ⟨_, later, found, rfl⟩⟩
        | element e =>
            obtain ⟨between, found⟩ := leads_resolved registry limit timeless literals count limit
              node (.element e) (.element e.resolved) past leads within given rfl
            obtain ⟨later, written⟩ :=
              (element_substitutes registry limit room _ ih e finalGiven between).2 expanded behind
                fits
            exact ⟨later, (Run.bind_gives _ _ _ _ _).mpr ⟨_, between, found, written⟩⟩
        | reference r => cases ends

theorem whole_settled (e : Element Node)
    (whole : Node.bodiless e.tag ∨ e.body = none ∨ ∃ s, e.body = some (.literal (.text s))) :
    (Node.element e).settled := by
  obtain ⟨tag, attributes, body, comment⟩ := e
  simp only [Node.settled, Bool.or_eq_true]
  refine whole.imp id ?_
  rintro (rfl | ⟨s, rfl⟩) <;> rfl

theorem element_literal_body (e : Element Node) (body : Option (Value (Body Node)))
    (given : (Node.element e).literal) (literal : Node.literalBody body) :
    (Node.element { e with body := body }).literal := by
  obtain ⟨tag, mapping, _, comment⟩ := element_literal_fields e given
  simp [Node.literal, tag, mapping, literal, comment]

theorem expansion_forms (literals : registry.GivesLiterals) (node expanded : Node)
    (expands : Expands registry limit node expanded) (given : node.literal) :
    (∃ s, expanded = .text s) ∨
      (expanded.literal ∧ expanded.settled) ∨
      ∃ (e : Element Node) (nodes others : List Node), (Node.element e).literal ∧
        Node.allLiteral nodes ∧ List.Forall₂ (Expands registry limit) nodes others ∧
        expanded = .element { e with body := some (.literal (.nodes others)) } := by
  obtain ⟨count, final, _, leads, ends, behind⟩ := (expands_final registry limit node _).mp expands
  have finalGiven := leads_literal registry literals count node final leads given
  cases behind with
  | text s => exact .inl ⟨s, rfl⟩
  | whole e whole => exact .inr (.inl ⟨finalGiven, whole_settled e whole⟩)
  | children e nodes others _ listed expandsAll =>
      obtain ⟨_, _, bodyGiven, _⟩ := element_literal_fields e finalGiven
      rw [listed] at bodyGiven
      exact .inr (.inr ⟨e, nodes, others, finalGiven, bodyGiven, expandsAll, rfl⟩)
  | reference r count final expanded within leads _ behind => cases ends

theorem childless_plain (literals : registry.GivesLiterals) (node expanded : Node)
    (expands : Expands registry limit node expanded) (given : node.literal)
    (childless : ∀ (e : Element Node) (others : List Node),
      expanded ≠ .element { e with body := some (.literal (.nodes others)) }) :
    expanded.literal ∧ expanded.settled := by
  rcases expansion_forms registry limit literals node expanded expands given with
    ⟨s, rfl⟩ | plain | ⟨e, nodes, others, _, _, _, same⟩
  · exact ⟨rfl, rfl⟩
  · exact plain
  · exact absurd same (childless e others)

-- What is left of the references in an expansion is never rendered. The recursion is over the
-- expansion, for a reference is no larger than what it expands to.
mutual
theorem expands_plain (literals : registry.GivesLiterals) : (expanded node : Node) →
    Expands registry limit node expanded → node.literal → expanded.literal ∧ expanded.settled
  | .element ⟨tag, attributes, some (.literal (.nodes others)), comment⟩, node, expands, given => by
      rcases expansion_forms registry limit literals node _ expands given with
        ⟨s, same⟩ | plain | ⟨e, nodes, others', eGiven, nodesGiven, expandsAll, same⟩
      · cases same
      · exact plain
      · obtain ⟨rfl, rfl, rfl, rfl⟩ :
            tag = e.tag ∧ attributes = e.attributes ∧ others = others' ∧ comment = e.comment := by
          simpa using same
        obtain ⟨literal, settled⟩ := expands_all_plain literals others nodes expandsAll nodesGiven
        refine ⟨element_literal_body e _ eGiven literal, ?_⟩
        simp only [Node.settled, Bool.or_eq_true]
        exact .inr settled
  | .element ⟨_, _, some (.literal (.text _)), _⟩, node, expands, given =>
      childless_plain registry limit literals node _ expands given (by simp)
  | .element ⟨_, _, some (.deferred _), _⟩, node, expands, given =>
      childless_plain registry limit literals node _ expands given (by simp)
  | .element ⟨_, _, none, _⟩, node, expands, given =>
      childless_plain registry limit literals node _ expands given (by simp)
  | .text _, node, expands, given =>
      childless_plain registry limit literals node _ expands given (by simp)
  | .reference _, node, expands, given =>
      childless_plain registry limit literals node _ expands given (by simp)
theorem expands_all_plain (literals : registry.GivesLiterals) : (others nodes : List Node) →
    List.Forall₂ (Expands registry limit) nodes others → Node.allLiteral nodes →
      Node.allLiteral others ∧ Node.allSettled others
  | [], _, _, _ => ⟨rfl, rfl⟩
  | expanded :: others, node :: nodes, expands, given => by
      obtain ⟨first, behind⟩ := List.forall₂_cons.mp expands
      obtain ⟨nodeGiven, restGiven⟩ := (all_literal_cons node nodes).mp given
      obtain ⟨literal, settled⟩ := expands_plain literals expanded node first nodeGiven
      obtain ⟨allLiteral, allSettled⟩ := expands_all_plain literals others nodes behind restGiven
      exact ⟨by simp [Node.allLiteral, literal, allLiteral],
        by simp [Node.allSettled, settled, allSettled]⟩
end

end Substitution

theorem render_substitutes_references (registry : Registry) (limit : Nat) (node : Node)
    (timeless : registry.Timeless) (literals : registry.GivesLiterals) (given : node.literal) :
    (∀ past s, ((node.render registry limit).account past).outcome = .ok s ↔
      ∃ expanded, Expands registry limit node expanded ∧
        ((expanded.render .empty limit).account past).outcome = .ok s) ∧
    (∀ expanded, Expands registry limit node expanded → ∀ other past,
      (expanded.render other limit).account past =
        ⟨((expanded.render .empty limit).account []).outcome, past, []⟩) := by
  have rendered (expanded : Node) (expands : Expands registry limit node expanded)
      (other : Registry) (past : Trace) : (expanded.render other limit).account past =
        ⟨if expanded.height ≤ limit then .ok expanded.plainText else .error (.tooDeep limit), past,
          []⟩ := by
    obtain ⟨literal, settled⟩ := expands_plain registry limit literals expanded node expands given
    rw [render_settled other limit expanded literal settled]
    by_cases fits : expanded.height ≤ limit
    · rw [if_pos fits, if_pos fits, Run.pure_account]
    · rw [if_neg fits, if_neg fits, Run.throw_account]
  constructor
  · intro past s
    obtain ⟨reads, writes⟩ :=
      node_substitutes registry limit timeless literals (limit + 1) node given past
    constructor
    · intro ended
      obtain ⟨expanded, expands, fits, rfl⟩ := reads s _ (Prod.ext ended rfl)
      refine ⟨expanded, expands, ?_⟩
      rw [rendered expanded expands, if_pos (Nat.le_of_lt_succ fits)]
    · rintro ⟨expanded, expands, ended⟩
      rw [rendered expanded expands] at ended
      by_cases fits : expanded.height ≤ limit
      · rw [if_pos fits] at ended
        cases ended
        obtain ⟨later, ran⟩ := writes expanded expands (Nat.lt_succ_of_le fits)
        exact congrArg Prod.fst ran
      · rw [if_neg fits] at ended
        cases ended
  · intro expanded expands other past
    rw [rendered expanded expands other past, rendered expanded expands .empty []]

def headingOf (parts : List Node) : Node :=
  .element ⟨some (.literal "H1"), none, some (.literal (.nodes parts)), none⟩

def headingEntries : List (String × Template) :=
  [("title", fun _ params => .ok (.reference ⟨"heading", params⟩)),
    ("heading", fun _ params =>
      match params with
      | .string s => .ok (headingOf [.text s, .reference ⟨"missing", .null⟩])
      | _ => .error (.failure "no heading")),
    ("endless", fun _ params => .ok (.reference ⟨"endless", params⟩))]

def headingTemplates : Registry :=
  Registry.ofList headingEntries

-- The line break drops a reference that leads nowhere.
def endlessBreak : Node :=
  .element
    ⟨some (.literal "br"), none, some (.literal (.nodes [.reference ⟨"endless", .null⟩])), none⟩

def pageOf (parts : List Node) : Node :=
  .element ⟨none, none, some (.literal (.nodes parts)), none⟩

def titledPage : Node :=
  pageOf [.reference ⟨"title", .string "a"⟩, endlessBreak]

def expandedPage : Node :=
  pageOf [headingOf [.text "a", .text ""], endlessBreak]

theorem titled_page_expands : Expands headingTemplates 2 titledPage expandedPage := by
  have missing : Expands headingTemplates 2 (.reference ⟨"missing", .null⟩) (.text "") :=
    .reference _ 1 _ _ (by decide) (.lookup 0 _ .empty _ rfl (.here _)) rfl (.text "")
  have heading : Expands headingTemplates 2
      (headingOf [.text "a", .reference ⟨"missing", .null⟩]) (headingOf [.text "a", .text ""]) :=
    .children _ _ _ (by decide +kernel) rfl (.cons (.text "a") (.cons missing .nil))
  have title : Expands headingTemplates 2 (.reference ⟨"title", .string "a"⟩)
      (headingOf [.text "a", .text ""]) :=
    .reference _ 2 _ _ (by decide)
      (.lookup 1 _ (.reference ⟨"heading", .string "a"⟩) _ rfl (.lookup 0 _ _ _ rfl (.here _))) rfl
      heading
  have dropped : Expands headingTemplates 2 endlessBreak endlessBreak :=
    .whole _ (.inl (by decide +kernel))
  exact .children _ _ _ (by decide) rfl (.cons title (.cons dropped .nil))

theorem titled_page_substituted :
    headingTemplates.Timeless ∧ headingTemplates.GivesLiterals ∧ titledPage.literal ∧
      Expands headingTemplates 2 titledPage expandedPage ∧
      ((titledPage.render headingTemplates 2).account []).outcome = .ok "<h1>a</h1><br/>" ∧
      (expandedPage.render headingTemplates 2).account [] = ⟨.ok "<h1>a</h1><br/>", [], []⟩ := by
  have listed : headingTemplates.templates = headingEntries := rfl
  have timeless : headingTemplates.Timeless := by
    simp [Registry.Timeless, listed, headingEntries]
  have literals : headingTemplates.GivesLiterals := by
    rw [Registry.GivesLiterals, listed]
    simp only [headingEntries, List.forall_mem_cons]
    refine ⟨?_, ?_, ?_, by simp⟩
    · intro past params node gives
      cases gives
      rfl
    · intro past params node gives
      cases params <;> cases gives
      rfl
    · intro past params node gives
      cases gives
      rfl
  have written : ((expandedPage.render .empty 2).account []).outcome = .ok "<h1>a</h1><br/>" :=
    rfl
  obtain ⟨texts, same⟩ :=
    render_substitutes_references headingTemplates 2 titledPage timeless literals rfl
  refine ⟨timeless, literals, rfl, titled_page_expands, ?_, ?_⟩
  · exact (texts [] _).mpr ⟨expandedPage, titled_page_expands, written⟩
  · rw [same expandedPage titled_page_expands, written]

end HtmlTemplate
