import HtmlTemplate.Node.Builder
import HtmlTemplate.Proofs.CallSequence
import HtmlTemplate.Proofs.Literal
import HtmlTemplate.Proofs.LowerCase
import HtmlTemplate.Proofs.Run

/-!
Tags in lower case. Only a tag with an upper case letter is lowered, so one with titlecase letters
and no upper case letter is written as it stands. Every other tag is written in its lower case, and
the doctype and the end tag always go by the lower case.
-/

set_option autoImplicit false

namespace HtmlTemplate

namespace Text

def titleOnly (s : String) : Bool :=
  s.toList.any isTitlecase && !s.toList.any isUppercase

theorem lowercase_without_uppercase (s : String) (small : s.toList.any isUppercase = false) :
    lowercase s = s ↔ s.toList.any isTitlecase = false := by
  rw [lowercase_eq_self_iff, List.any_eq_false]
  constructor
  · intro unchanging c member title
    have changing := titlecase_changes c title
    rw [unchanging c member] at changing
    cases changing
  · intro none c member
    rw [← Bool.not_eq_true]
    intro changing
    rcases changes_cases c changing with upper | title
    · exact List.any_eq_false.mp small c member upper
    · exact none c member title

theorem title_only_changes (s : String) (title : titleOnly s) : lowercase s ≠ s := by
  rw [titleOnly, Bool.and_eq_true, Bool.not_eq_true'] at title
  rw [Ne, lowercase_without_uppercase s title.2, title.1]
  exact Bool.noConfusion

-- Such a text is not of ASCII characters, nor is its lower case.
theorem title_only_outside (s t : String) (title : titleOnly s)
    (small : t.toList.all (·.toNat < 128)) : s ≠ t ∧ lowercase s ≠ t := by
  simp only [List.all_eq_true, decide_eq_true_eq] at small
  rw [titleOnly, Bool.and_eq_true, List.any_eq_true] at title
  obtain ⟨⟨c, member, letter⟩, _⟩ := title
  obtain ⟨outside, other, d, becomes, beyond⟩ := titlecase_outside c letter
  have lowered : d ∈ (lowercase s).toList := by
    rw [lowercase, String.toList_ofList]
    exact lowercase_char_mem [] s.toList c d member other becomes
  constructor
  · rintro rfl
    exact absurd (small c member) (Nat.not_lt_of_le outside)
  · rintro rfl
    exact absurd (small d lowered) (Nat.not_lt_of_le beyond)

end Text

open Text (titleOnly lowercase)

def tagAsWritten (tag : String) : String :=
  if titleOnly tag then tag else lowercase tag

theorem tag_as_written_lower (tag : String) :
    tagAsWritten tag = lowercase tag ↔ titleOnly tag = false := by
  rw [tagAsWritten]
  cases title : titleOnly tag with
  | false => simp
  | true => simpa using (Text.title_only_changes tag title).symm

theorem normalize_tag_as_written (tag : String) (named : tag ≠ "") :
    normalizeTag tag = some (tagAsWritten tag) := by
  rw [normalizeTag, if_neg named, tagAsWritten]
  cases upper : tag.toList.any Text.isUppercase with
  | true => simp [titleOnly, upper]
  | false =>
      have plain := Text.lowercase_without_uppercase tag upper
      cases title : tag.toList.any Text.isTitlecase with
      | true => simp [titleOnly, upper, title]
      | false => simp [titleOnly, title, plain.mpr title]

theorem normalize_tag_lowercase (tag : String) (settled : titleOnly tag = false) :
    normalizeTag (lowercase tag) = normalizeTag tag := by
  by_cases named : tag = ""
  · subst named
    rfl
  · have low : tagAsWritten (lowercase tag) = lowercase tag := by
      rw [tagAsWritten, Text.lowercase_lowercase, ite_self]
    rw [normalize_tag_as_written tag named, (tag_as_written_lower tag).mpr settled,
      normalize_tag_as_written _ (Text.lowercase_nonempty tag named), low]

theorem normalize_tag_again (tag : String) (named : tag ≠ "") :
    normalizeTag (tagAsWritten tag) = some (tagAsWritten tag) := by
  cases title : titleOnly tag with
  | true =>
      have kept : tagAsWritten tag = tag := if_pos title
      rw [kept, normalize_tag_as_written tag named, kept]
  | false =>
      have low := (tag_as_written_lower tag).mpr title
      rw [low, normalize_tag_lowercase tag title, normalize_tag_as_written tag named, low]

-- An element that is written with one tag, while another one decides how.
def Render.elementAs (child : Node → Run String) (deciding written : String)
    (e : ResolvedElement) : Run String :=
  let opening := (if deciding = "html" then doctype else "") ++ commentText e.comment ++ "<" ++
    written ++ attributesText e.attributes
  if isSelfClosing deciding then return opening ++ "/>"
  else do
    let content ← body child e.body
    return opening ++ ">" ++ content ++ closingText written

theorem title_only_decides (tag : String) (title : titleOnly tag) :
    (tag = "html" ↔ lowercase tag = "html") ∧
      Render.isSelfClosing tag = Render.isSelfClosing (lowercase tag) := by
  have small : ∀ other ∈ "html" :: Render.selfClosingTags, other.toList.all (·.toNat < 128) := by
    decide +kernel
  have apart (other : String) (member : other ∈ "html" :: Render.selfClosingTags) :=
    Text.title_only_outside tag other title (small other member)
  constructor
  · have page := apart "html" List.mem_cons_self
    exact iff_of_false page.1 page.2
  · have standing : tag ∉ Render.selfClosingTags := fun member =>
      (apart tag (List.mem_cons_of_mem _ member)).1 rfl
    have lowered : lowercase tag ∉ Render.selfClosingTags := fun member =>
      (apart (lowercase tag) (List.mem_cons_of_mem _ member)).2 rfl
    simp [Render.isSelfClosing, standing, lowered]

theorem element_normalized (child : Node → Run String) (tag : String) (named : tag ≠ "")
    (e : ResolvedElement) :
    Render.element child { e with tag := normalizeTag tag } =
      Render.elementAs child (lowercase tag) (tagAsWritten tag) e := by
  rw [normalize_tag_as_written tag named, tagAsWritten]
  cases title : titleOnly tag with
  | false => rfl
  | true =>
      obtain ⟨page, single⟩ := title_only_decides tag title
      simp [Render.element, Render.elementAs, Render.openingText, page, single]

def Value.map {α β : Type} (f : α → β) : Value α → Value β
  | .literal a => .literal (f a)
  | .deferred d => .deferred (d.map f)

def Element.resolveTagged (e : Element Node) (tag : Option String) : Run ResolvedElement := do
  let body ← forceField .empty e.body
  let mapping ← forceField .empty e.attributes
  let attributes ← mapping.force
  let comment ←
    match e.comment with
    | none => pure none
    | some value => some <$> value.force
  return ⟨tag, attributes, body, comment⟩

def Element.retagged (e : Element Node) (f : String → String) : Element Node :=
  { e with tag := e.tag.map (Value.map f) }

theorem resolve_tagged (e : Element Node) :
    e.resolve = forceField "" e.tag >>= fun tag => e.resolveTagged (normalizeTag tag) := rfl

theorem force_retagged (field : Option (Value String)) (f : String → String) (past : Trace)
    (same : normalizeTag (f (fieldGives past "" field)) = normalizeTag (fieldGives past "" field))
    (next : Option String → Run ResolvedElement) :
    (forceField "" (field.map (Value.map f)) >>= fun tag => next (normalizeTag tag)).run.run past =
      (forceField "" field >>= fun tag => next (normalizeTag tag)).run.run past := by
  match field with
  | none => rfl
  | some (.literal tag) => exact congrArg (fun tag => (next tag).run.run past) same
  | some (.deferred d) =>
      have forced (d : Deferred String) : forceField "" (some (.deferred d)) = d.run := rfl
      rw [Option.map_some, Value.map, forced, forced, Run.bind_on, Run.bind_on, Run.deferred_on,
        Run.deferred_on]
      cases made : d.outcome past with
      | ok tag =>
          rw [fieldGives, made] at same
          simp [Deferred.map, made, Except.map, same]
      | error e => simp [Deferred.map, made, Except.map]

theorem render_retagged (registry : Registry) (limit : Nat) (e : Element Node)
    (f : String → String) (past : Trace)
    (same : normalizeTag (f (fieldGives past "" e.tag)) = normalizeTag (fieldGives past "" e.tag)) :
    ((Node.element (e.retagged f)).render registry limit).account past =
      ((Node.element e).render registry limit).account past := by
  have rendered (e : Element Node) : (Node.element e).render registry limit =
      e.resolve >>= Render.element (Render.node registry limit limit) := by
    simp only [Node.render, Render.node, Node.resolve, resolve_within_element, map_eq_pure_bind,
      bind_assoc, pure_bind]
  have resolved : (e.retagged f).resolve.run.run past = e.resolve.run.run past := by
    rw [resolve_tagged, resolve_tagged]
    exact force_retagged e.tag f past same e.resolveTagged
  refine Run.account_congr _ _ past ?_
  rw [rendered, rendered, Run.bind_on, Run.bind_on, resolved]

theorem tags_written_in_lower_case (tag : String) (named : tag ≠ "") :
    normalizeTag tag = some (tagAsWritten tag) ∧
      (tagAsWritten tag = lowercase tag ↔ titleOnly tag = false) ∧
      normalizeTag (tagAsWritten tag) = some (tagAsWritten tag) ∧
      (∀ child e, Render.element child { e with tag := normalizeTag tag } =
        Render.elementAs child (lowercase tag) (tagAsWritten tag) e) ∧
      ∀ f : String → String, lowercase (f tag) = lowercase tag → titleOnly tag = false →
        titleOnly (f tag) = false →
          ∀ registry limit (e : Element Node) past, fieldGives past "" e.tag = tag →
            ((Node.element (e.retagged f)).render registry limit).account past =
              ((Node.element e).render registry limit).account past := by
  refine ⟨normalize_tag_as_written tag named, tag_as_written_lower tag,
    normalize_tag_again tag named, fun child e => element_normalized child tag named e, ?_⟩
  intro f same settled other registry limit e past given
  refine render_retagged registry limit e f past ?_
  rw [given, ← normalize_tag_lowercase (f tag) other, same, normalize_tag_lowercase tag settled]

-- A titlecase letter beside capitals, of which the last is a final sigma.
theorem capital_tag_lowered :
    normalizeTag "\u01c5B\u03a3" = some "\u01c6b\u03c2" ∧
      normalizeTag "\u01c6b\u03c2" = some "\u01c6b\u03c2" ∧
      ∀ registry limit past (label : Option String),
        let lower : Deferred String := .fixed label (.ok "\u01c6b\u03c2")
        let mixed : Deferred String := .fixed label (.ok "\u01c5B\u03a3")
        ((Node.element ⟨some (.deferred lower), none, none, none⟩).render registry limit).account
            past =
          ((Node.element ⟨some (.deferred mixed), none, none, none⟩).render registry limit).account
            past := by
  obtain ⟨normal, _, again, _, retagged⟩ :=
    tags_written_in_lower_case "\u01c5B\u03a3" (by decide)
  have settled : titleOnly "\u01c5B\u03a3" = false ∧ titleOnly "\u01c6b\u03c2" = false := by
    decide +kernel
  have low : lowercase "\u01c5B\u03a3" = "\u01c6b\u03c2" := by decide +kernel
  have lower : lowercase "\u01c6b\u03c2" = "\u01c6b\u03c2" := by decide +kernel
  have written : tagAsWritten "\u01c5B\u03a3" = "\u01c6b\u03c2" :=
    ((tag_as_written_lower _).mpr settled.1).trans low
  rw [written] at normal again
  refine ⟨normal, again, fun registry limit past label => ?_⟩
  exact retagged (fun _ => "\u01c6b\u03c2") (lower.trans low.symm) settled.1 settled.2 registry
    limit ⟨some (.deferred (.fixed label (.ok "\u01c5B\u03a3"))), none, none, none⟩ past rfl

theorem titlecase_tag_kept :
    lowercase "\u01c5" = "\u01c6" ∧ lowercase "\u01c6" = "\u01c6" ∧
      normalizeTag "\u01c5" = some "\u01c5" ∧
      (((Node.element (.ofTag "\u01c5")).render .empty Render.defaultLimit).account []).outcome =
        .ok "<\u01c5></\u01c5>" ∧
      (((Node.element (.ofTag "\u01c6")).render .empty Render.defaultLimit).account []).outcome =
        .ok "<\u01c6></\u01c6>" ∧
      ¬ ∀ tag, tag ≠ "" → normalizeTag tag = some (lowercase tag) := by
  have low : lowercase "\u01c5" = "\u01c6" := by decide +kernel
  have kept : normalizeTag "\u01c5" = some "\u01c5" := by decide +kernel
  refine ⟨low, by decide +kernel, kept, ?_, ?_, fun lowered => ?_⟩
  · rfl
  · rfl
  · have same := (lowered "\u01c5" (by decide)).symm.trans kept
    rw [low] at same
    exact absurd same (by decide)

end HtmlTemplate
