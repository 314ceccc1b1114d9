import HtmlTemplate.Proofs.Serialization
import HtmlTemplate.Proofs.TagReading

set_option autoImplicit false

namespace HtmlTemplate.Dom

open Markup (Token State Found Reads isWord lacks stateAfter)

def textElements : List String :=
  ["title", "textarea", "style", "script", "xmp", "iframe", "noembed", "noframes", "noscript"]

-- The tokenizer has one more: it knows frames without content by a name of its own.
def rawElements : List String :=
  "noframe" :: textElements

def isText : Dom → Bool
  | .text _ => true
  | _ => false

def beginsWithText : List Dom → Bool
  | node :: _ => isText node
  | [] => false

def textOnly : List Dom → Bool
  | [] => true
  | [node] => isText node
  | _ => false

def safeAttributes (attributes : List (String × String)) : Bool :=
  (attributes.all fun pair => isWord ['-'] pair.1 && lacks pair.2 ['"', '&', '\r', '\x00']) &&
    decide ((attributes.map Prod.fst).Pairwise (· < ·))

mutual
-- Trees without doctypes in which every text, comment, name and value is written as it is meant,
-- given the elements that may only have one text in them.
def safe (raw : List String) : Dom → Bool
  | .text s => s ≠ "" && lacks s ['<', '&', '\r', '\x00']
  | .comment s => lacks s ['-', '<', '>', '\r', '\x00']
  | .doctype _ => false
  | .element name attributes children =>
    isWord [] name && name ≠ "plaintext" && safeAttributes attributes &&
      (!isVoid name || children.isEmpty) && (!raw.contains name || textOnly children) &&
      safeAll raw children
def safeAll (raw : List String) : List Dom → Bool
  | [] => true
  | node :: rest => safe raw node && !(isText node && beginsWithText rest) && safeAll raw rest
end

mutual
def tokens : Dom → List Token
  | .text s => [.text s]
  | .comment s => [.comment s]
  | .doctype _ => []
  | .element name attributes children =>
    (if name = "html" then [.doctype "html"] else []) ++
      if Render.isSelfClosing name then [.startTag name attributes true]
      else .startTag name attributes false :: (tokensOf children ++ [.endTag name])
def tokensOf : List Dom → List Token
  | [] => []
  | node :: rest => tokens node ++ tokensOf rest
end

structure SafeElement (raw : List String) (name : String) (attributes : List (String × String))
    (children : List Dom) : Prop where
  word : isWord [] name
  bounded : name ≠ "plaintext"
  attributesSafe : safeAttributes attributes
  void : isVoid name → children = []
  textual : name ∈ raw → textOnly children
  childrenSafe : safeAll raw children

theorem safe_element (raw : List String) (name : String) (attributes : List (String × String))
    (children : List Dom) (fits : safe raw (.element name attributes children)) :
    SafeElement raw name attributes children := by
  simp only [safe, Bool.and_eq_true, Bool.or_eq_true, Bool.not_eq_true', decide_eq_true_eq,
    List.isEmpty_iff, List.contains_eq_mem, decide_eq_false_iff_not] at fits
  obtain ⟨⟨⟨⟨⟨word, bounded⟩, attributesSafe⟩, void⟩, textual⟩, childrenSafe⟩ := fits
  refine ⟨word, bounded, attributesSafe, fun held => ?_, fun held => ?_, childrenSafe⟩
  · rcases void with other | empty
    · rw [held] at other
      cases other
    · exact empty
  · exact textual.resolve_left (fun apart => apart held)

theorem safe_element_holds (raw : List String) (name : String)
    (attributes : List (String × String)) (children : List Dom)
    (fits : SafeElement raw name attributes children) :
    safe raw (.element name attributes children) := by
  simp only [safe, Bool.and_eq_true, Bool.or_eq_true, Bool.not_eq_true', decide_eq_true_eq,
    List.isEmpty_iff, List.contains_eq_mem, decide_eq_false_iff_not]
  refine ⟨⟨⟨⟨⟨fits.word, fits.bounded⟩, fits.attributesSafe⟩, ?_⟩, ?_⟩, fits.childrenSafe⟩
  · cases void : isVoid name with
    | true => exact .inr (fits.void void)
    | false => exact .inl rfl
  · by_cases listed : name ∈ raw
    · exact .inr (fits.textual listed)
    · exact .inl listed

theorem safe_cons (raw : List String) (node : Dom) (rest : List Dom)
    (fits : safeAll raw (node :: rest)) :
    safe raw node ∧ (beginsWithText rest → node.isText = false) ∧ safeAll raw rest := by
  simp only [safeAll, Bool.and_eq_true, Bool.not_eq_true', Bool.and_eq_false_iff] at fits
  refine ⟨fits.1.1, fun text => ?_, fits.2⟩
  rcases fits.1.2 with other | untexted
  · exact other
  · rw [text] at untexted
    cases untexted

theorem safe_attributes (attributes : List (String × String)) (fits : safeAttributes attributes) :
    (attributes.map Prod.fst).Pairwise (· < ·) ∧
      ∀ pair ∈ attributes, isWord ['-'] pair.1 ∧ lacks pair.2 ['"', '&', '\r', '\x00'] := by
  simp only [safeAttributes, Bool.and_eq_true, decide_eq_true_eq, List.all_eq_true] at fits
  exact ⟨fits.2, fits.1⟩

theorem safe_attributes_placed (attributes : List (String × String))
    (fits : safeAttributes attributes) : Entries.firstPlaceLastValue attributes = attributes := by
  refine Entries.first_place_last_value_distinct attributes ?_
  refine (safe_attributes attributes fits).1.imp fun less same => ?_
  subst same
  exact String.lt_irrefl _ less

-- All upper case letters but the first run of them are outside of ASCII.
theorem word_char_uppercase (c : Char) (word : Markup.isWordChar ['-'] c) :
    Text.isUppercase c = false := by
  have spans : ∀ span ∈ Text.uppercaseSpans,
      span.first = 65 ∧ span.last = 90 ∨ 123 ≤ span.first := by decide +kernel
  have range := Markup.word_char_range c word
  rw [Text.isUppercase, Text.inSpans, List.any_eq_false]
  intro span member
  simp only [Text.Span.holds, Bool.and_eq_true, decide_eq_true_eq]
  have places := spans span member
  omega

theorem written_tag_word (name : String) (word : isWord [] name) : writtenTag name = name := by
  obtain ⟨first, rest, chars, small, others⟩ := Markup.word_chars [] name word
  have letter := Markup.small_letter_word first small
  have lowered : name.toList.any Text.isUppercase = false := by
    rw [List.any_eq_false]
    intro c member
    rw [chars, List.mem_cons] at member
    rcases member with rfl | later
    · simp [word_char_uppercase _ letter]
    · simp [word_char_uppercase c (Markup.word_char_further c (others c later))]
  unfold writtenTag normalizeTag
  by_cases empty : name = ""
  · simp [empty]
  · simp [empty, lowered]

theorem word_named (name : String) (word : isWord [] name) : name ≠ "" := by
  rintro rfl
  cases word

theorem serialize_safe_element (name : String) (attributes : List (String × String))
    (children : List Dom) (word : isWord [] name) (fits : safeAttributes attributes) :
    serialize (.element name attributes children) =
      (if name = "html" then "<!DOCTYPE html>" else "") ++
        (("<" ++ name ++ Render.attributesText attributes ++
          if Render.isSelfClosing name then "/>" else ">") ++
        if Render.isSelfClosing name then ""
        else serializeAll children ++ ("</" ++ name ++ ">")) := by
  rw [serialize, if_neg (word_named name word), written_tag_word name word,
    safe_attributes_placed attributes fits, ← attributes_text_markup]
  by_cases single : Render.isSelfClosing name
  · simp [single, String.append_assoc]
  · simp only [single, Bool.false_eq_true, if_false, String.append_assoc]

theorem state_after (name : String) (bounded : name ≠ "plaintext") :
    stateAfter name = .data ∨
      ∃ r, stateAfter name = .raw r ∧ r ≠ .escapedScript ∧ name ∈ rawElements ∧
        name.toList.all (·.isLower) := by
  unfold stateAfter
  split
  · rename_i named
    simp only [Bool.or_eq_true, decide_eq_true_eq] at named
    rcases named with rfl | rfl
    · exact .inr ⟨.rcdata, rfl, by decide, by decide, by decide⟩
    · exact .inr ⟨.rcdata, rfl, by decide, by decide, by decide⟩
  · split
    · rename_i named
      subst named
      exact .inr ⟨.script, rfl, by decide, by decide, by decide⟩
    · split
      · rename_i member
        have listed : ∀ name ∈ ["style", "iframe", "xmp", "noembed", "noframe", "noscript"],
            name ∈ rawElements ∧ name.toList.all (·.isLower) := by decide
        obtain ⟨raw, small⟩ := listed name (List.contains_iff_mem.mp member)
        exact .inr ⟨.rawtext, rfl, by decide, raw, small⟩
      · exact .inl rfl

theorem self_closing_state (name : String) (single : Render.isSelfClosing name) :
    stateAfter name = .data := by
  have listed : ∀ name ∈ Render.selfClosingTags, name ≠ "plaintext" ∧ name ∉ rawElements := by
    decide
  obtain ⟨bounded, marked⟩ := listed name (List.contains_iff_mem.mp single)
  rcases state_after name bounded with data | ⟨r, _, _, raw, _⟩
  · exact data
  · exact absurd raw marked

theorem text_only_forms (children : List Dom) (fits : textOnly children) :
    children = [] ∨ ∃ s, children = [.text s] := by
  match children with
  | [] => exact .inl rfl
  | [node] =>
      cases node with
      | text s => exact .inr ⟨s, rfl⟩
      | element name attributes children => cases fits
      | comment s => cases fits
      | doctype name => cases fits

theorem take_all_cons (found : Found) (token : Token) (others : List Token) :
    found.takeAll (token :: others) = (found.take token).takeAll others := rfl

theorem take_all_append (found : Found) (tokens others : List Token) :
    found.takeAll (tokens ++ others) = (found.takeAll tokens).takeAll others :=
  List.foldl_append

theorem html_doctype_reads (name : String) (found : Found) :
    Reads ⟨.data, 0, found⟩ (if name = "html" then "<!DOCTYPE html>" else "").toList
      ⟨.data, 0, found.takeAll (if name = "html" then [.doctype "html"] else [])⟩ := by
  split
  · exact Reads.doctype found
  · exact Reads.nil _

theorem raw_body_reads (r : Markup.Raw) (name : String) (children : List Dom) (found : Found)
    (unescaped : r ≠ .escapedScript) (named : name ≠ "") (small : name.toList.all (·.isLower))
    (last : found.lastStart = name) (textual : textOnly children)
    (fits : safeAll rawElements children) :
    Reads ⟨.raw r, 0, found⟩ (serializeAll children ++ ("</" ++ name ++ ">")).toList
      ⟨.data, 0, found.takeAll (tokensOf children ++ [.endTag name])⟩ := by
  rw [String.toList_append]
  rcases text_only_forms children textual with rfl | ⟨s, rfl⟩
  · exact Reads.raw_end_tag r found name named small last
  · simp only [safeAll, safe, Bool.and_eq_true] at fits
    have inside := Reads.raw_text r found s fits.1.1.2 unescaped
    have closed := Reads.raw_end_tag r (found.write s) name named small last
    rw [serializeAll, serialize, serializeAll, String.append_empty]
    exact Reads.append inside closed

mutual
-- Reading what a tree is written as gives its tokens, whatever was read before.
theorem serialize_reads : (node : Dom) → safe rawElements node → (found : Found) →
    Reads ⟨.data, 0, found⟩ node.serialize.toList ⟨.data, 0, found.takeAll node.tokens⟩
  | .text s, fits, found => by
      simp only [safe, Bool.and_eq_true] at fits
      exact Reads.data_text found s fits.2
  | .comment s, fits, found => Reads.comment found s fits
  | .doctype _, fits, _ => by cases fits
  | .element name attributes children, fits, found => by
      have element := safe_element rawElements name attributes children fits
      obtain ⟨sorted, plain⟩ := safe_attributes attributes element.attributesSafe
      rw [serialize_safe_element name attributes children element.word element.attributesSafe,
        tokens, String.toList_append, String.toList_append, take_all_append]
      refine Reads.append (html_doctype_reads name found) ?_
      refine Reads.append (Reads.start_tag _ name attributes (Render.isSelfClosing name)
        element.word sorted plain) ?_
      by_cases single : Render.isSelfClosing name
      · rw [self_closing_state name single, if_pos single, if_pos single, single]
        exact Reads.nil _
      · rw [Bool.not_eq_true] at single
        simp only [single, Bool.false_eq_true, if_false]
        rw [take_all_cons]
        rcases state_after name element.bounded with data | ⟨r, state, unescaped, raw, small⟩
        · rw [data]
          rw [String.toList_append, take_all_append]
          exact Reads.append (serialize_all_reads children element.childrenSafe _)
            (Reads.end_tag _ name element.word)
        · rw [state]
          exact raw_body_reads r name children _ unescaped (word_named name element.word) small rfl
            (element.textual raw) element.childrenSafe
theorem serialize_all_reads : (nodes : List Dom) → safeAll rawElements nodes → (found : Found) →
    Reads ⟨.data, 0, found⟩ (serializeAll nodes).toList ⟨.data, 0, found.takeAll (tokensOf nodes)⟩
  | [], _, found => Reads.nil _
  | node :: rest, fits, found => by
      obtain ⟨own, _, behind⟩ := safe_cons rawElements node rest fits
      have first := serialize_reads node own found
      have others := serialize_all_reads rest behind (found.takeAll node.tokens)
      rw [serializeAll, tokensOf, String.toList_append, take_all_append]
      exact Reads.append first others
end

end HtmlTemplate.Dom
