import HtmlTemplate.Proofs.Reading

set_option autoImplicit false

namespace HtmlTemplate.Markup

def lacks (s : String) (chars : List Char) : Bool :=
  s.toList.all (!chars.contains ·)

def isWordChar (further : List Char) (c : Char) : Bool :=
  c.isLower || c.isDigit || further.contains c

def isWord (further : List Char) (word : String) : Bool :=
  match word.toList with
  | [] => false
  | first :: rest => first.isLower && rest.all (isWordChar further)

theorem lacks_char (s : String) (chars : List Char) (missing : lacks s chars) (c : Char)
    (member : c ∈ s.toList) : c ∉ chars := by
  have each := List.all_eq_true.mp missing c member
  simpa using each

theorem word_char_range (c : Char) (word : isWordChar ['-'] c) :
    97 ≤ c.toNat ∧ c.toNat ≤ 122 ∨ 48 ≤ c.toNat ∧ c.toNat ≤ 57 ∨ c.toNat = 45 := by
  have lowered : c.isLower = (decide (c.val ≥ 97) && decide (c.val ≤ 122)) := rfl
  simp only [isWordChar, lowered, Char.isDigit, Bool.or_eq_true, Bool.and_eq_true,
    decide_eq_true_eq, UInt32.le_iff_toNat_le, ge_iff_le, List.contains_iff_mem,
    List.mem_singleton] at word
  rcases word with (letter | digit) | rfl
  · exact .inl letter
  · exact .inr (.inl digit)
  · exact .inr (.inr rfl)

theorem word_char_lower (c : Char) (word : isWordChar ['-'] c) : lower c = c := by
  have range := word_char_range c word
  refine dif_neg fun upper => ?_
  simp only [UInt32.le_iff_toNat_le, ge_iff_le] at upper
  have bounds : 65 ≤ c.toNat ∧ c.toNat ≤ 90 := upper
  omega

theorem word_char_ne (c other : Char) (word : isWordChar ['-'] c)
    (outside : isWordChar ['-'] other = false) : c ≠ other := by
  rintro rfl
  rw [word] at outside
  cases outside

theorem word_char_plain (c : Char) (word : isWordChar ['-'] c) :
    isSpace c = false ∧ c ≠ '\r' ∧ c ≠ '\x00' ∧ c ≠ '/' ∧ c ≠ '>' ∧ c ≠ '=' ∧ c ≠ '"' ∧ c ≠ '\'' ∧
      c ≠ '<' := by
  have apart (other : Char) (outside : isWordChar ['-'] other = false) : c ≠ other :=
    word_char_ne c other word outside
  have unspaced : isSpace c = false := by
    simp [isSpace, apart ' ' (by decide), apart '\n' (by decide), apart '\t' (by decide),
      apart '\x0c' (by decide)]
  exact ⟨unspaced, apart _ (by decide), apart _ (by decide), apart _ (by decide),
    apart _ (by decide), apart _ (by decide), apart _ (by decide), apart _ (by decide),
    apart _ (by decide)⟩

theorem word_char_further (c : Char) (word : isWordChar [] c) : isWordChar ['-'] c := by
  simp only [isWordChar, List.contains_nil, Bool.or_false] at word
  simp [isWordChar, word]

theorem small_letter_word (c : Char) (small : c.isLower) : isWordChar ['-'] c := by
  simp [isWordChar, small]

theorem small_letter_alpha (c : Char) (small : c.isLower) : c.isAlpha := by
  have either : c.isAlpha = (c.isUpper || c.isLower) := rfl
  rw [either, small, Bool.or_true]

theorem word_chars (further : List Char) (word : String) (fits : isWord further word) :
    ∃ first rest, word.toList = first :: rest ∧ first.isLower ∧
      ∀ c ∈ rest, isWordChar further c := by
  unfold isWord at fits
  split at fits
  · cases fits
  · rename_i first rest chars
    rw [Bool.and_eq_true, List.all_eq_true] at fits
    exact ⟨first, rest, chars, fits⟩

namespace Reads

theorem gather (place : String → Reading) (chars : List Char)
    (each : ∀ text, ∀ c ∈ chars, Reads (place text) [c] (place (text.push c))) (text : String) :
    Reads (place text) chars (place (text ++ String.ofList chars)) := by
  induction chars generalizing text with
  | nil => simpa using nil (place text)
  | cons c chars ih =>
      have first := each text c (List.mem_cons_self ..)
      have others := ih (fun text c member => each text c (List.mem_cons_of_mem _ member))
        (text.push c)
      have joined : text.push c ++ String.ofList chars = text ++ String.ofList (c :: chars) := by
        rw [← String.append_singleton, String.append_assoc, String.ofList_cons]
      rw [joined] at others
      exact cons first others

theorem gather_text (place : String → Reading) (s : String)
    (each : ∀ text, ∀ c ∈ s.toList, Reads (place text) [c] (place (text.push c))) (text : String) :
    Reads (place text) s.toList (place (text ++ s)) := by
  simpa using gather place s.toList each text

theorem gather_behind (start : Reading) (place : String → Reading) (s : String) (first : Char)
    (rest : List Char) (chars : s.toList = first :: rest)
    (begins : Reads start [first] (place (String.singleton first)))
    (each : ∀ text, ∀ c ∈ rest, Reads (place text) [c] (place (text.push c))) :
    Reads start s.toList (place s) := by
  have goes := gather place rest each (String.singleton first)
  have whole : String.singleton first ++ String.ofList rest = s := by
    rw [← String.ofList_cons, ← chars, String.ofList_toList]
  rw [whole] at goes
  rw [chars]
  exact cons begins goes

theorem kept (state : State) (found : Found) (s : String) (plain : lacks s ['<', '&', '\r', '\x00'])
    (each : ∀ (sink : Sink) (c : Char) (rest : List Char), c ∉ ['<', '&', '\r', '\x00'] →
      state.step sink c rest = .go state (sink.put c)) :
    Reads ⟨state, 0, found⟩ s.toList ⟨state, 0, found.write s⟩ := by
  refine gather_text (fun text => ⟨state, 0, { found with text := text }⟩) s ?_ found.text
  intro text c member
  have outside := lacks_char s _ plain c member
  refine char c (fun broken => outside (by simp [broken])) ?_
  intro sink rest held
  rw [each sink c rest outside]
  simp [Sink.found_put, held, Found.write, ← String.append_singleton]

theorem data_text (found : Found) (s : String) (plain : lacks s ['<', '&', '\r', '\x00']) :
    Reads ⟨.data, 0, found⟩ s.toList ⟨.data, 0, found.write s⟩ := by
  refine kept .data found s plain ?_
  intro sink c rest outside
  simp only [List.mem_cons, List.not_mem_nil, or_false, not_or] at outside
  simp [State.step, Content.onData, outside]

theorem raw_text (r : Raw) (found : Found) (s : String) (plain : lacks s ['<', '&', '\r', '\x00'])
    (unescaped : r ≠ .escapedScript) :
    Reads ⟨.raw r, 0, found⟩ s.toList ⟨.raw r, 0, found.write s⟩ := by
  refine kept (.raw r) found s plain ?_
  intro sink c rest outside
  simp only [List.mem_cons, List.not_mem_nil, or_false, not_or] at outside
  simp [State.step, Content.onRaw, Content.keep, outside, unescaped]

theorem tag_open (found : Found) : Reads ⟨.data, 0, found⟩ ['<'] ⟨.tagOpen, 0, found⟩ :=
  char '<' (by decide) fun sink rest held => by simp [State.step, Content.onData, held]

theorem declaration_open (found : Found) :
    Reads ⟨.data, 0, found⟩ ['<', '!'] ⟨.declarationOpen, 0, found⟩ := by
  refine cons (tag_open found) (char '!' (by decide) fun sink rest held => ?_)
  simp [State.step, Content.onTagOpen, held]

theorem comment_open (found : Found) :
    Reads ⟨.data, 0, found⟩ ['<', '!', '-', '-'] ⟨.comment .start "", 0, found⟩ := by
  refine append (declaration_open found) (ahead ['-'] (by decide) fun sink rest held => ?_)
  simp [State.step, Content.onDeclarationOpen, Scan.reading, held]

theorem comment_ending (found : Found) (text : String) :
    Reads ⟨.comment .ending text, 0, found⟩ ['>'] ⟨.data, 0, found.emit (.comment text)⟩ :=
  char '>' (by decide) fun sink rest held => by
    simp [State.step, Comment.step, Comment.onEnding, Comment.finish,
      Sink.found_emit sink (.comment text) rfl, held]

theorem comment_close (found : Found) (text : String) :
    Reads ⟨.comment .inside text, 0, found⟩ ['-', '-', '>']
      ⟨.data, 0, found.emit (.comment text)⟩ := by
  have dash : Reads ⟨.comment .inside text, 0, found⟩ ['-'] ⟨.comment .endDash text, 0, found⟩ :=
    char '-' (by decide) fun sink rest held => by
      simp [State.step, Comment.step, Comment.onInside, held]
  have ending : Reads ⟨.comment .endDash text, 0, found⟩ ['-'] ⟨.comment .ending text, 0, found⟩ :=
    char '-' (by decide) fun sink rest held => by
      simp [State.step, Comment.step, Comment.onEndDash, held]
  exact cons dash (cons ending (comment_ending found text))

-- The place behind the opening differs from that inside only if a dash or an angle follows.
theorem comment_text (found : Found) (s : String) (first : Char) (rest : List Char)
    (chars : s.toList = first :: rest) (plain : lacks s ['-', '<', '>', '\r', '\x00']) :
    Reads ⟨.comment .start "", 0, found⟩ s.toList ⟨.comment .inside s, 0, found⟩ := by
  have each := lacks_char s _ plain
  simp only [List.mem_cons, List.not_mem_nil, or_false, not_or] at each
  refine gather_behind _ (fun text => ⟨.comment .inside text, 0, found⟩) s first rest chars ?_ ?_
  · have outside := each first (by simp [chars])
    refine char first outside.2.2.2.1 fun sink rest held => ?_
    simp [State.step, Comment.step, Comment.onStart, Comment.onInside, outside, held]
  · intro text c member
    have outside := each c (by simp [chars, member])
    refine char c outside.2.2.2.1 fun sink rest held => ?_
    simp [State.step, Comment.step, Comment.onInside, outside, held]

theorem comment_empty (found : Found) :
    Reads ⟨.comment .start "", 0, found⟩ ['-', '-', '>'] ⟨.data, 0, found.emit (.comment "")⟩ := by
  have dash : Reads ⟨.comment .start "", 0, found⟩ ['-'] ⟨.comment .startDash "", 0, found⟩ :=
    char '-' (by decide) fun sink rest held => by
      simp [State.step, Comment.step, Comment.onStart, held]
  have ending : Reads ⟨.comment .startDash "", 0, found⟩ ['-'] ⟨.comment .ending "", 0, found⟩ :=
    char '-' (by decide) fun sink rest held => by
      simp [State.step, Comment.step, Comment.onStartDash, held]
  exact cons dash (cons ending (comment_ending found ""))

theorem comment (found : Found) (s : String) (plain : lacks s ['-', '<', '>', '\r', '\x00']) :
    Reads ⟨.data, 0, found⟩ ("<!--" ++ s ++ "-->").toList
      ⟨.data, 0, found.emit (.comment s)⟩ := by
  have inner : Reads ⟨.comment .start "", 0, found⟩ (s.toList ++ ['-', '-', '>'])
      ⟨.data, 0, found.emit (.comment s)⟩ := by
    cases chars : s.toList with
    | nil =>
        have empty : s = "" := String.toList_eq_nil_iff.mp chars
        rw [empty]
        exact comment_empty found
    | cons first rest =>
        rw [← chars]
        exact append (comment_text found s first rest chars plain) (comment_close found s)
  have split : ("<!--" ++ s ++ "-->").toList =
      ['<', '!', '-', '-'] ++ (s.toList ++ ['-', '-', '>']) := by
    simp [String.toList_append]
  rw [split]
  exact append (comment_open found) inner

theorem doctype_keyword (found : Found) :
    Reads ⟨.declarationOpen, 0, found⟩ ['D', 'O', 'C', 'T', 'Y', 'P', 'E']
      ⟨.doctype .start "", 0, found⟩ := by
  refine ahead ['O', 'C', 'T', 'Y', 'P', 'E'] (by decide) fun sink rest held => ?_
  have keyword : Doctype.beginsWith ('D' :: 'O' :: 'C' :: 'T' :: 'Y' :: 'P' :: 'E' :: rest)
      "doctype" := by
    have length : "doctype".length = 7 := rfl
    simp [Doctype.beginsWith, length, lower]
  simp [State.step, Content.onDeclarationOpen, keyword, Scan.reading, held]

theorem doctype_name (found : Found) (name word : String) (small : word.toList.all (·.isLower)) :
    Reads ⟨.doctype .name name, 0, found⟩ word.toList
      ⟨.doctype .name (name ++ word), 0, found⟩ := by
  refine gather_text (fun name => ⟨.doctype .name name, 0, found⟩) word ?_ name
  intro name c member
  have letter := small_letter_word c (List.all_eq_true.mp small c member)
  have plain := word_char_plain c letter
  refine char c plain.2.1 fun sink rest held => ?_
  simp [State.step, Doctype.step, Doctype.onName, plain, word_char_lower c letter, held]

theorem doctype (found : Found) :
    Reads ⟨.data, 0, found⟩ "<!DOCTYPE html>".toList ⟨.data, 0, found.emit (.doctype "html")⟩ := by
  have space : Reads ⟨.doctype .start "", 0, found⟩ [' '] ⟨.doctype .beforeName "", 0, found⟩ :=
    char ' ' (by decide) fun sink rest held => by
      simp [State.step, Doctype.step, Doctype.onStart, isSpace, held]
  have first : Reads ⟨.doctype .beforeName "", 0, found⟩ ['h'] ⟨.doctype .name "h", 0, found⟩ :=
    char 'h' (by decide) fun sink rest held => by
      simp [State.step, Doctype.step, Doctype.onBeforeName, Doctype.onName, isSpace, lower, held]
  have others := doctype_name found "h" "tml" (by decide)
  have closed : Reads ⟨.doctype .name "html", 0, found⟩ ['>']
      ⟨.data, 0, found.emit (.doctype "html")⟩ :=
    char '>' (by decide) fun sink rest held => by
      simp [State.step, Doctype.step, Doctype.onName, Doctype.finish, isSpace,
        Sink.found_emit sink (.doctype "html") rfl, held]
  exact append (declaration_open found)
    (append (doctype_keyword found) (cons space (cons first (append others closed))))

end Reads

end HtmlTemplate.Markup
