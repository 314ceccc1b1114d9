import HtmlTemplate.Markup.Tokenizer

/-!
How a tokenizer comes from one place to another, flaws set aside. A text is followed character by
character, and what holds of two texts one after the other holds of the text that they make up.
-/

set_option autoImplicit false

namespace HtmlTemplate.Markup

def Token.isFlaw : Token → Bool
  | .flaw _ => true
  | _ => false

-- What a sink holds apart from flaws; the tokens are kept the latest first.
structure Found where
  tokens : List Token
  text : String
  lastStart : String

namespace Found

def empty : Found := ⟨[], "", ""⟩

def write (found : Found) (s : String) : Found :=
  { found with text := found.text ++ s }

def all (found : Found) : List Token :=
  if found.text = "" then found.tokens else .text found.text :: found.tokens

def emit (found : Found) (token : Token) : Found :=
  { found with tokens := token :: found.all, text := "" }

-- One more token; a text is held back until another token follows it.
def take (found : Found) : Token → Found
  | .text s => found.write s
  | .startTag name attributes selfClosing =>
    { found.emit (.startTag name attributes selfClosing) with lastStart := name }
  | .endTag name => { found.emit (.endTag name) with lastStart := "" }
  | .flaw _ => found
  | token => found.emit token

def takeAll (found : Found) (tokens : List Token) : Found :=
  tokens.foldl take found

end Found

namespace Sink

def found (sink : Sink) : Found :=
  ⟨sink.tokens.filter (!·.isFlaw), sink.text, sink.lastStart⟩

@[simp]
theorem found_check (sink : Sink) (c : Char) : (sink.check c).found = sink.found := by
  unfold check
  split <;> rfl

@[simp]
theorem found_release (sink : Sink) : sink.release.found = sink.found := by
  have flaws : (sink.waiting.map Token.flaw).filter (!·.isFlaw) = [] := by
    rw [List.filter_eq_nil_iff]
    intro token member
    obtain ⟨flaw, _, rfl⟩ := List.mem_map.mp member
    simp [Token.isFlaw]
  simp [release, found, List.filter_append, flaws]

theorem found_last_start (sink : Sink) (name : String) :
    { sink with lastStart := name }.found = { sink.found with lastStart := name } := rfl

theorem found_put (sink : Sink) (c : Char) :
    (sink.put c).found = sink.found.write (String.singleton c) := by
  simp [put, found, Found.write, ← String.append_singleton]

theorem found_flush (sink : Sink) :
    sink.flush.found = { sink.found with tokens := sink.found.all, text := "" } := by
  by_cases bare : sink.text = "" <;> simp [flush, found, Found.all, bare, Token.isFlaw]

theorem found_emit (sink : Sink) (token : Token) (counts : token.isFlaw = false) :
    (sink.emit token).found = sink.found.emit token := by
  have flushed := found_flush sink
  simp only [found, Found.mk.injEq] at flushed
  simp [emit, found, Found.emit, counts, flushed]

end Sink

structure Reading where
  state : State
  skip : Nat
  found : Found

def Scan.reading (scan : Scan) : Reading :=
  ⟨scan.state, scan.skip, scan.sink.found⟩

@[simp]
theorem reading_go (state : State) (sink : Sink) :
    (Scan.go state sink).reading = ⟨state, 0, sink.found⟩ := rfl

-- Reading some characters leads from one place to another, whatever follows them. Line breaks are
-- normalized on the way, so that a text with a carriage return is not read as it stands.
def Reads (before : Reading) (chars : List Char) (after : Reading) : Prop :=
  ∀ (scan : Scan) (rest : List Char), scan.reading = before →
    ∃ later : Scan, later.reading = after ∧
      scan.run (normalizeNewlines (chars ++ rest)) = later.run (normalizeNewlines rest)

theorem normalize_newlines_cons (c : Char) (rest : List Char) (unbroken : c ≠ '\r') :
    normalizeNewlines (c :: rest) = c :: normalizeNewlines rest := by
  rw [normalizeNewlines, if_neg unbroken]
  rintro _ rfl
  exact absurd rfl unbroken

theorem normalize_newlines_append (chars rest : List Char) (unbroken : '\r' ∉ chars) :
    normalizeNewlines (chars ++ rest) = chars ++ normalizeNewlines rest := by
  induction chars with
  | nil => rfl
  | cons c chars ih =>
      simp only [List.mem_cons, not_or] at unbroken
      rw [List.cons_append, normalize_newlines_cons c _ (Ne.symm unbroken.1), ih unbroken.2,
        List.cons_append]

-- Outside of ASCII the flaw of a character is reported after the step; neither order shows here.
theorem read_reading (state : State) (sink : Sink) (c : Char) (rest : List Char) (found : Found)
    (after : Reading) (same : sink.found = found)
    (steps : ∀ sink : Sink, sink.found = found → (state.step sink c rest).reading = after) :
    (Scan.read ⟨state, 0, sink⟩ c rest).reading = after := by
  have released : sink.release.found = found := by rw [Sink.found_release, same]
  unfold Scan.read
  simp only
  split
  · refine steps _ ?_
    rw [Sink.found_check]
    exact released
  · have stepped := steps { sink.release with wide := true } released
    rw [← stepped]
    simp [Scan.reading]

namespace Reads

theorem nil (place : Reading) : Reads place [] place :=
  fun scan _ same => ⟨scan, same, rfl⟩

theorem append {first second third : Reading} {chars others : List Char}
    (begins : Reads first chars second) (goes : Reads second others third) :
    Reads first (chars ++ others) third := by
  intro scan rest same
  obtain ⟨middle, between, run⟩ := begins scan (others ++ rest) same
  obtain ⟨later, reached, continued⟩ := goes middle rest between
  exact ⟨later, reached, by rw [List.append_assoc, run, continued]⟩

theorem cons {first second third : Reading} {c : Char} {others : List Char}
    (begins : Reads first [c] second) (goes : Reads second others third) :
    Reads first (c :: others) third :=
  append begins goes

theorem skipped (state : State) (chars : List Char) (found : Found) (unbroken : '\r' ∉ chars) :
    Reads ⟨state, chars.length, found⟩ chars ⟨state, 0, found⟩ := by
  induction chars with
  | nil => exact nil _
  | cons c chars ih =>
      simp only [List.mem_cons, not_or] at unbroken
      have one : Reads ⟨state, chars.length + 1, found⟩ [c] ⟨state, chars.length, found⟩ := by
        intro scan rest same
        obtain ⟨current, skip, sink⟩ := scan
        simp only [Scan.reading, Reading.mk.injEq] at same
        obtain ⟨rfl, rfl, rfl⟩ := same
        refine ⟨⟨current, chars.length, { sink.release with wide := false }⟩, ?_, ?_⟩
        · have released := Sink.found_release sink
          exact congrArg (Reading.mk current chars.length) released
        · rw [List.singleton_append, normalize_newlines_cons c rest (Ne.symm unbroken.1)]
          rfl
      exact cons one (ih unbroken.2)

theorem ahead {state next : State} {found later : Found} {c : Char} (chars : List Char)
    (unbroken : '\r' ∉ c :: chars)
    (steps : ∀ (sink : Sink) (rest : List Char), sink.found = found →
      (state.step sink c (chars ++ rest)).reading = ⟨next, chars.length, later⟩) :
    Reads ⟨state, 0, found⟩ (c :: chars) ⟨next, 0, later⟩ := by
  have passed : '\r' ∉ chars := fun member => unbroken (List.mem_cons_of_mem c member)
  intro scan rest same
  obtain ⟨current, skip, sink⟩ := scan
  simp only [Scan.reading, Reading.mk.injEq] at same
  obtain ⟨rfl, rfl, held⟩ := same
  have whole := normalize_newlines_append (c :: chars) rest unbroken
  have between := read_reading current sink c (chars ++ normalizeNewlines rest) found _ held
    fun sink held => steps sink _ held
  obtain ⟨last, reached, run⟩ := skipped next chars later passed _ rest between
  refine ⟨last, reached, ?_⟩
  rw [whole, ← run, normalize_newlines_append chars rest passed]
  rfl

theorem char {state next : State} {found later : Found} (c : Char) (unbroken : c ≠ '\r')
    (steps : ∀ (sink : Sink) (rest : List Char), sink.found = found →
      (state.step sink c rest).reading = ⟨next, 0, later⟩) :
    Reads ⟨state, 0, found⟩ [c] ⟨next, 0, later⟩ :=
  ahead [] (by simpa using unbroken.symm) steps

theorem tokenized {text : String} {found : Found}
    (reads : Reads ⟨.data, 0, .empty⟩ text.toList ⟨.data, 0, found⟩) :
    (tokenize text).filter (!·.isFlaw) = found.all.reverse := by
  obtain ⟨later, reached, run⟩ := reads .start [] rfl
  obtain ⟨state, skip, sink⟩ := later
  simp only [Scan.reading, Reading.mk.injEq] at reached
  obtain ⟨rfl, rfl, held⟩ := reached
  have finished : Scan.start.run (normalizeNewlines text.toList) = ⟨.data, 0, sink⟩ := by
    rw [List.append_nil] at run
    exact run
  have flushed := congrArg Found.tokens (Sink.found_flush sink.release.release)
  rw [Sink.found_release, Sink.found_release, held] at flushed
  rw [tokenize, finished, Scan.tokens, List.filter_reverse]
  exact congrArg List.reverse flushed

end Reads

end HtmlTemplate.Markup
