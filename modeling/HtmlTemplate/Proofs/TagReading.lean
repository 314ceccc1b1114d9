import HtmlTemplate.Proofs.ContentReading
import HtmlTemplate.Render

set_option autoImplicit false

namespace HtmlTemplate.Markup

theorem settle_tag (sink : Sink) (tag : Tag) : (settle sink tag).2 = tag.settled.1 := rfl

theorem settle_found (sink : Sink) (tag : Tag) : (settle sink tag).1.found = sink.found := by
  unfold settle
  dsimp only
  split <;> rfl

theorem settled_closing (tag : Tag) : tag.settled.1.closing = tag.closing := by
  unfold Tag.settled
  split <;> rfl

theorem finish_start_tag (sink : Sink) (tag : Tag) (name : String)
    (attributes : List (String × String)) (selfClosing : Bool)
    (settled : tag.settled.1 = ⟨false, name, attributes, none⟩) :
    (finishTag sink tag selfClosing).reading =
      ⟨stateAfter name, 0, sink.found.take (.startTag name attributes selfClosing)⟩ := by
  have opening : tag.closing = false := by rw [← settled_closing, settled]
  have emitted := Sink.found_emit (settle sink tag).1 (.startTag name attributes selfClosing) rfl
  rw [settle_found] at emitted
  simp only [finishTag, opening, settle_tag, settled]
  simp [Sink.found_last_start, emitted, Found.take]

theorem finish_end_tag (sink : Sink) (tag : Tag) (name : String)
    (settled : tag.settled.1 = ⟨true, name, [], none⟩) :
    (finishTag sink tag false).reading = ⟨.data, 0, sink.found.take (.endTag name)⟩ := by
  have ending : tag.closing = true := by rw [← settled_closing, settled]
  have emitted := Sink.found_emit (settle sink tag).1 (.endTag name) rfl
  rw [settle_found] at emitted
  simp only [finishTag, ending, settle_tag, settled]
  simp [Sink.found_last_start, emitted, Found.take]

theorem insert_last (key value : String) (attributes : List (String × String))
    (behind : ∀ pair ∈ attributes, pair.1 < key) :
    Tag.insert key value attributes = attributes ++ [(key, value)] := by
  induction attributes with
  | nil => rfl
  | cons pair rest ih =>
      obtain ⟨before, held⟩ := pair
      have less : before < key := behind (before, held) (List.mem_cons_self ..)
      have different : before ≠ key := by
        rintro rfl
        exact String.lt_irrefl _ less
      have others := ih fun pair member => behind pair (List.mem_cons_of_mem _ member)
      simp [Tag.insert, String.lt_asymm less, different.symm, others]

namespace Reads

theorem tag_name (start : State) (found : Found) (tag : Tag) (name : String) (word : isWord [] name)
    (nameless : tag.name = "")
    (enters : ∀ (sink : Sink) (c : Char) (rest : List Char), c.isLower →
      start.step sink c rest = Tag.onName sink tag c) :
    Reads ⟨start, 0, found⟩ name.toList ⟨.tag .name { tag with name := name }, 0, found⟩ := by
  obtain ⟨first, rest, chars, small, others⟩ := word_chars [] name word
  refine gather_behind _ (fun name => ⟨.tag .name { tag with name := name }, 0, found⟩) name first
    rest chars ?_ ?_
  · have letter := small_letter_word first small
    have plain := word_char_plain first letter
    refine char first plain.2.1 fun sink rest held => ?_
    rw [enters sink first rest small]
    simp [Tag.onName, Tag.pushName, plain, word_char_lower first letter, nameless, held]
  · intro text c member
    have letter := word_char_further c (others c member)
    have plain := word_char_plain c letter
    refine char c plain.2.1 fun sink rest held => ?_
    simp [State.step, Tag.step, Tag.onName, Tag.pushName, plain, word_char_lower c letter, held]

theorem start_tag_name (found : Found) (name : String) (word : isWord [] name) :
    Reads ⟨.data, 0, found⟩ ('<' :: name.toList)
      ⟨.tag .name { Tag.opening with name := name }, 0, found⟩ := by
  refine cons (tag_open found) (tag_name .tagOpen found .opening name word rfl ?_)
  intro sink c rest small
  have plain := word_char_plain c (small_letter_word c small)
  have alpha := small_letter_alpha c small
  have bang : c ≠ '!' := word_char_ne c '!' (small_letter_word c small) (by decide)
  simp [State.step, Content.onTagOpen, plain, alpha, bang]

theorem attribute_name (found : Found) (tag : Tag) (key : String) (word : isWord ['-'] key) :
    Reads ⟨.tag .beforeAttribute tag, 0, found⟩ key.toList
      ⟨.tag .attributeName { tag.settled.1 with latest := some (key, "") }, 0, found⟩ := by
  obtain ⟨first, rest, chars, small, others⟩ := word_chars ['-'] key word
  refine gather_behind _ (fun text => ⟨.tag .attributeName
    { tag.settled.1 with latest := some (text, "") }, 0, found⟩) key first rest chars ?_ ?_
  · have letter := small_letter_word first small
    have plain := word_char_plain first letter
    refine char first plain.2.1 fun sink rest held => ?_
    simp [State.step, Tag.step, Tag.onBeforeAttribute, Tag.onFreshName, Tag.onAttributeName,
      Tag.pushKey, plain, word_char_lower first letter, settle_tag, settle_found, held]
  · intro text c member
    have plain := word_char_plain c (others c member)
    refine char c plain.2.1 fun sink rest held => ?_
    simp [State.step, Tag.step, Tag.onAttributeName, Tag.pushKey, plain,
      word_char_lower c (others c member), held]

theorem attribute_value (found : Found) (tag : Tag) (key value : String)
    (latest : tag.latest = some (key, "")) (plain : lacks value ['"', '&', '\r', '\x00']) :
    Reads ⟨.tag .attributeName tag, 0, found⟩ ('=' :: '"' :: (value.toList ++ ['"']))
      ⟨.tag .afterQuotedValue { tag with latest := some (key, value) }, 0, found⟩ := by
  have equals : Reads ⟨.tag .attributeName tag, 0, found⟩ ['='] ⟨.tag .beforeValue tag, 0, found⟩ :=
    char '=' (by decide) fun sink rest held => by
      simp [State.step, Tag.step, Tag.onAttributeName, isSpace, held]
  have quote : Reads ⟨.tag .beforeValue tag, 0, found⟩ ['"']
      ⟨.tag (.quotedValue .double) tag, 0, found⟩ :=
    char '"' (by decide) fun sink rest held => by
      simp [State.step, Tag.step, Tag.onBeforeValue, isSpace, held]
  have inside := gather_text (fun text => ⟨.tag (.quotedValue .double)
      { tag with latest := some (key, text) }, 0, found⟩) value ?_ ""
  · have unquote : Reads
        ⟨.tag (.quotedValue .double) { tag with latest := some (key, value) }, 0, found⟩ ['"']
        ⟨.tag .afterQuotedValue { tag with latest := some (key, value) }, 0, found⟩ :=
      char '"' (by decide) fun sink rest held => by
        simp [State.step, Tag.step, Tag.onQuotedValue, Quotation.mark, held]
    rw [String.empty_append, ← latest] at inside
    exact cons equals (cons quote (append inside unquote))
  · intro text c member
    have outside := lacks_char value _ plain c member
    simp only [List.mem_cons, List.not_mem_nil, or_false, not_or] at outside
    exact char c outside.2.2.1 fun sink rest held => by
      simp [State.step, Tag.step, Tag.onQuotedValue, Quotation.mark, Tag.pushValue, outside, held]

-- Behind a quoted value what can end a name counts as it does behind the name of the tag.
theorem behind_step (state : TagState) (sink : Sink) (tag : Tag) (c : Char)
    (behind : state = .name ∨ state = .afterQuotedValue)
    (ends : isSpace c ∨ c = '/' ∨ c = '>') : Tag.step state sink tag c = Tag.onName sink tag c := by
  rcases behind with rfl | rfl
  · rfl
  · rcases ends with space | rfl | rfl
    · simp [Tag.step, Tag.onAfterQuotedValue, Tag.onName, space]
    · simp [Tag.step, Tag.onAfterQuotedValue, Tag.onName]
    · simp [Tag.step, Tag.onAfterQuotedValue, Tag.onName]

theorem quoted_attribute (state : TagState) (found : Found) (tag : Tag) (key value : String)
    (behind : state = .name ∨ state = .afterQuotedValue) (word : isWord ['-'] key)
    (plain : lacks value ['"', '&', '\r', '\x00']) :
    Reads ⟨.tag state tag, 0, found⟩ (" " ++ key ++ "=\"" ++ value ++ "\"").toList
      ⟨.tag .afterQuotedValue { tag.settled.1 with latest := some (key, value) }, 0, found⟩ := by
  have space : Reads ⟨.tag state tag, 0, found⟩ [' '] ⟨.tag .beforeAttribute tag, 0, found⟩ := by
    refine char ' ' (by decide) fun sink rest held => ?_
    rw [State.step, behind_step state sink tag ' ' behind (.inl (by decide))]
    simp [Tag.onName, isSpace, held]
  have named := attribute_name found tag key word
  have valued := attribute_value found { tag.settled.1 with latest := some (key, "") } key value
    rfl plain
  have split : (" " ++ key ++ "=\"" ++ value ++ "\"").toList =
      ' ' :: (key.toList ++ '=' :: '"' :: (value.toList ++ ['"'])) := by
    simp [String.toList_append]
  rw [split]
  exact cons space (append named valued)

theorem start_tag_close (state : TagState) (found : Found) (tag : Tag) (name : String)
    (attributes : List (String × String)) (selfClosing : Bool)
    (behind : state = .name ∨ state = .afterQuotedValue)
    (settled : tag.settled.1 = ⟨false, name, attributes, none⟩) :
    Reads ⟨.tag state tag, 0, found⟩ (if selfClosing then "/>" else ">").toList
      ⟨stateAfter name, 0, found.take (.startTag name attributes selfClosing)⟩ := by
  cases selfClosing with
  | false =>
      refine char '>' (by decide) fun sink rest held => ?_
      rw [← held, ← finish_start_tag sink tag name attributes false settled, State.step,
        behind_step state sink tag '>' behind (.inr (.inr rfl))]
      simp [Tag.onName, isSpace]
  | true =>
      have solidus : Reads ⟨.tag state tag, 0, found⟩ ['/'] ⟨.tag .selfClosing tag, 0, found⟩ := by
        refine char '/' (by decide) fun sink rest held => ?_
        rw [State.step, behind_step state sink tag '/' behind (.inr (.inl rfl))]
        simp [Tag.onName, isSpace, held]
      refine cons solidus (char '>' (by decide) fun sink rest held => ?_)
      rw [← held, ← finish_start_tag sink tag name attributes true settled]
      simp [State.step, Tag.step, Tag.onSelfClosing]

-- By induction on the attributes that are still to come. Those before them are in the tag, but for
-- the last one, which the tag keeps apart until the next one begins.
theorem start_tag_attributes (found : Found) (name : String) (selfClosing : Bool)
    (attributes done : List (String × String)) (state : TagState) (tag : Tag)
    (behind : state = .name ∨ state = .afterQuotedValue)
    (settled : tag.settled.1 = ⟨false, name, done, none⟩)
    (sorted : ((done ++ attributes).map Prod.fst).Pairwise (· < ·))
    (plain : ∀ pair ∈ attributes,
      isWord ['-'] pair.1 ∧ lacks pair.2 ['"', '&', '\r', '\x00']) :
    Reads ⟨.tag state tag, 0, found⟩
      (Render.attributesText attributes ++ if selfClosing then "/>" else ">").toList
      ⟨stateAfter name, 0, found.take (.startTag name (done ++ attributes) selfClosing)⟩ := by
  induction attributes generalizing done state tag with
  | nil =>
      rw [Render.attributesText, String.empty_append, List.append_nil]
      exact start_tag_close state found tag name done selfClosing behind settled
  | cons pair rest ih =>
      obtain ⟨key, value⟩ := pair
      obtain ⟨word, quoted⟩ := plain (key, value) (List.mem_cons_self ..)
      have first := quoted_attribute state found tag key value behind word quoted
      have last : ∀ pair ∈ done, pair.1 < key := by
        intro pair member
        rw [List.map_append, List.map_cons, List.pairwise_append] at sorted
        exact sorted.2.2 pair.1 (List.mem_map_of_mem member) key (List.mem_cons_self ..)
      have next : (Tag.settled ⟨false, name, done, some (key, value)⟩).1 =
          ⟨false, name, done ++ [(key, value)], none⟩ := by
        simp [Tag.settled, insert_last key value done last]
      have others := ih (done ++ [(key, value)]) .afterQuotedValue
        ⟨false, name, done, some (key, value)⟩ (.inr rfl) next (by simpa using sorted)
        fun pair member => plain pair (List.mem_cons_of_mem _ member)
      rw [List.append_assoc, List.singleton_append] at others
      rw [settled] at first
      rw [Render.attributesText, String.append_assoc, String.toList_append]
      exact append first others

theorem start_tag (found : Found) (name : String) (attributes : List (String × String))
    (selfClosing : Bool) (word : isWord [] name)
    (sorted : (attributes.map Prod.fst).Pairwise (· < ·))
    (plain : ∀ pair ∈ attributes,
      isWord ['-'] pair.1 ∧ lacks pair.2 ['"', '&', '\r', '\x00']) :
    Reads ⟨.data, 0, found⟩
      ("<" ++ name ++ Render.attributesText attributes ++ if selfClosing then "/>" else ">").toList
      ⟨stateAfter name, 0, found.take (.startTag name attributes selfClosing)⟩ := by
  have named := start_tag_name found name word
  have others := start_tag_attributes found name selfClosing attributes [] .name
    { Tag.opening with name := name } (.inl rfl) rfl sorted plain
  rw [String.append_assoc, String.toList_append, String.toList_append]
  exact append named others

theorem end_tag (found : Found) (name : String) (word : isWord [] name) :
    Reads ⟨.data, 0, found⟩ ("</" ++ name ++ ">").toList
      ⟨.data, 0, found.take (.endTag name)⟩ := by
  have slash : Reads ⟨.tagOpen, 0, found⟩ ['/'] ⟨.endTagOpen, 0, found⟩ :=
    char '/' (by decide) fun sink rest held => by simp [State.step, Content.onTagOpen, held]
  have named := tag_name .endTagOpen found .ending name word rfl ?_
  · have closed : Reads ⟨.tag .name { Tag.ending with name := name }, 0, found⟩ ['>']
        ⟨.data, 0, found.take (.endTag name)⟩ := by
      refine char '>' (by decide) fun sink rest held => ?_
      rw [← held, ← finish_end_tag sink { Tag.ending with name := name } name rfl]
      simp [State.step, Tag.step, Tag.onName, isSpace]
    rw [String.toList_append, String.toList_append]
    exact cons (tag_open found) (cons slash (append named closed))
  · intro sink c rest small
    simp [State.step, Content.onEndTagOpen, small_letter_alpha c small]

theorem lower_letters (word : String) (small : word.toList.all (·.isLower)) :
    String.ofList (word.toList.map lower) = word := by
  have kept : word.toList.map lower = word.toList := by
    refine (List.map_congr_left fun c member => ?_).trans (List.map_id _)
    exact word_char_lower c (small_letter_word c (List.all_eq_true.mp small c member))
  rw [kept, String.ofList_toList]

theorem raw_end_name (r : Raw) (found : Found) (name : String) (named : name ≠ "")
    (small : name.toList.all (·.isLower)) :
    Reads ⟨.rawEndOpen r, 0, found⟩ name.toList ⟨.rawEndName r name, 0, found⟩ := by
  have letter (c : Char) (member : c ∈ name.toList) : c.isAlpha ∧ c ≠ '\r' := by
    have low := List.all_eq_true.mp small c member
    exact ⟨small_letter_alpha c low, (word_char_plain c (small_letter_word c low)).2.1⟩
  obtain ⟨first, rest, chars⟩ :=
    List.exists_cons_of_ne_nil fun none => named (String.toList_eq_nil_iff.mp none)
  refine gather_behind _ (fun letters => ⟨.rawEndName r letters, 0, found⟩) name first rest chars
    ?_ ?_
  · obtain ⟨alpha, unbroken⟩ := letter first (by simp [chars])
    refine char first unbroken fun sink rest held => ?_
    simp [State.step, Content.onRawEndOpen, Content.onRawEndName, alpha, held]
  · intro text c member
    obtain ⟨alpha, unbroken⟩ := letter c (by simp [chars, member])
    refine char c unbroken fun sink rest held => ?_
    simp [State.step, Content.onRawEndName, alpha, held]

theorem raw_end_tag (r : Raw) (found : Found) (name : String) (named : name ≠ "")
    (small : name.toList.all (·.isLower)) (last : found.lastStart = name) :
    Reads ⟨.raw r, 0, found⟩ ("</" ++ name ++ ">").toList
      ⟨.data, 0, found.take (.endTag name)⟩ := by
  have less : Reads ⟨.raw r, 0, found⟩ ['<'] ⟨.rawLess r, 0, found⟩ :=
    char '<' (by decide) fun sink rest held => by simp [State.step, Content.onRaw, held]
  have slash : Reads ⟨.rawLess r, 0, found⟩ ['/'] ⟨.rawEndOpen r, 0, found⟩ :=
    char '/' (by decide) fun sink rest held => by simp [State.step, Content.onRawLess, held]
  have letters := raw_end_name r found name named small
  have closed : Reads ⟨.rawEndName r name, 0, found⟩ ['>']
      ⟨.data, 0, found.take (.endTag name)⟩ := by
    refine char '>' (by decide) fun sink rest held => ?_
    have same : name = sink.lastStart := by
      rw [← last, ← held]
      rfl
    rw [← held, ← finish_end_tag sink { Tag.ending with name := name } name rfl]
    simp [State.step, Content.onRawEndName, Tag.onName, isSpace, lower_letters name small, ← same]
  rw [String.toList_append, String.toList_append]
  exact cons less (cons slash (append letters closed))

end Reads

end HtmlTemplate.Markup
