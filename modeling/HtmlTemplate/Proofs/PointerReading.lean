import HtmlTemplate.Entries
import HtmlTemplate.Error
import HtmlTemplate.Json.Pointer

/-!
Pointers read from their text and followed into a value. A text gives back the keys of which it was
made, whatever characters are in them.
-/

set_option autoImplicit false

namespace HtmlTemplate

namespace Pointer

def unescape : List Char → List Char
  | '~' :: '1' :: rest => '/' :: unescape rest
  | '~' :: '0' :: rest => '~' :: unescape rest
  | c :: rest => c :: unescape rest
  | [] => []

-- The keys in the text of a pointer: what stands behind each slash.
def keysOf (text : String) : List String :=
  (text.toList.splitOn '/').tail.map fun part => String.ofList (unescape part)

-- The keys in a path as messages name it, where a slash alone stands for the whole value.
def keysOfPath (path : String) : List String :=
  if path = "/" then [] else keysOf path

-- Every tilde is the start of an escape.
def escaped : List Char → Bool
  | '~' :: '1' :: rest => escaped rest
  | '~' :: '0' :: rest => escaped rest
  | '~' :: _ => false
  | _ :: rest => escaped rest
  | [] => true

-- A text is the pointer that leads along some keys.
structure Spells (path : String) (keys : List String) : Prop where
  led : path = "" ∨ ∃ rest, path.toList = '/' :: rest
  escaped : escaped path.toList
  reads : keysOf path = keys

def decimal (n : Nat) : String :=
  String.ofList (Nat.toDigits 10 n)

theorem escape_unchanged (c : Char) (tilde : c ≠ '~') (slash : c ≠ '/') : escape c = [c] := by
  rw [escape, if_neg tilde, if_neg slash]

theorem unescape_unchanged (c : Char) (rest : List Char) (plain : c ≠ '~') :
    unescape (c :: rest) = c :: unescape rest := by
  rw [unescape.eq_3] <;> simp [plain]

theorem escape_slashless (c : Char) : '/' ∉ escape c := by
  by_cases tilde : c = '~'
  · simp [escape, tilde]
  · by_cases slash : c = '/'
    · simp [escape, slash]
    · simp [escape, tilde, slash, Ne.symm slash]

theorem unescape_escape (key : List Char) : unescape (key.flatMap escape) = key := by
  induction key with
  | nil => rfl
  | cons c rest ih =>
      rw [List.flatMap_cons]
      by_cases tilde : c = '~'
      · subst tilde
        exact congrArg ('~' :: ·) ih
      · by_cases slash : c = '/'
        · subst slash
          exact congrArg ('/' :: ·) ih
        · rw [escape_unchanged c tilde slash, List.singleton_append, unescape_unchanged c _ tilde,
            ih]

theorem text_cons (key : String) (keys : List String) :
    (text (key :: keys)).toList = '/' :: (key.toList.flatMap escape ++ (text keys).toList) := by
  simp [text, keyText]

-- What stands before the first slash is general here, so that a key is a case of it.
theorem split_text (keys : List String) (ahead : List Char) (slashless : '/' ∉ ahead) :
    (ahead ++ (text keys).toList).splitOn '/' =
      ahead :: keys.map fun key => key.toList.flatMap escape := by
  induction keys generalizing ahead with
  | nil =>
      rw [text, List.map_nil, String.join_nil, String.toList_empty, List.append_nil]
      exact List.splitOn_eq_singleton slashless
  | cons key keys ih =>
      have escaped : '/' ∉ key.toList.flatMap escape := by
        simp [List.mem_flatMap, escape_slashless]
      rw [text_cons, List.splitOn_append_cons_self_of_not_mem slashless, ih _ escaped,
        List.map_cons]

theorem keys_of_text (keys : List String) : keysOf (text keys) = keys := by
  have split := split_text keys [] List.not_mem_nil
  rw [List.nil_append] at split
  have same (key : String) : String.ofList (unescape (key.toList.flatMap escape)) = key := by
    rw [unescape_escape, String.ofList_toList]
  simp [keysOf, split, Function.comp_def, same]

theorem text_injective (keys others : List String) (same : text keys = text others) :
    keys = others := by
  rw [← keys_of_text keys, same, keys_of_text]

theorem index_key_decimal (n : Nat) : indexKey n = decimal n :=
  Nat.toString_eq_ofList_toDigits

theorem decimal_injective (m n : Nat) (same : decimal m = decimal n) : m = n := by
  have digits : Nat.toDigits 10 m = Nat.toDigits 10 n := String.ofList_inj.mp same
  rw [← Nat.ofDigitChars_ten_toDigits (n := m), digits, Nat.ofDigitChars_ten_toDigits]

theorem escaped_plain (c : Char) (rest : List Char) (plain : c ≠ '~') :
    escaped (c :: rest) = escaped rest := by
  rw [escaped.eq_4] <;> simp [plain]

theorem escaped_escape (key rest : List Char) :
    escaped (key.flatMap escape ++ rest) = escaped rest := by
  induction key with
  | nil => rfl
  | cons c key ih =>
      rw [List.flatMap_cons, List.append_assoc]
      by_cases tilde : c = '~'
      · subst tilde
        exact ih
      · by_cases slash : c = '/'
        · subst slash
          exact ih
        · rw [escape_unchanged c tilde slash, List.singleton_append, escaped_plain c _ tilde, ih]

theorem escaped_text (keys : List String) : escaped (text keys).toList := by
  induction keys with
  | nil => rfl
  | cons key keys ih =>
      rw [text_cons, escaped_plain _ _ (by decide), escaped_escape]
      exact ih

theorem split_ahead (ahead rest first : List Char) (others : List (List Char))
    (slashless : '/' ∉ ahead) (split : rest.splitOn '/' = first :: others) :
    (ahead ++ rest).splitOn '/' = (ahead ++ first) :: others := by
  induction ahead with
  | nil => exact split
  | cons c ahead ih =>
      obtain ⟨apart, further⟩ := List.ne_and_not_mem_of_not_mem_cons slashless
      rw [List.cons_append, List.splitOn_cons_eq_if_modifyHead, ih further]
      simp [Ne.symm apart]

-- What is escaped as it stands, and is no slash, goes with the first part of what follows.
theorem escape_parts_ahead (ahead rest : List Char) (slashless : '/' ∉ ahead)
    (kept : ∀ part,
      (unescape (ahead ++ part)).flatMap escape = ahead ++ (unescape part).flatMap escape)
    (parts : (rest.splitOn '/').map (fun part => (unescape part).flatMap escape) =
      rest.splitOn '/') :
    ((ahead ++ rest).splitOn '/').map (fun part => (unescape part).flatMap escape) =
      (ahead ++ rest).splitOn '/' := by
  obtain ⟨first, others, split⟩ := List.exists_cons_of_ne_nil (List.splitOn_ne_nil '/' rest)
  rw [split, List.map_cons, List.cons.injEq] at parts
  obtain ⟨same, behind⟩ := parts
  rw [split_ahead ahead rest first others slashless split, List.map_cons, kept, same, behind]

-- No escape is torn apart where a text is split at its slashes.
theorem escape_parts (cs : List Char) (proper : escaped cs) :
    (cs.splitOn '/').map (fun part => (unescape part).flatMap escape) = cs.splitOn '/' := by
  fun_induction escaped cs with
  | case1 rest ih => exact escape_parts_ahead ['~', '1'] rest (by decide) (fun _ => rfl) (ih proper)
  | case2 rest ih => exact escape_parts_ahead ['~', '0'] rest (by decide) (fun _ => rfl) (ih proper)
  | case3 rest => cases proper
  | case4 c rest _ _ tilde ih =>
      by_cases slash : c = '/'
      · rw [slash, List.splitOn_cons_eq_if_modifyHead, if_pos (beq_self_eq_true '/'),
          List.map_cons, ih proper]
        rfl
      · refine escape_parts_ahead [c] rest (by simp [Ne.symm slash]) (fun part => ?_) (ih proper)
        rw [List.singleton_append, unescape_unchanged c part tilde, List.flatMap_cons,
          escape_unchanged c tilde slash]
  | case5 => rfl

theorem text_of_parts (first : List Char) (others : List (List Char)) :
    (text ((first :: others).map fun part => String.ofList (unescape part))).toList =
      '/' :: List.intercalate ['/']
        ((first :: others).map fun part => (unescape part).flatMap escape) := by
  induction others generalizing first with
  | nil =>
      rw [List.map_singleton, text_cons, String.toList_ofList]
      simp [text]
  | cons second others ih =>
      rw [List.map_cons, text_cons, ih second]
      simp [List.intercalate_cons_cons]

theorem spells_iff (path : String) (keys : List String) : Spells path keys ↔ path = text keys := by
  constructor
  · intro ⟨led, proper, reads⟩
    rcases led with rfl | ⟨rest, slash⟩
    · rw [← reads]
      rfl
    · rw [slash, escaped_plain _ _ (by decide)] at proper
      obtain ⟨first, others, split⟩ := List.exists_cons_of_ne_nil (List.splitOn_ne_nil '/' rest)
      have parts := escape_parts rest proper
      rw [keysOf, slash, List.splitOn_cons_eq_if_modifyHead, if_pos (beq_self_eq_true '/'),
        List.tail_cons, split] at reads
      rw [split] at parts
      rw [← String.toList_inj, slash, ← reads, text_of_parts, parts, ← split,
        List.intercalate_splitOn]
  · rintro rfl
    refine ⟨?_, escaped_text keys, keys_of_text keys⟩
    cases keys with
    | nil => exact .inl rfl
    | cons key keys => exact .inr ⟨_, text_cons key keys⟩

theorem keys_of_path_text (keys : List String) (named : keys ≠ [""]) :
    keysOfPath (Error.pathText (text keys)) = keys := by
  by_cases whole : keys = []
  · rw [whole]
    rfl
  · have inhabited : text keys ≠ "" := fun empty => whole (text_injective keys [] empty)
    have told : text keys ≠ "/" := fun slash => named (text_injective keys [""] slash)
    rw [Error.pathText, if_neg inhabited, keysOfPath, if_neg told, keys_of_text]

end Pointer

namespace Json

def keyed (i : Nat) : List Json → List (String × Json)
  | [] => []
  | item :: rest => (Pointer.decimal i, item) :: keyed (i + 1) rest

def parts : Json → List (String × Json)
  | .array items => keyed 0 items
  | .object fields => fields
  | _ => []

def at? (value : Json) : List String → Option Json
  | [] => some value
  | key :: keys => (Entries.get? value.parts key).bind (at? · keys)

theorem get_keyed (items : List Json) (i position : Nat) :
    Entries.get? (keyed i items) (Pointer.decimal (i + position)) = items[position]? := by
  induction items generalizing i position with
  | nil => rfl
  | cons item rest ih =>
      rw [keyed, Entries.get?]
      cases position with
      | zero => simp
      | succ position =>
          have apart : Pointer.decimal i ≠ Pointer.decimal (i + (position + 1)) := by
            intro same
            have equal := Pointer.decimal_injective i _ same
            omega
          rw [if_neg apart, List.getElem?_cons_succ, ← ih (i + 1) position, Nat.add_right_comm,
            Nat.add_assoc]

end Json

end HtmlTemplate
