import Mathlib.Data.List.Basic
import Mathlib.Data.List.TakeWhile
import HtmlTemplate.Files.Path

/-!
Names in directories: the path of a name leads through the parts of its directory to the name, and
the name is read back from it, with its stem and its extension.
-/

set_option autoImplicit false

namespace HtmlTemplate.Files.Path

-- What the entry of a directory can be called.
structure IsName (name : Bytes) : Prop where
  inhabited : name ≠ []
  notHere : name ≠ here
  notUp : name ≠ up
  whole : slash ∉ name

theorem is_name_iff (name : Bytes) :
    IsName name ↔ name ≠ [] ∧ name ≠ here ∧ name ≠ up ∧ slash ∉ name :=
  ⟨fun named => ⟨named.inhabited, named.notHere, named.notUp, named.whole⟩,
    fun ⟨inhabited, notHere, notUp, whole⟩ => ⟨inhabited, notHere, notUp, whole⟩⟩

instance (name : Bytes) : Decidable (IsName name) :=
  decidable_of_iff' _ (is_name_iff name)

theorem split_never_empty (path : Bytes) : split path ≠ [] := by
  cases path with
  | nil => simp [split]
  | cons byte rest =>
      rw [split]
      split
      · simp
      · split <;> simp

theorem split_slash (front back : Bytes) :
    split (front ++ slash :: back) = split front ++ split back := by
  induction front with
  | nil => simp [split]
  | cons byte rest ih =>
      rw [List.cons_append, split, split, ih]
      by_cases parting : byte = slash
      · simp [parting]
      · rw [if_neg parting, if_neg parting]
        cases first : split rest with
        | nil => exact absurd first (split_never_empty rest)
        | cons part parts => rfl

theorem split_whole (part : Bytes) (whole : slash ∉ part) : split part = [part] := by
  induction part with
  | nil => rfl
  | cons byte rest ih =>
      simp only [List.mem_cons, not_or] at whole
      rw [split, if_neg (Ne.symm whole.1), ih whole.2]

-- What stands before a name in its path: nothing, or the directory up to a slash.
def lead (directory : Bytes) : Bytes :=
  if directory = [] then []
  else if endsInSlash directory then directory
  else directory ++ [slash]

theorem lead_ends (directory : Bytes) :
    lead directory = [] ∨ ∃ front, lead directory = front ++ [slash] := by
  unfold lead
  split
  · exact .inl rfl
  · split
    · rename_i ends
      rw [endsInSlash, decide_eq_true_eq, List.getLast?_eq_some_iff] at ends
      exact .inr ends
    · exact .inr ⟨_, rfl⟩

theorem parts_lead (directory name : Bytes) (named : IsName name) :
    parts (lead directory ++ name) = parts directory ++ [name] := by
  have held := named.inhabited
  have alone := split_whole name named.whole
  have behind (front : Bytes) : parts (front ++ slash :: name) = parts front ++ [name] := by
    simp [parts, split_slash, alone, List.filter_append, held]
  unfold lead
  split
  · rename_i empty
    subst empty
    simp [parts, alone, held, split]
  · split
    · rename_i ends
      rw [endsInSlash, decide_eq_true_eq, List.getLast?_eq_some_iff] at ends
      obtain ⟨front, rfl⟩ := ends
      have dropped : parts (front ++ [slash]) = parts front := by
        simp [parts, split_slash, split]
      rw [List.append_assoc, dropped]
      exact behind front
    · rw [List.append_assoc]
      exact behind directory

theorem join_lead (directory name : Bytes) (named : IsName name) :
    join directory name = lead directory ++ name := by
  have relative : isAbsolute name = false := by
    rw [isAbsolute, decide_eq_false_iff_not]
    intro absolute
    exact named.whole (List.mem_of_mem_head? absolute)
  by_cases empty : directory = []
  · simp [join, lead, relative, empty]
  · by_cases ends : endsInSlash directory
    · simp [join, lead, relative, empty, ends]
    · simp [join, lead, relative, empty, ends]

theorem parts_join (directory name : Bytes) (named : IsName name) :
    parts (join directory name) = parts directory ++ [name] := by
  rw [join_lead directory name named, parts_lead directory name named]

theorem join_ends (directory name : Bytes) (named : IsName name) :
    endsInSlash (join directory name) = false := by
  rw [endsInSlash, decide_eq_false_iff_not, join_lead directory name named,
    List.getLast?_append_of_ne_nil _ named.inhabited]
  intro last
  exact named.whole (List.mem_of_getLast? last)

theorem join_inhabited (directory name : Bytes) (named : IsName name) :
    join directory name ≠ [] := by
  rw [join_lead directory name named]
  intro empty
  exact named.inhabited (List.append_eq_nil_iff.mp empty).2

theorem backwards_apart (text : Bytes) (mark : UInt8) (apart : mark ∉ text) :
    ∀ byte ∈ text.reverse, byte ≠ mark := by
  rintro byte member rfl
  exact apart (List.mem_reverse.mp member)

theorem drop_tail_kept (byte : UInt8) (rest : Bytes) (whole : byte ≠ slash)
    (dotted : byte = dot → rest.head? ≠ some slash) : dropTail (byte :: rest) = byte :: rest := by
  rw [dropTail, if_neg]
  simpa [whole] using dotted

theorem drop_tail_name (name : Bytes) (named : IsName name) (before : Bytes) :
    dropTail (name.reverse ++ before) = name.reverse ++ before := by
  have back := backwards_apart name slash named.whole
  match backwards : name.reverse with
  | [] => exact absurd (List.reverse_eq_nil_iff.mp backwards) named.inhabited
  | [byte] =>
      rw [backwards] at back
      refine drop_tail_kept byte before (back byte (by simp)) ?_
      rintro rfl
      exact absurd (List.reverse_eq_iff.mp backwards) named.notHere
  | byte :: other :: rest =>
      rw [backwards] at back
      refine drop_tail_kept byte (other :: rest ++ before) (back byte (by simp)) fun _ => ?_
      simpa using back other (by simp)

theorem file_name_join (directory name : Bytes) (named : IsName name) :
    fileName? (join directory name) = some name := by
  have kept : ((dropTail (join directory name).reverse).takeWhile (· ≠ slash)).reverse = name := by
    rw [join_lead directory name named, List.reverse_append, drop_tail_name name named]
    rw [List.takeWhile_append_of_pos fun byte member =>
      decide_eq_true (backwards_apart name slash named.whole byte member)]
    rcases lead_ends directory with none | ⟨front, ends⟩
    · simp [none]
    · simp [ends]
  rw [fileName?, kept]
  simp [named.inhabited, named.notHere, named.notUp]

theorem dropped_behind (p : UInt8 → Bool) (bytes : Bytes) :
    bytes.drop (bytes.takeWhile p).length = bytes.dropWhile p := by
  have rest := congrArg (List.drop (bytes.takeWhile p).length)
    (List.takeWhile_append_dropWhile (p := p) (l := bytes))
  rw [← rest, List.drop_left]

theorem part_name_parts (name stem ext : Bytes) (parted : partName name = (stem, some ext)) :
    stem ≠ [] ∧ dot ∉ ext ∧ name = stem ++ dot :: ext := by
  have cut := List.takeWhile_append_dropWhile (p := (· ≠ dot)) (l := name.reverse)
  unfold partName at parted
  simp only [dropped_behind] at parted
  split at parted
  · cases parted
  · cases parted
  · rename_i mark back short kept
    cases parted
    have isDot : mark = dot := by
      have head := List.head?_dropWhile_not (· ≠ dot) name.reverse
      rw [kept] at head
      simpa using head
    rw [kept, isDot] at cut
    refine ⟨?_, ?_, ?_⟩
    · intro none
      exact short (by simpa using none)
    · rw [List.mem_reverse]
      intro member
      simpa using List.mem_takeWhile_imp member
    · have forward := congrArg List.reverse cut
      rw [List.reverse_reverse] at forward
      exact forward.symm.trans (by simp)

theorem part_name_extended (stem ext : Bytes) (inhabited : stem ≠ []) (plain : dot ∉ ext) :
    partName (stem ++ dot :: ext) = (stem, some ext) := by
  have passed (byte : UInt8) (member : byte ∈ ext.reverse) : decide (byte ≠ dot) = true :=
    decide_eq_true (backwards_apart ext dot plain byte member)
  have backwards : (stem ++ dot :: ext).reverse = ext.reverse ++ dot :: stem.reverse := by simp
  unfold partName
  simp only [dropped_behind]
  rw [backwards, List.dropWhile_append_of_pos passed, List.takeWhile_append_of_pos passed]
  have front : stem.reverse ≠ [] := by simpa using inhabited
  cases forth : stem.reverse with
  | nil => exact absurd forth front
  | cons byte rest =>
      rw [← forth]
      simp

theorem part_name_some (name stem ext : Bytes) :
    partName name = (stem, some ext) ↔ stem ≠ [] ∧ dot ∉ ext ∧ name = stem ++ dot :: ext := by
  constructor
  · exact part_name_parts name stem ext
  · rintro ⟨inhabited, plain, rfl⟩
    exact part_name_extended stem ext inhabited plain

theorem file_name_alone (name : Bytes) (named : IsName name) : fileName? name = some name := by
  have joined := file_name_join [] name named
  rwa [join_lead [] name named, lead, if_pos rfl, List.nil_append] at joined

theorem extension_some (name ext : Bytes) (named : IsName name) :
    extension? name = some ext ↔
      ∃ stem, stem ≠ [] ∧ dot ∉ ext ∧ name = stem ++ dot :: ext := by
  rw [extension?, file_name_alone name named]
  constructor
  · intro held
    exact ⟨(partName name).1, (part_name_some name _ ext).mp (Prod.ext rfl held)⟩
  · rintro ⟨stem, parted⟩
    exact congrArg Prod.snd ((part_name_some name stem ext).mpr parted)

theorem is_name_extended (stem ext : Bytes) (inhabited : stem ≠ []) (whole : slash ∉ stem)
    (longer : ext ≠ []) (extWhole : slash ∉ ext) : IsName (stem ++ dot :: ext) := by
  have long : 3 ≤ (stem ++ dot :: ext).length := by
    have stemLong := List.length_pos_iff.mpr inhabited
    have extLong := List.length_pos_iff.mpr longer
    simp only [List.length_append, List.length_cons]
    omega
  have parted : slash ≠ dot := by decide
  refine ⟨?_, ?_, ?_, by simp [whole, extWhole, parted]⟩ <;>
  · intro short
    rw [short] at long
    exact absurd long (by decide)

end HtmlTemplate.Files.Path
