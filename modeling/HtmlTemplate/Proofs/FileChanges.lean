import Mathlib.Data.Set.Insert
import HtmlTemplate.Proofs.FilePlaces

/-!
What operations change in a tree of files: the files that are written, and nothing else but new
directories. Every path that led somewhere still leads there.
-/

set_option autoImplicit false

namespace HtmlTemplate.Files.Tree

def Unused (tree : Tree) (number : Nat) : Prop :=
  ∀ directory name, tree.sightAt directory name ≠ .file number

def Sole (tree : Tree) (number : Nat) (directory : List Bytes) (name : Bytes) : Prop :=
  ∀ place other, tree.sightAt place other = .file number → place = directory ∧ other = name

-- What stands somewhere stays. Elsewhere directories may come up, and files with no other name.
structure Grows (tree later : Tree) : Prop where
  kept : ∀ directory name, tree.sightAt directory name ≠ .nothing →
    later.sightAt directory name = tree.sightAt directory name
  fresh : ∀ directory name, tree.sightAt directory name = .nothing →
    later.sightAt directory name = .nothing ∨ later.sightAt directory name = .directory ∨
      ∃ number, later.sightAt directory name = .file number ∧ tree.Unused number ∧
        later.Sole number directory name

theorem grows_refl (tree : Tree) : Grows tree tree :=
  ⟨fun _ _ _ => rfl, fun _ _ absent => .inl absent⟩

theorem sole_grows (tree later : Tree) (grows : Grows tree later) (number : Nat)
    (directory : List Bytes) (name : Bytes) (seen : tree.sightAt directory name = .file number)
    (sole : tree.Sole number directory name) : later.Sole number directory name := by
  intro place other found
  by_cases absent : tree.sightAt place other = .nothing
  · rcases grows.fresh place other absent with still | made | ⟨_, given, unused, -⟩
    · cases found.symm.trans still
    · cases found.symm.trans made
    · cases found.symm.trans given
      exact absurd seen (unused directory name)
  · exact sole place other ((grows.kept place other absent).symm.trans found)

theorem unused_grows (tree later : Tree) (grows : Grows tree later) (number : Nat)
    (unused : later.Unused number) : tree.Unused number := by
  intro directory name seen
  have present : tree.sightAt directory name ≠ .nothing := by
    rw [seen]
    nofun
  exact unused directory name ((grows.kept directory name present).trans seen)

theorem grows_trans (tree middle later : Tree) (first : Grows tree middle)
    (second : Grows middle later) : Grows tree later := by
  constructor
  · intro directory name present
    have same := first.kept directory name present
    rw [second.kept directory name (same ▸ present), same]
  · intro directory name absent
    rcases first.fresh directory name absent with still | made | ⟨number, given, unused, sole⟩
    · rcases second.fresh directory name still with still | made | ⟨number, given, unused, sole⟩
      · exact .inl still
      · exact .inr (.inl made)
      · exact .inr (.inr ⟨number, given, unused_grows tree middle first number unused, sole⟩)
    · refine .inr (.inl ?_)
      rw [second.kept directory name (by simp [made]), made]
    · refine .inr (.inr ⟨number, ?_, unused, ?_⟩)
      · rw [second.kept directory name (by simp [given]), given]
      · exact sole_grows middle later second number directory name given sole

theorem grows_turns (tree later : Tree) (grows : Grows tree later) : KeepsTurns tree later := by
  have turned (directory : List Bytes) (name : Bytes)
      (moves : turn (entryAt? tree.entries directory name) ≠ .ends) :
      turn (entryAt? later.entries directory name) =
        turn (entryAt? tree.entries directory name) := by
    have present : tree.sightAt directory name ≠ .nothing := by
      intro absent
      rw [← sight_turn] at moves
      exact moves (congrArg Sight.turn absent)
    have same := congrArg Sight.turn (grows.kept directory name present)
    rwa [sightAt, sightAt, sight_turn, sight_turn] at same
  constructor
  · intro directory name enters
    rw [turned directory name (by simp [enters]), enters]
  · intro directory name target jumps
    rw [turned directory name (by simp [jumps]), jumps]
  · intro directory name target ends jumps
    have linked := congrArg sight (turn_jumps _ target jumps)
    change later.sightAt directory name = .link target at linked
    by_cases absent : tree.sightAt directory name = .nothing
    · rcases grows.fresh directory name absent with still | made | ⟨_, given, -⟩
      · cases linked.symm.trans still
      · cases linked.symm.trans made
      · cases linked.symm.trans given
    · have same := congrArg Sight.turn ((grows.kept directory name absent).symm.trans linked)
      rw [sightAt, sight_turn, ends] at same
      cases same

theorem grows_find (tree later : Tree) (grows : Grows tree later) (path : Bytes) (place : Place)
    (found : tree.find path = .ok place) : later.find path = .ok place :=
  find_keeps tree later (grows_turns tree later grows) path place found

theorem grows_unlinked (tree later : Tree) (grows : Grows tree later)
    (unlinked : tree.Unlinked) : later.Unlinked := by
  have keeps := grows_turns tree later grows
  intro directory name target
  cases here : turn (entryAt? tree.entries directory name) with
  | ends => exact keeps.ends directory name target here
  | enters =>
      rw [keeps.enters directory name here]
      nofun
  | jumps found => exact absurd here (unlinked directory name found)

-- Nothing stands there that does not keep what is written to it, or shares it with another name.
structure Clear (tree : Tree) (directory : List Bytes) (name : Bytes) : Prop where
  keeping : ∀ given, tree.sightAt directory name ≠ .special given
  sole : ∀ number, tree.sightAt directory name = .file number → tree.Sole number directory name

theorem clear_grows (tree later : Tree) (grows : Grows tree later) (directory : List Bytes)
    (name : Bytes) (clear : tree.Clear directory name) : later.Clear directory name := by
  by_cases absent : tree.sightAt directory name = .nothing
  · rcases grows.fresh directory name absent with still | made | ⟨number, given, -, sole⟩
    · exact ⟨by simp [still], by simp [still]⟩
    · exact ⟨by simp [made], by simp [made]⟩
    · refine ⟨by simp [given], fun other found => ?_⟩
      cases given.symm.trans found
      exact sole
  · have same := grows.kept directory name absent
    refine ⟨fun given => same ▸ clear.keeping given, fun number found => ?_⟩
    rw [same] at found
    exact sole_grows tree later grows number directory name found (clear.sole number found)

-- Of all files only some may be others, and what stands in the directories stays.
structure ChangesOnly (written : Set (List Bytes × Bytes)) (tree later : Tree) : Prop where
  files : ∀ directory name, (directory, name) ∉ written →
    later.fileAt? directory name = tree.fileAt? directory name
  grows : Grows tree later

theorem changes_refl (tree : Tree) : ChangesOnly ∅ tree tree :=
  ⟨fun _ _ _ => rfl, grows_refl tree⟩

theorem changes_mono (written others : Set (List Bytes × Bytes)) (tree later : Tree)
    (fewer : written ⊆ others) (changes : ChangesOnly written tree later) :
    ChangesOnly others tree later :=
  ⟨fun directory name untouched => changes.files directory name fun held => untouched (fewer held),
    changes.grows⟩

theorem changes_trans (written : Set (List Bytes × Bytes)) (tree middle later : Tree)
    (first : ChangesOnly written tree middle) (second : ChangesOnly written middle later) :
    ChangesOnly written tree later := by
  refine ⟨fun directory name untouched => ?_, grows_trans _ _ _ first.grows second.grows⟩
  rw [second.files directory name untouched, first.files directory name untouched]

theorem fill_sight (tree : Tree) (number : Nat) (content : ByteArray) (directory : List Bytes)
    (name : Bytes) :
    (tree.fill number content).sightAt directory name = tree.sightAt directory name := rfl

theorem fill_grows (tree : Tree) (number : Nat) (content : ByteArray) :
    Grows tree (tree.fill number content) :=
  ⟨fun _ _ _ => rfl, fun _ _ absent => .inl absent⟩

theorem fill_changes (tree : Tree) (number : Nat) (content : ByteArray) (directory : List Bytes)
    (name : Bytes) (seen : tree.sightAt directory name = .file number)
    (sole : tree.Sole number directory name) :
    (tree.fill number content).fileAt? directory name = some content ∧
      ChangesOnly {(directory, name)} tree (tree.fill number content) := by
  refine ⟨?_, fun place other untouched => ?_, fill_grows tree number content⟩
  · exact (file_at_some _ directory name content).mpr ⟨number, seen, by simp [fill]⟩
  · unfold fileAt?
    rw [fill_sight]
    cases found : tree.sightAt place other with
    | file held =>
        have apart : held ≠ number := by
          rintro rfl
          obtain ⟨rfl, rfl⟩ := sole place other found
          exact untouched rfl
        simp [fill, apart]
    | nothing => rfl
    | directory => rfl
    | link target => rfl
    | special given => rfl

theorem above_entry_get (entries : List (Bytes × Entry)) (name : Bytes) (entry : Entry)
    (held : Entries.get? entries name = some entry) : aboveEntry entry ≤ aboveEntries entries := by
  induction entries with
  | nil => cases held
  | cons first rest ih =>
      obtain ⟨other, here⟩ := first
      rw [Entries.get?] at held
      rw [aboveEntries]
      split at held
      · cases held
        exact le_max_left _ _
      · exact (ih held).trans (le_max_right _ _)

theorem above_entries_at (entries inner : List (Bytes × Entry)) (directory : List Bytes)
    (held : entriesAt? entries directory = some inner) :
    aboveEntries inner ≤ aboveEntries entries := by
  induction directory generalizing entries with
  | nil =>
      cases held
      exact le_rfl
  | cons step rest ih =>
      rw [entriesAt?] at held
      split at held
      · rename_i entered found
        exact (ih entered held).trans (above_entry_get entries step (.directory entered) found)
      · cases held

theorem above_unused (tree : Tree) : tree.Unused (aboveEntries tree.entries) := by
  intro directory name seen
  have held := (sight_at_file tree directory name _).mp seen
  rw [entryAt?, Option.bind_eq_some_iff] at held
  obtain ⟨inner, entered, found⟩ := held
  have below := above_entry_get inner name _ found
  have within := above_entries_at tree.entries inner directory entered
  rw [aboveEntry] at below
  omega

section Put

variable (tree : Tree) (directory : List Bytes) (name : Bytes)
    (there : (entriesAt? tree.entries directory).isSome)
    (absent : entryAt? tree.entries directory name = none)

include there absent

theorem put_sight (entry : Entry) (hollow : ∀ inner, entry = .directory inner → inner = [])
    (place : List Bytes) (other : Bytes) :
    (tree.put (.within directory name) entry).sightAt place other =
      if place = directory ∧ other = name then sight (some entry)
      else tree.sightAt place other := by
  refine put_at_sight tree.entries directory place name other entry there ?_ hollow
  rw [absent]
  nofun

theorem put_directory_changes :
    ChangesOnly ∅ tree (tree.put (.within directory name) (.directory [])) := by
  have nowhere : tree.sightAt directory name = .nothing := congrArg sight absent
  have hollow : ∀ inner, Entry.directory [] = .directory inner → inner = [] := by
    rintro inner ⟨⟩
    rfl
  have seen := put_sight tree directory name there absent (.directory []) hollow
  refine ⟨fun place other _ => ?_, fun place other present => ?_, fun place other missing => ?_⟩
  · unfold fileAt?
    by_cases here : place = directory ∧ other = name
    · rw [seen, if_pos here, here.1, here.2, nowhere]
      rfl
    · rw [seen, if_neg here]
      rfl
  · rw [seen, if_neg]
    rintro ⟨rfl, rfl⟩
    exact present nowhere
  · rw [seen]
    split
    · exact .inr (.inl rfl)
    · exact .inl missing

theorem put_file_changes :
    let number := aboveEntries tree.entries
    let later := tree.put (.within directory name) (.file number)
    later.sightAt directory name = .file number ∧ later.Sole number directory name ∧
      ChangesOnly {(directory, name)} tree later := by
  intro number later
  have nowhere : tree.sightAt directory name = .nothing := congrArg sight absent
  have unused := above_unused tree
  have seen := put_sight tree directory name there absent (.file number) nofun
  have own : later.sightAt directory name = .file number := by
    rw [seen, if_pos ⟨rfl, rfl⟩]
    rfl
  have sole : later.Sole number directory name := by
    intro place other found
    rw [seen] at found
    split at found
    · assumption
    · exact absurd found (unused place other)
  refine ⟨own, sole, fun place other untouched => ?_, fun place other present => ?_,
    fun place other missing => ?_⟩
  · unfold fileAt?
    rw [seen, if_neg]
    · rfl
    · rintro ⟨rfl, rfl⟩
      exact untouched rfl
  · rw [seen, if_neg]
    rintro ⟨rfl, rfl⟩
    exact present nowhere
  · by_cases here : place = directory ∧ other = name
    · obtain ⟨rfl, rfl⟩ := here
      exact .inr (.inr ⟨number, own, unused, sole⟩)
    · rw [seen, if_neg here]
      exact .inl missing

end Put

theorem make_directory_changes (tree later : Tree) (path : Bytes)
    (made : tree.makeDirectory path = .ok later) : ChangesOnly ∅ tree later := by
  unfold makeDirectory at made
  split at made
  · cases made
  · rename_i place found
    split at made
    · cases made
    · rename_i absent
      cases made
      cases place with
      | root => cases absent
      | within directory name =>
          have there := (find_settled tree _ _ found).1
          exact put_directory_changes tree directory name there absent

theorem open_file_place (tree later : Tree) (path : Bytes) (opened : Option Nat)
    (done : tree.openFile path = .ok (later, opened)) :
    ∃ directory name, tree.find path = .ok (.within directory name) ∧ Grows tree later ∧
      ((opened = none ∧ later = tree ∧ ∃ given, tree.sightAt directory name = .special given) ∨
        ∃ number, opened = some number ∧ later.sightAt directory name = .file number ∧
          (tree.Clear directory name →
            later.Sole number directory name ∧ ChangesOnly {(directory, name)} tree later)) := by
  unfold openFile at done
  split at done
  · cases done
  · rename_i place found
    split at done
    · cases done
    · rename_i whole
      rw [if_neg whole] at found
      cases place with
      | root => cases done
      | within directory name =>
          refine ⟨directory, name, found, ?_⟩
          split at done
          · rename_i absent
            cases done
            have there := (find_settled tree _ _ found).1
            obtain ⟨own, sole, changes⟩ := put_file_changes tree directory name there absent
            obtain ⟨-, emptied⟩ := fill_changes _ _ .empty directory name own sole
            have all := changes_trans _ _ _ _ changes emptied
            exact ⟨all.grows, .inr ⟨_, rfl, own, fun _ => ⟨sole, all⟩⟩⟩
          · rename_i number held
            cases done
            have seen := (sight_at_file tree directory name number).mpr held
            refine ⟨fill_grows tree number .empty, .inr ⟨number, rfl, seen, fun clear => ?_⟩⟩
            have sole := clear.sole number seen
            exact ⟨sole, (fill_changes tree number .empty directory name seen sole).2⟩
          · rename_i given held
            cases done
            have seen := (sight_at_special tree directory name given).mpr held
            exact ⟨grows_refl tree, .inl ⟨rfl, rfl, given, seen⟩⟩
          · cases done
          · cases done

theorem pour_grows (tree : Tree) (opened : Option Nat) (content : ByteArray) :
    Grows tree (tree.pour opened content) := by
  cases opened with
  | none => exact grows_refl tree
  | some number => exact fill_grows tree number content

theorem poured_read (tree middle : Tree) (path : Bytes) (opened : Option Nat)
    (content : ByteArray) (done : tree.openFile path = .ok (middle, opened))
    (keeping : ∀ directory name given, tree.find path = .ok (.within directory name) →
      tree.sightAt directory name ≠ .special given) :
    (middle.pour opened content).read path = .ok content := by
  obtain ⟨directory, name, found, grows, special | ⟨number, rfl, seen, -⟩⟩ :=
    open_file_place tree middle path opened done
  · obtain ⟨-, -, given, special⟩ := special
    exact absurd special (keeping directory name given found)
  · have poured := grows_trans _ _ _ grows (pour_grows middle (some number) content)
    refine (read_place _ path content).mpr ⟨directory, name, grows_find _ _ poured _ _ found, ?_⟩
    exact .inl ((file_at_some _ directory name content).mpr ⟨number, seen, by simp [pour, fill]⟩)

theorem poured_changes (tree middle : Tree) (path : Bytes) (opened : Option Nat)
    (content : ByteArray) (directory : List Bytes) (name : Bytes)
    (done : tree.openFile path = .ok (middle, opened))
    (found : tree.find path = .ok (.within directory name)) (clear : tree.Clear directory name) :
    (middle.pour opened content).fileAt? directory name = some content ∧
      ChangesOnly {(directory, name)} tree (middle.pour opened content) := by
  obtain ⟨_, _, same, -, special | ⟨number, rfl, seen, cleared⟩⟩ :=
    open_file_place tree middle path opened done
  · cases found.symm.trans same
    obtain ⟨-, -, given, special⟩ := special
    exact absurd special (clear.keeping given)
  · cases found.symm.trans same
    obtain ⟨sole, changes⟩ := cleared clear
    obtain ⟨held, filled⟩ := fill_changes middle number content directory name seen sole
    exact ⟨held, changes_trans _ _ _ _ changes filled⟩

end HtmlTemplate.Files.Tree
