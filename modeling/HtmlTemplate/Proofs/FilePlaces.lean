import HtmlTemplate.Proofs.FileTree
import HtmlTemplate.Proofs.PathNames

/-!
Where the path of a name in a directory leads. A path that leads into a directory leads to the names
in it, and in a tree without links the last name of a path is that of the place it ends at.
-/

set_option autoImplicit false

namespace HtmlTemplate.Files.Tree

def fileAt? (tree : Tree) (directory : List Bytes) (name : Bytes) : Option ByteArray :=
  match tree.sightAt directory name with
  | .file number => some (tree.contents number)
  | _ => none

theorem sight_at_file (tree : Tree) (directory : List Bytes) (name : Bytes) (number : Nat) :
    tree.sightAt directory name = .file number ↔
      entryAt? tree.entries directory name = some (.file number) := by
  unfold sightAt
  rcases entryAt? tree.entries directory name with _ | _ | _ | _ | _ <;> simp [sight]

theorem sight_at_special (tree : Tree) (directory : List Bytes) (name : Bytes)
    (given : ByteArray) :
    tree.sightAt directory name = .special given ↔
      entryAt? tree.entries directory name = some (.special given) := by
  unfold sightAt
  rcases entryAt? tree.entries directory name with _ | _ | _ | _ | _ <;> simp [sight]

theorem file_at_some (tree : Tree) (directory : List Bytes) (name : Bytes)
    (content : ByteArray) :
    tree.fileAt? directory name = some content ↔
      ∃ number, tree.sightAt directory name = .file number ∧ tree.contents number = content := by
  unfold fileAt?
  cases tree.sightAt directory name <;> simp

def Unlinked (tree : Tree) : Prop :=
  ∀ directory name target, turn (entryAt? tree.entries directory name) ≠ .jumps target

def Place.home : Place → List Bytes
  | .root => []
  | .within directory name => directory ++ [name]

theorem at_home (tree : Tree) (place : Place) (inner : List (Bytes × Entry)) :
    tree.at? place = some (.directory inner) ↔ entriesAt? tree.entries place.home = some inner := by
  cases place with
  | root => simp [at?, Place.home, entriesAt?]
  | within directory name => exact (entries_at_concat tree.entries inner directory name).symm

theorem follow_nowhere (tree : Tree) (links : Nat) (directory : List Bytes) (place : Place)
    (found : tree.follow links directory [] = .ok place) : place.home = directory := by
  rw [follow] at found
  rcases List.eq_nil_or_concat' directory with rfl | ⟨outer, name, rfl⟩
  · cases found
    rfl
  · rw [List.getLast?_concat, List.dropLast_concat] at found
    cases found
    rfl

-- A dot that may be added to a path for its last slash is not its first component but this one.
theorem first_component (components tail others : List Bytes) (name : Bytes)
    (trailing : tail = [] ∨ tail = [Path.here]) (notHere : name ≠ Path.here)
    (whole : components ++ tail = name :: others) :
    ∃ further, components = name :: further ∧ others = further ++ tail := by
  rcases List.append_eq_cons_iff.mp whole with ⟨rfl, rfl⟩ | split
  · rcases trailing with none | dot
    · cases none
    · exact absurd (List.cons.inj dot).1 notHere
  · exact split

-- What is seen from a directory that a path leads into is seen at the end of the path.
theorem follow_through (tree : Tree) (links : Nat) (directory components tail : List Bytes)
    (place : Place) (trailing : tail = [] ∨ tail = [Path.here])
    (found : tree.follow links directory (components ++ tail) = .ok place)
    (opened : (entriesAt? tree.entries place.home).isSome) :
    ∃ left, ∀ rest,
      tree.follow links directory (components ++ rest) = tree.follow left place.home rest := by
  generalize whole : components ++ tail = all at found
  fun_induction Tree.follow tree links directory all generalizing components
  case case1 links directory =>
      obtain ⟨rfl, -⟩ := List.append_eq_nil_iff.mp whole
      refine ⟨links, fun rest => ?_⟩
      rw [follow_nowhere tree links directory place (by rw [follow]; exact found)]
      rfl
  case case2 links directory others ih =>
      cases components with
      | nil =>
          obtain rfl : others = [] := by
            rcases trailing with rfl | rfl
            · cases whole
            · exact (List.cons.inj whole).2.symm
          exact ⟨links, fun rest => by rw [follow_nowhere tree links directory place found]; rfl⟩
      | cons first further =>
          cases whole
          obtain ⟨left, through⟩ := ih further rfl found
          refine ⟨left, fun rest => ?_⟩
          rw [List.cons_append, follow, if_pos rfl, through rest]
  case case3 links directory others notHere ih =>
      obtain ⟨further, rfl, rfl⟩ := first_component _ tail others Path.up trailing notHere whole
      obtain ⟨left, through⟩ := ih further rfl found
      refine ⟨left, fun rest => ?_⟩
      rw [List.cons_append, follow, if_neg notHere, if_pos rfl, through rest]
  case case5 directory name others notHere notUp short missing last =>
      cases found
      rw [Place.home, entries_at_step, entryAt?, missing] at opened
      cases opened
  case case7 directory name others notHere notUp short content held last =>
      cases found
      rw [Place.home, entries_at_step, entryAt?, held] at opened
      cases opened
  case case9 directory name others notHere notUp short given held last =>
      cases found
      rw [Place.home, entries_at_step, entryAt?, held] at opened
      cases opened
  case case11 links directory name others notHere notUp short inner held ih =>
      obtain ⟨further, rfl, rfl⟩ := first_component _ tail others name trailing notHere whole
      obtain ⟨left, through⟩ := ih further rfl found
      have enters : turn (entryAt? tree.entries directory name) = .enters := by
        rw [entryAt?, held]
        rfl
      refine ⟨left, fun rest => ?_⟩
      rw [List.cons_append, follow_enters tree directory name _ notHere notUp short links enters,
        through rest]
  case case13 directory name others notHere notUp short target held links ih =>
      obtain ⟨further, rfl, rfl⟩ := first_component _ tail others name trailing notHere whole
      obtain ⟨left, through⟩ := ih (Path.parts target ++ further) (by simp) found
      have jumps : turn (entryAt? tree.entries directory name) = .jumps target := by
        rw [entryAt?, held]
        rfl
      refine ⟨left, fun rest => ?_⟩
      rw [List.cons_append, follow_jumps tree directory name _ notHere notUp short links target
        jumps, ← List.append_assoc]
      exact through rest
  all_goals cases found

theorem find_through (tree : Tree) (path : Bytes) (place : Place)
    (found : tree.find path = .ok place) (opened : (entriesAt? tree.entries place.home).isSome) :
    ∃ left, ∀ rest,
      tree.follow linkLimit [] (Path.parts path ++ rest) = tree.follow left place.home rest := by
  unfold find at found
  split at found
  · cases found
  split at found
  · cases found
  split at found
  · cases found
  · refine follow_through tree linkLimit [] (Path.parts path) _ place ?_ found opened
    split
    · exact .inr rfl
    · exact .inl rfl

def refusal? (path name : Bytes) : Option Fault :=
  if path.contains 0 then some .nulInName
  else if pathLimit < path.length ∨ nameLimit < name.length then some .nameTooLong
  else none

theorem find_join (tree : Tree) (directory name : Bytes) (named : Path.IsName name) :
    tree.find (Path.join directory name) =
      if (Path.join directory name).contains 0 then .error .nulInName
      else if pathLimit < (Path.join directory name).length then .error .nameTooLong
      else tree.follow linkLimit [] (Path.parts directory ++ [name]) := by
  have ends := Path.join_ends directory name named
  have inhabited := Path.join_inhabited directory name named
  rw [find, if_neg inhabited, Path.parts_join directory name named, ends]
  simp

-- Whether a file is read from a directory depends on nothing but the file and its path.
theorem read_join (tree : Tree) (directory name : Bytes) (place : Place) (content : ByteArray)
    (named : Path.IsName name) (found : tree.find directory = .ok place)
    (held : tree.fileAt? place.home name = some content) :
    tree.read (Path.join directory name) =
      (refusal? (Path.join directory name) name).elim (.ok content) .error := by
  obtain ⟨number, seen, same⟩ := (file_at_some tree place.home name content).mp held
  have file := (sight_at_file tree place.home name number).mp seen
  have opened : (entriesAt? tree.entries place.home).isSome := by
    rw [entryAt?, Option.bind_eq_some_iff] at file
    obtain ⟨inner, entered, -⟩ := file
    rw [entered]
    rfl
  obtain ⟨left, through⟩ := find_through tree directory place found opened
  rw [read, get, find_join tree directory name named, refusal?]
  by_cases nul : (Path.join directory name).contains 0
  · rw [if_pos nul, if_pos nul]
    rfl
  rw [if_neg nul, if_neg nul]
  by_cases long : pathLimit < (Path.join directory name).length
  · rw [if_pos long, if_pos (.inl long)]
    rfl
  rw [if_neg long, through [name]]
  by_cases wide : nameLimit < name.length
  · rw [if_pos (.inr wide), follow, if_neg named.notHere, if_neg named.notUp, if_pos wide]
    rfl
  have stays : ∀ target, turn (entryAt? tree.entries place.home name) ≠ .jumps target := by
    intro target jumps
    rw [file] at jumps
    cases jumps
  have ended : tree.at? (.within place.home name) = some (.file number) := file
  rw [if_neg (by simp [long, wide]),
    follow_last tree place.home name named.notHere named.notUp wide left stays]
  simp only [ended, same]
  rfl

theorem content_join (tree : Tree) (directory name : Bytes) (place : Place)
    (held content : ByteArray) (named : Path.IsName name) (found : tree.find directory = .ok place)
    (there : tree.fileAt? place.home name = some held)
    (read : tree.read (Path.join directory name) = .ok content) : content = held := by
  rw [read_join tree directory name place held named found there] at read
  cases refused : refusal? (Path.join directory name) name with
  | none =>
      rw [refused] at read
      cases read
      rfl
  | some fault =>
      rw [refused] at read
      cases read

theorem follow_name (tree : Tree) (unlinked : tree.Unlinked) (links : Nat)
    (directory components : List Bytes) (name : Bytes) (place : Place)
    (named : Path.IsName name)
    (found : tree.follow links directory (components ++ [name]) = .ok place) :
    ∃ home, place = .within home name := by
  generalize whole : components ++ [name] = all at found
  fun_induction Tree.follow tree links directory all generalizing components
  case case1 => simp at whole
  case case2 ih =>
      rcases List.append_eq_cons_iff.mp whole with ⟨-, alone⟩ | ⟨further, -, rfl⟩
      · exact absurd (List.cons.inj alone).1 named.notHere
      · exact ih further rfl found
  case case3 ih =>
      rcases List.append_eq_cons_iff.mp whole with ⟨-, alone⟩ | ⟨further, -, rfl⟩
      · exact absurd (List.cons.inj alone).1 named.notUp
      · exact ih further rfl found
  case case5 directory first others _ _ _ _ last =>
      cases found
      rcases List.append_eq_cons_iff.mp whole with ⟨-, alone⟩ | ⟨further, -, rfl⟩
      · exact ⟨directory, by rw [(List.cons.inj alone).1]⟩
      · simp at last
  case case7 directory first others _ _ _ _ _ last =>
      cases found
      rcases List.append_eq_cons_iff.mp whole with ⟨-, alone⟩ | ⟨further, -, rfl⟩
      · exact ⟨directory, by rw [(List.cons.inj alone).1]⟩
      · simp at last
  case case9 directory first others _ _ _ _ _ last =>
      cases found
      rcases List.append_eq_cons_iff.mp whole with ⟨-, alone⟩ | ⟨further, -, rfl⟩
      · exact ⟨directory, by rw [(List.cons.inj alone).1]⟩
      · simp at last
  case case11 directory first others _ _ _ _ _ ih =>
      rcases List.append_eq_cons_iff.mp whole with ⟨-, alone⟩ | ⟨further, -, rfl⟩
      · cases alone
        rw [follow, List.getLast?_concat, List.dropLast_concat] at found
        cases found
        exact ⟨directory, rfl⟩
      · exact ih further rfl found
  case case13 directory first others _ _ _ target held _ _ =>
      refine absurd ?_ (unlinked directory first target)
      rw [entryAt?, held]
      rfl
  all_goals cases found

theorem find_named (tree : Tree) (directory name : Bytes) (place : Place)
    (unlinked : tree.Unlinked) (named : Path.IsName name)
    (found : tree.find (Path.join directory name) = .ok place) :
    ∃ home, place = .within home name := by
  rw [find_join tree directory name named] at found
  split at found
  · cases found
  split at found
  · cases found
  · exact follow_name tree unlinked linkLimit [] (Path.parts directory) name place named found

theorem find_called (tree : Tree) (directory name other : Bytes) (home : List Bytes)
    (unlinked : tree.Unlinked) (named : Path.IsName name)
    (found : tree.find (Path.join directory name) = .ok (.within home other)) : other = name := by
  obtain ⟨_, same⟩ := find_named tree directory name _ unlinked named found
  cases same
  rfl

theorem get_directory (tree : Tree) (path : Bytes) (entries : List (Bytes × Entry))
    (there : tree.get path = .ok (.directory entries)) :
    ∃ place, tree.find path = .ok place ∧ entriesAt? tree.entries place.home = some entries := by
  unfold get at there
  split at there
  · cases there
  · rename_i place found
    split at there
    · cases there
    · rename_i entry ended
      cases there
      exact ⟨place, found, (at_home tree place entries).mp ended⟩

-- What is written to a path is kept: nothing special stands there.
def Keeps (tree : Tree) (path : Bytes) : Prop :=
  ∀ given, tree.get path ≠ .ok (.special given)

theorem keeps_place (tree : Tree) (path : Bytes) (keeps : tree.Keeps path)
    (directory : List Bytes) (name : Bytes) (given : ByteArray)
    (found : tree.find path = .ok (.within directory name)) :
    tree.sightAt directory name ≠ .special given := by
  intro special
  have ended : tree.at? (.within directory name) = some (.special given) :=
    (sight_at_special tree directory name given).mp special
  exact keeps given (by simp only [get, found, ended])

theorem read_place (tree : Tree) (path : Bytes) (content : ByteArray) :
    tree.read path = .ok content ↔
      ∃ directory name, tree.find path = .ok (.within directory name) ∧
        (tree.fileAt? directory name = some content ∨
          tree.sightAt directory name = .special content) := by
  constructor
  · intro held
    unfold read get at held
    cases found : tree.find path with
    | error fault =>
        rw [found] at held
        cases held
    | ok place =>
        cases place with
        | root =>
            rw [found] at held
            cases held
        | within directory name =>
            refine ⟨directory, name, rfl, ?_⟩
            rw [found] at held
            cases ended : tree.at? (.within directory name) with
            | none => simp [ended] at held
            | some entry =>
                have seen : tree.sightAt directory name = sight (some entry) := congrArg sight ended
                cases entry with
                | file number =>
                    simp only [ended, Except.ok.injEq] at held
                    exact .inl ((file_at_some tree directory name content).mpr ⟨number, seen, held⟩)
                | special given =>
                    simp only [ended, Except.ok.injEq] at held
                    exact .inr (held ▸ seen)
                | directory inner => simp [ended] at held
                | link target => simp [ended] at held
  · rintro ⟨directory, name, found, held | special⟩
    · obtain ⟨number, seen, same⟩ := (file_at_some tree directory name content).mp held
      have ended : tree.at? (.within directory name) = some (.file number) :=
        (sight_at_file tree directory name number).mp seen
      simp only [read, get, found, ended, same]
    · have ended : tree.at? (.within directory name) = some (.special content) :=
        (sight_at_special tree directory name content).mp special
      simp only [read, get, found, ended]

mutual
def entryLinkless : Entry → Bool
  | .file _ | .special _ => true
  | .link _ => false
  | .directory entries => entriesLinkless entries
def entriesLinkless : List (Bytes × Entry) → Bool
  | [] => true
  | (name, entry) :: rest =>
    decide (Path.IsName name ∧ name ∉ Entries.keys rest) && entryLinkless entry &&
      entriesLinkless rest
end

def linkless (tree : Tree) : Bool :=
  entriesLinkless tree.entries

theorem entries_linkless_get (entries : List (Bytes × Entry)) (linkless : entriesLinkless entries)
    (name : Bytes) (entry : Entry) (held : Entries.get? entries name = some entry) :
    entryLinkless entry := by
  induction entries with
  | nil => cases held
  | cons first rest ih =>
      obtain ⟨other, here⟩ := first
      simp only [entriesLinkless, Bool.and_eq_true] at linkless
      rw [Entries.get?] at held
      split at held
      · cases held
        exact linkless.1.2
      · exact ih linkless.2 held

theorem entries_linkless_at (entries inner : List (Bytes × Entry))
    (linkless : entriesLinkless entries) (directory : List Bytes) (held : entriesAt? entries directory = some inner) :
    entriesLinkless inner := by
  induction directory generalizing entries with
  | nil =>
      cases held
      exact linkless
  | cons step rest ih =>
      rw [entriesAt?] at held
      split at held
      · rename_i entered found
        have entryIsLinkless := entries_linkless_get entries linkless step _ found
        rw [entryLinkless] at entryIsLinkless
        exact ih entered entryIsLinkless held
      · cases held

theorem entries_linkless_names (entries : List (Bytes × Entry))
    (linkless : entriesLinkless entries) :
    (∀ name ∈ Entries.keys entries, Path.IsName name) ∧ (Entries.keys entries).Nodup := by
  induction entries with
  | nil => exact ⟨nofun, List.nodup_nil⟩
  | cons first rest ih =>
      obtain ⟨name, here⟩ := first
      simp only [entriesLinkless, Bool.and_eq_true, decide_eq_true_eq] at linkless
      obtain ⟨⟨⟨named, fresh⟩, -⟩, restLinkless⟩ := linkless
      obtain ⟨restNamed, restDistinct⟩ := ih restLinkless
      refine ⟨?_, List.nodup_cons.mpr ⟨fresh, restDistinct⟩⟩
      intro other member
      rcases List.mem_cons.mp member with rfl | member
      · exact named
      · exact restNamed other member

theorem linkless_unlinked (tree : Tree) (linkless : tree.linkless) : tree.Unlinked := by
  intro directory name target jumps
  have held := turn_jumps _ target jumps
  rw [entryAt?, Option.bind_eq_some_iff] at held
  obtain ⟨inner, entered, found⟩ := held
  have innerLinkless := entries_linkless_at tree.entries inner linkless directory entered
  have linkLinkless := entries_linkless_get inner innerLinkless name _ found
  cases linkLinkless

end HtmlTemplate.Files.Tree
