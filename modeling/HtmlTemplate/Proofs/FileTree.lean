import Mathlib.Data.List.Basic
import HtmlTemplate.Files.Tree

/-!
Where paths lead in a tree. Putting a file or an empty directory somewhere changes no other place,
and as long as every turn of a path is kept, it leads where it led.
-/

set_option autoImplicit false

namespace HtmlTemplate.Files.Tree

def entryAt? (entries : List (Bytes × Entry)) (directory : List Bytes) (name : Bytes) :
    Option Entry :=
  (entriesAt? entries directory).bind (Entries.get? · name)

inductive Turn where
  | ends
  | enters
  | jumps (target : Bytes)

def turn : Option Entry → Turn
  | none => .ends
  | some (.file _) => .ends
  | some (.directory _) => .enters
  | some (.link target) => .jumps target
  | some (.special _) => .ends

theorem turn_ends (entry : Option Entry) (ends : turn entry = .ends) :
    entry = none ∨ (∃ number, entry = some (.file number)) ∨
      ∃ given, entry = some (.special given) := by
  rcases entry with _ | number | _ | _ | given
  · exact .inl rfl
  · exact .inr (.inl ⟨number, rfl⟩)
  · cases ends
  · cases ends
  · exact .inr (.inr ⟨given, rfl⟩)

theorem turn_enters (entry : Option Entry) (enters : turn entry = .enters) :
    ∃ inner, entry = some (.directory inner) := by
  rcases entry with _ | _ | inner | _ | _
  · cases enters
  · cases enters
  · exact ⟨inner, rfl⟩
  · cases enters
  · cases enters

theorem turn_jumps (entry : Option Entry) (target : Bytes) (jumps : turn entry = .jumps target) :
    entry = some (.link target) := by
  rcases entry with _ | _ | _ | _ | _
  · cases jumps
  · cases jumps
  · cases jumps
  · cases jumps
    rfl
  · cases jumps

-- What is there at a place itself, whatever a directory holds.
inductive Sight where
  | nothing
  | file (number : Nat)
  | directory
  | link (target : Bytes)
  | special (given : ByteArray)

def sight : Option Entry → Sight
  | none => .nothing
  | some (.file number) => .file number
  | some (.directory _) => .directory
  | some (.link target) => .link target
  | some (.special given) => .special given

def Sight.turn : Sight → Turn
  | .nothing => .ends
  | .file _ => .ends
  | .directory => .enters
  | .link target => .jumps target
  | .special _ => .ends

theorem sight_turn (entry : Option Entry) : (sight entry).turn = turn entry := by
  rcases entry with _ | _ | _ | _ | _ <;> rfl

def sightAt (tree : Tree) (directory : List Bytes) (name : Bytes) : Sight :=
  sight (entryAt? tree.entries directory name)

theorem entry_at_here (entries : List (Bytes × Entry)) (name : Bytes) :
    entryAt? entries [] name = Entries.get? entries name := rfl

theorem entry_at_inside (entries inner : List (Bytes × Entry)) (step : Bytes)
    (directory : List Bytes) (name : Bytes)
    (held : Entries.get? entries step = some (.directory inner)) :
    entryAt? entries (step :: directory) name = entryAt? inner directory name := by
  simp [entryAt?, entriesAt?, held]

theorem entry_at_outside (entries : List (Bytes × Entry)) (step : Bytes)
    (directory : List Bytes) (name : Bytes)
    (closed : turn (Entries.get? entries step) ≠ .enters) :
    entryAt? entries (step :: directory) name = none := by
  unfold entryAt? entriesAt?
  split
  · rename_i inner held
    exact absurd (congrArg turn held) closed
  · rfl

theorem entry_at_congr (entries others : List (Bytes × Entry)) (step : Bytes)
    (directory : List Bytes) (name : Bytes)
    (same : Entries.get? entries step = Entries.get? others step) :
    entryAt? entries (step :: directory) name = entryAt? others (step :: directory) name := by
  simp only [entryAt?, entriesAt?, same]

theorem not_directory_closed (entries : List (Bytes × Entry)) (step : Bytes)
    (closed : ∀ inner, Entries.get? entries step ≠ some (.directory inner)) :
    turn (Entries.get? entries step) ≠ .enters := by
  intro entered
  obtain ⟨inner, held⟩ := turn_enters _ entered
  exact closed inner held

theorem entry_at_empty (directory : List Bytes) (name : Bytes) :
    entryAt? [] directory name = none := by
  cases directory <;> rfl

-- A file or an empty directory, set where there was none, is all that changes.
theorem set_sight (entries : List (Bytes × Entry)) (place : List Bytes) (name other : Bytes)
    (entry : Entry) (closed : turn (Entries.get? entries name) ≠ .enters)
    (hollow : ∀ inner, entry = .directory inner → inner = []) :
    sight (entryAt? (Entries.set entries name entry) place other) =
      if place = [] ∧ other = name then sight (some entry)
      else sight (entryAt? entries place other) := by
  cases place with
  | nil =>
      rw [entry_at_here, entry_at_here, Entries.get?_set]
      by_cases same : name = other
      · simp [same]
      · simp [same, Ne.symm same]
  | cons first further =>
      rw [if_neg (by simp)]
      by_cases here : name = first
      · subst here
        have after : Entries.get? (Entries.set entries name entry) name = some entry := by simp
        rw [entry_at_outside entries name further other closed]
        cases entry with
        | directory inner =>
            rw [entry_at_inside _ inner name further other after, hollow inner rfl, entry_at_empty]
        | file number => rw [entry_at_outside _ name further other (by rw [after]; nofun)]
        | link target => rw [entry_at_outside _ name further other (by rw [after]; nofun)]
        | special given => rw [entry_at_outside _ name further other (by rw [after]; nofun)]
      · rw [entry_at_congr _ entries first further other
          (by rw [Entries.get?_set, if_neg here])]

theorem put_at_sight (entries : List (Bytes × Entry)) (directory place : List Bytes)
    (name other : Bytes) (entry : Entry) (there : (entriesAt? entries directory).isSome)
    (closed : turn (entryAt? entries directory name) ≠ .enters)
    (hollow : ∀ inner, entry = .directory inner → inner = []) :
    sight (entryAt? (putAt entries name entry directory) place other) =
      if place = directory ∧ other = name then sight (some entry)
      else sight (entryAt? entries place other) := by
  induction directory generalizing entries place with
  | nil => exact set_sight entries place name other entry closed hollow
  | cons step rest ih =>
      rw [entriesAt?] at there
      rw [putAt]
      split at there
      · rename_i inner held
        rw [entry_at_inside entries inner step rest name held] at closed
        cases place with
        | nil =>
            rw [if_neg (by simp), entry_at_here, entry_at_here, Entries.get?_set]
            split
            · rename_i same
              rw [← same, held]
              rfl
            · rfl
        | cons first further =>
            by_cases here : step = first
            · subst here
              have after : Entries.get?
                    (Entries.set entries step (.directory (putAt inner name entry rest))) step =
                  some (.directory (putAt inner name entry rest)) := by simp
              have deeper := ih inner further there closed
              simp only [List.cons.injEq, true_and]
              rw [entry_at_inside entries inner step further other held,
                entry_at_inside _ _ step further other after, deeper]
            · rw [if_neg (by simp [Ne.symm here]), entry_at_congr _ entries first further other
                (by rw [Entries.get?_set, if_neg here])]
      · cases there

theorem entries_at_concat (entries inner : List (Bytes × Entry)) (directory : List Bytes)
    (name : Bytes) :
    entriesAt? entries (directory ++ [name]) = some inner ↔
      entryAt? entries directory name = some (.directory inner) := by
  induction directory generalizing entries with
  | nil =>
      rw [entry_at_here, List.nil_append, entriesAt?]
      cases Entries.get? entries name with
      | none => simp
      | some entry => cases entry <;> simp [entriesAt?]
  | cons step rest ih =>
      rw [List.cons_append, entriesAt?]
      split
      · rename_i entered held
        rw [ih entered, entry_at_inside entries entered step rest name held]
      · rename_i closed
        rw [entry_at_outside entries step rest name (not_directory_closed entries step closed)]
        simp

theorem entries_at_step (entries : List (Bytes × Entry)) (directory : List Bytes)
    (name : Bytes) :
    (entriesAt? entries (directory ++ [name])).isSome ↔
      turn (entryAt? entries directory name) = .enters := by
  rw [Option.isSome_iff_exists]
  constructor
  · rintro ⟨inner, held⟩
    rw [(entries_at_concat entries inner directory name).mp held]
    rfl
  · intro enters
    obtain ⟨inner, held⟩ := turn_enters _ enters
    exact ⟨inner, (entries_at_concat entries inner directory name).mpr held⟩

theorem entered_directory (entries : List (Bytes × Entry)) (directory : List Bytes)
    (name : Bytes) (entered : turn (entryAt? entries directory name) = .enters) :
    (entriesAt? entries directory).isSome := by
  unfold entryAt? at entered
  cases held : entriesAt? entries directory with
  | none =>
      rw [held] at entered
      cases entered
  | some inner => rfl

-- Where a path ends there is no link, and its directory is there.
def Settled (tree : Tree) : Place → Prop
  | .root => True
  | .within directory name =>
    (entriesAt? tree.entries directory).isSome ∧
      ∀ target, turn (entryAt? tree.entries directory name) ≠ .jumps target

theorem follow_settled (tree : Tree) (links : Nat) (directory components : List Bytes)
    (place : Place) (there : (entriesAt? tree.entries directory).isSome)
    (found : tree.follow links directory components = .ok place) : tree.Settled place := by
  fun_induction Tree.follow tree links directory components
  case case1 directory =>
      rcases List.eq_nil_or_concat' directory with rfl | ⟨outer, name, rfl⟩
      · cases found
        trivial
      · have entered := (entries_at_step _ _ _).mp there
        rw [List.getLast?_concat, List.dropLast_concat] at found
        cases found
        exact ⟨entered_directory _ _ _ entered, by simp [entered]⟩
  case case2 ih => exact ih there found
  case case3 directory _ _ ih =>
      refine ih ?_ found
      rcases List.eq_nil_or_concat' directory with rfl | ⟨outer, name, rfl⟩
      · exact there
      · rw [List.dropLast_concat]
        exact entered_directory _ _ _ ((entries_at_step _ _ _).mp there)
  case case5 missing _ =>
      cases found
      exact ⟨there, by simp [entryAt?, missing, turn]⟩
  case case7 held _ =>
      cases found
      exact ⟨there, by simp [entryAt?, held, turn]⟩
  case case9 held _ =>
      cases found
      exact ⟨there, by simp [entryAt?, held, turn]⟩
  case case11 held ih =>
      refine ih ((entries_at_step _ _ _).mpr ?_) found
      simp [entryAt?, held, turn]
  case case13 ih =>
      refine ih ?_ found
      split
      · rfl
      · exact there
  all_goals cases found

section Steps

variable (tree : Tree) (directory : List Bytes) (name : Bytes) (rest : List Bytes)
    (notHere : name ≠ Path.here) (notUp : name ≠ Path.up) (short : ¬ nameLimit < name.length)

include notHere notUp short

theorem follow_enters (links : Nat)
    (enters : turn (entryAt? tree.entries directory name) = .enters) :
    tree.follow links directory (name :: rest) = tree.follow links (directory ++ [name]) rest := by
  obtain ⟨inner, held⟩ := turn_enters _ enters
  rw [entryAt?] at held
  rw [follow, if_neg notHere, if_neg notUp, if_neg short, held]

theorem follow_jumps (links : Nat) (target : Bytes)
    (jumps : turn (entryAt? tree.entries directory name) = .jumps target) :
    tree.follow (links + 1) directory (name :: rest) =
      tree.follow links (if Path.isAbsolute target then [] else directory)
        (Path.parts target ++ rest) := by
  have held := turn_jumps _ target jumps
  rw [entryAt?] at held
  rw [follow, if_neg notHere, if_neg notUp, if_neg short, held]

theorem follow_last (links : Nat)
    (stays : ∀ target, turn (entryAt? tree.entries directory name) ≠ .jumps target) :
    tree.follow links directory [name] = .ok (.within directory name) := by
  cases here : turn (entryAt? tree.entries directory name) with
  | ends =>
      rw [follow, if_neg notHere, if_neg notUp, if_neg short]
      rcases turn_ends _ here with missing | ⟨number, held⟩ | ⟨given, held⟩
      · rw [entryAt?] at missing
        simp [missing]
      · rw [entryAt?] at held
        simp [held]
      · rw [entryAt?] at held
        simp [held]
  | enters =>
      rw [follow_enters tree directory name [] notHere notUp short links here, follow,
        List.getLast?_concat, List.dropLast_concat]
  | jumps target => exact absurd here (stays target)

end Steps

-- Every turn of a path is kept. Where one ends, anything may come up that is no link.
structure KeepsTurns (tree later : Tree) : Prop where
  enters : ∀ directory name, turn (entryAt? tree.entries directory name) = .enters →
    turn (entryAt? later.entries directory name) = .enters
  jumps : ∀ directory name target, turn (entryAt? tree.entries directory name) = .jumps target →
    turn (entryAt? later.entries directory name) = .jumps target
  ends : ∀ directory name target, turn (entryAt? tree.entries directory name) = .ends →
    turn (entryAt? later.entries directory name) ≠ .jumps target

theorem follow_turns (tree later : Tree) (links : Nat) (directory components : List Bytes)
    (place : Place) (keeps : KeepsTurns tree later)
    (found : tree.follow links directory components = .ok place) :
    later.follow links directory components = .ok place := by
  fun_induction Tree.follow tree links directory components
  case case1 =>
      rw [follow]
      exact found
  case case2 ih =>
      rw [follow, if_pos rfl]
      exact ih found
  case case3 ih =>
      rw [follow, if_neg (by decide), if_pos rfl]
      exact ih found
  case case5 links directory name rest notHere notUp short missing last =>
      cases found
      obtain rfl := List.isEmpty_iff.mp last
      refine follow_last later directory name notHere notUp short links fun target => ?_
      exact keeps.ends directory name target (by rw [entryAt?, missing]; rfl)
  case case7 links directory name rest notHere notUp short content held last =>
      cases found
      obtain rfl := List.isEmpty_iff.mp last
      refine follow_last later directory name notHere notUp short links fun target => ?_
      exact keeps.ends directory name target (by rw [entryAt?, held]; rfl)
  case case9 links directory name rest notHere notUp short given held last =>
      cases found
      obtain rfl := List.isEmpty_iff.mp last
      refine follow_last later directory name notHere notUp short links fun target => ?_
      exact keeps.ends directory name target (by rw [entryAt?, held]; rfl)
  case case11 links directory name rest notHere notUp short inner held ih =>
      rw [follow_enters later directory name rest notHere notUp short links]
      · exact ih found
      · exact keeps.enters directory name (by rw [entryAt?, held]; rfl)
  case case13 directory name rest notHere notUp short target held links ih =>
      rw [follow_jumps later directory name rest notHere notUp short links target]
      · exact ih found
      · exact keeps.jumps directory name target (by rw [entryAt?, held]; rfl)
  all_goals cases found

theorem find_follows (tree : Tree) (path : Bytes) (place : Place)
    (found : tree.find path = .ok place) :
    ∃ components, tree.follow linkLimit [] components = .ok place ∧
      ∀ later : Tree, later.follow linkLimit [] components = .ok place →
        later.find path = .ok place := by
  unfold find at found ⊢
  split at found
  · cases found
  split at found
  · cases found
  split at found
  · cases found
  · rename_i plain inhabited short
    refine ⟨_, found, fun later again => ?_⟩
    rw [if_neg plain, if_neg inhabited, if_neg short]
    exact again

theorem find_keeps (tree later : Tree) (keeps : KeepsTurns tree later) (path : Bytes)
    (place : Place) (found : tree.find path = .ok place) : later.find path = .ok place := by
  obtain ⟨components, followed, again⟩ := find_follows tree path place found
  exact again later (follow_turns tree later linkLimit [] components place keeps followed)

theorem find_settled (tree : Tree) (path : Bytes) (place : Place)
    (found : tree.find path = .ok place) : tree.Settled place := by
  obtain ⟨components, followed, -⟩ := find_follows tree path place found
  exact follow_settled tree linkLimit [] components place rfl followed

end HtmlTemplate.Files.Tree
