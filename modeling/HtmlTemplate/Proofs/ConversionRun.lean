import HtmlTemplate.Proofs.FileChanges
import HtmlTemplate.Proofs.ToolRun

/-!
What a conversion gives depends on the file alone, unless it cannot be read, and no file is changed.
Writing a text makes directories on the way and one file, of which it may write only a part.
-/

set_option autoImplicit false

namespace HtmlTemplate.Tool

open Files (Tree readText writeText loadTemplate)
open Files.Tree (ChangesOnly Clear Grows changes_refl changes_mono changes_trans grows_refl
  grows_trans)

variable {α β : Type}

def Unread (path : Bytes) (e : Error) : Prop :=
  ∃ fault, e = .during (.readingFile path) (.file fault)

-- A task that leaves the files alone and gives what they determine, unless a file cannot be read.
def Reads (tree : Tree) (path : Bytes) (given : Option α)
    (task : ExceptT Error (StateM Session) α) : Prop :=
  ∀ session, session.tree = tree →
    (perform task session).2.tree = tree ∧
      match (perform task session).1 with
      | .ok a => given = some a
      | .error e => given = none ∨ Unread path e

theorem reads_bind (tree : Tree) (path : Bytes) (given : Option α) (further : α → Option β)
    (task : ExceptT Error (StateM Session) α) (next : α → ExceptT Error (StateM Session) β)
    (start : Reads tree path given task)
    (rest : ∀ a, given = some a → Reads tree path (further a) (next a)) :
    Reads tree path (given.bind further) (task >>= next) := by
  intro session same
  obtain ⟨kept, outcome⟩ := start session same
  rw [perform_bind]
  generalize perform task session = reached at outcome kept ⊢
  obtain ⟨result, later⟩ := reached
  cases result with
  | ok a =>
      cases outcome
      exact rest a rfl later kept
  | error e =>
      refine ⟨kept, ?_⟩
      rcases outcome with missing | unread
      · exact .inl (by rw [missing]; rfl)
      · exact .inr unread

theorem reads_pure (tree : Tree) (path : Bytes) (a : α) : Reads tree path (some a) (pure a) :=
  fun _ same => ⟨same, rfl⟩

theorem reads_map (tree : Tree) (path : Bytes) (given : Option α) (f : α → β)
    (task : ExceptT Error (StateM Session) α) (start : Reads tree path given task) :
    Reads tree path (given.map f) (task >>= fun a => pure (f a)) := by
  rw [Option.map_eq_bind]
  exact reads_bind tree path given _ task _ start fun a _ => reads_pure tree path (f a)

theorem reads_hold (tree : Tree) (path : Bytes) (outcome : Except Error α) :
    Reads tree path outcome.toOption (hold outcome) := by
  intro session same
  rw [perform_hold]
  refine ⟨same, ?_⟩
  cases outcome with
  | ok a => rfl
  | error e => exact .inl rfl

theorem reads_tell (tree : Tree) (path : Bytes) (channel : Channel) (notices : List Notice) :
    Reads tree path (some ()) (tell channel notices) := by
  intro session same
  rw [perform_tell]
  exact ⟨same, rfl⟩

theorem reads_text (tree : Tree) (path : Bytes) :
    Reads tree path ((tree.read path).toOption.bind String.fromUTF8?) (readText path) := by
  rintro session rfl
  rw [readText, perform_doing, StateT.run_bind, read_bytes_run]
  cases session.mishap? with
  | some mishap => exact ⟨rfl, .inr ⟨mishap.fault, rfl⟩⟩
  | none =>
      dsimp only
      rw [pure_bind]
      cases session.tree.read path with
      | error fault => exact ⟨rfl, .inl rfl⟩
      | ok bytes =>
          have opened : (.ok bytes : Except Files.Fault ByteArray).toOption = some bytes := rfl
          rw [opened, Option.bind_some]
          dsimp only
          cases String.fromUTF8? bytes with
          | none => exact ⟨rfl, .inl rfl⟩
          | some text => exact ⟨rfl, rfl⟩

def Command.conversion (command : Command) (content : ByteArray) : Option String :=
  (String.fromUTF8? content).bind fun text =>
    match command with
    | .compile limit =>
      (Node.fromText text).toOption.bind fun node =>
        ((node.render Registry.empty limit).account []).outcome.toOption
    | .parse options compact =>
      (Node.parse options text).outcome.toOption.bind fun node =>
        (node.encode (if compact then Json.compact else Json.pretty)).toOption.map (· ++ "\n")

def Command.converted? (command : Command) (tree : Tree) (path : Bytes) : Option String :=
  (tree.read path).toOption.bind command.conversion

theorem reads_template (tree : Tree) (path : Bytes) :
    Reads tree path (((tree.read path).toOption.bind String.fromUTF8?).bind fun text =>
      (Node.fromText text).toOption) (loadTemplate path) := by
  refine reads_bind tree path _ _ _ _ (reads_text tree path) fun text _ => ?_
  cases Node.fromText text with
  | ok node => exact reads_pure tree path node
  | error e => exact reads_hold tree path (.error (.during (.loadingTemplate path) e))

theorem reads_convert (tree : Tree) (channel : Channel) (command : Command) (path : Bytes) :
    Reads tree path (command.converted? tree path) (command.convert channel path) := by
  cases command with
  | compile limit =>
      have converts : (Command.compile limit).converted? tree path =
          (((tree.read path).toOption.bind String.fromUTF8?).bind fun text =>
            (Node.fromText text).toOption).bind fun node => (some ()).bind fun _ =>
              ((node.render Registry.empty limit).account []).outcome.toOption := by
        simp only [Command.converted?, Option.bind_assoc, Option.bind_some]
        rfl
      rw [converts]
      refine reads_bind tree path _ _ _ _ (reads_template tree path) fun node _ => ?_
      refine reads_bind tree path _ _ _ _ (reads_tell tree path channel _) fun _ _ => ?_
      exact reads_hold tree path _
  | parse options compact =>
      have converts : (Command.parse options compact).converted? tree path =
          ((tree.read path).toOption.bind String.fromUTF8?).bind fun text =>
            (some ()).bind fun _ => (Node.parse options text).outcome.toOption.bind fun node =>
              (node.encode (if compact then Json.compact else Json.pretty)).toOption.map
                (· ++ "\n") := by
        simp only [Command.converted?, Option.bind_assoc, Option.bind_some]
        rfl
      rw [converts]
      refine reads_bind tree path _ _ _ _ (reads_text tree path) fun text _ => ?_
      refine reads_bind tree path _ _ _ _ (reads_tell tree path channel _) fun _ _ => ?_
      refine reads_bind tree path _ _ _ _ (reads_hold tree path _) fun node _ => ?_
      exact reads_map tree path _ (· ++ "\n") _ (reads_hold tree path _)

theorem unread_text (path : Bytes) (fault : Files.Fault) (session : Session)
    (failed : session.tree.read path = .error fault) :
    ∃ e later, perform (readText path) session = (.error e, later) ∧ Unread path e := by
  rw [readText, perform_doing, StateT.run_bind, read_bytes_run]
  cases session.mishap? with
  | some mishap => exact ⟨_, _, rfl, mishap.fault, rfl⟩
  | none =>
      rw [failed]
      exact ⟨_, _, rfl, fault, rfl⟩

theorem unread_convert (channel : Channel) (command : Command) (path : Bytes)
    (fault : Files.Fault) (session : Session) (failed : session.tree.read path = .error fault) :
    ∃ e, (perform (command.convert channel path) session).1 = .error e ∧ Unread path e := by
  obtain ⟨e, later, read, unread⟩ := unread_text path fault session failed
  refine ⟨e, ?_, unread⟩
  cases command with
  | compile limit =>
      have loaded : perform (loadTemplate path) session = (.error e, later) := by
        rw [loadTemplate, perform_bind, read]
      rw [Command.convert, compileFile, perform_bind, loaded]
  | parse options compact => rw [Command.convert, parseFile, perform_bind, read]

def Command.Converts (command : Command) (tree : Tree) (path : Bytes) :
    Except Error String → Prop
  | .ok text => ∃ content, tree.read path = .ok content ∧ command.conversion content = some text
  | .error e => Unread path e ∨
      ∃ content, tree.read path = .ok content ∧ command.conversion content = none

theorem convert_result (channel : Channel) (command : Command) (path : Bytes)
    (session later : Session) (outcome : Except Error String)
    (ran : perform (command.convert channel path) session = (outcome, later)) :
    later.tree = session.tree ∧ command.Converts session.tree path outcome := by
  obtain ⟨kept, given⟩ := reads_convert session.tree channel command path session rfl
  rw [ran] at kept given
  refine ⟨kept, ?_⟩
  cases read : session.tree.read path with
  | error fault =>
      obtain ⟨e, failed, unread⟩ := unread_convert channel command path fault session read
      rw [ran] at failed
      cases failed
      exact .inl unread
  | ok content =>
      have converts : command.converted? session.tree path = command.conversion content := by
        rw [Command.converted?, read]
        rfl
      rw [converts] at given
      cases outcome with
      | ok text => exact ⟨content, read, given⟩
      | error e =>
          rcases given with missing | unread
          · exact .inr ⟨content, read, missing⟩
          · exact .inl unread

theorem to_option_some {ε α : Type} (outcome : Except ε α) (a : α)
    (given : outcome.toOption = some a) : outcome = .ok a := by
  cases outcome with
  | ok other =>
      cases given
      rfl
  | error e => cases given

theorem convert_done (channel : Channel) (command : Command) (path : Bytes) (session : Session)
    (content : ByteArray) (text : String) (calm : session.mishap? = none)
    (read : session.tree.read path = .ok content)
    (converts : command.conversion content = some text) :
    ∃ notices, perform (command.convert channel path) session =
      (.ok text, (session.behind 1).told channel notices) := by
  unfold Command.conversion at converts
  obtain ⟨source, decoded, converts⟩ := Option.bind_eq_some_iff.mp converts
  have offered : session.Offers path source := by
    refine ⟨?_, calm⟩
    rw [Session.Holds, read]
    unfold String.fromUTF8? at decoded
    split at decoded
    · cases decoded
      rfl
    · cases decoded
  cases command with
  | compile limit =>
      obtain ⟨node, loaded, rendered⟩ := Option.bind_eq_some_iff.mp converts
      have ran := perform_compile_file path source session offered channel limit node
        (to_option_some _ _ loaded)
      rw [to_option_some _ _ rendered] at ran
      exact ⟨_, ran⟩
  | parse options compact =>
      obtain ⟨node, parsed, encoded⟩ := Option.bind_eq_some_iff.mp converts
      obtain ⟨json, written, rfl⟩ := Option.map_eq_some_iff.mp encoded
      exact ⟨_, perform_parse_file path source session offered channel options compact json node
        (to_option_some _ _ parsed) (to_option_some _ _ written)⟩

def Extends (operation : StateM Session α) : Prop :=
  ∀ session, ChangesOnly ∅ session.tree (operation.run session).run.2.tree

theorem extends_pure (a : α) : Extends (pure a) :=
  fun session => changes_refl session.tree

theorem extends_bind (operation : StateM Session α) (next : α → StateM Session β)
    (start : Extends operation) (rest : ∀ a, Extends (next a)) : Extends (operation >>= next) := by
  intro session
  have first := start session
  have second := rest (operation.run session).run.1 (operation.run session).run.2
  exact changes_trans ∅ _ _ _ first second

theorem extends_attempt (failed : Mishap → StateM Session α) (operation : StateM Session α)
    (failing : ∀ mishap, Extends (failed mishap)) (going : Extends operation) :
    Extends (Session.attempt failed operation) := by
  intro session
  rw [attempt_run]
  cases session.mishap? with
  | some mishap => exact failing mishap (session.behind 1)
  | none => exact going (session.behind 1)

theorem extends_is_directory (path : Bytes) :
    Extends (Files.System.isDirectory path : StateM Session Bool) := by
  refine extends_attempt _ _ (fun _ => extends_pure false) ?_
  exact fun session => changes_refl session.tree

theorem extends_make_directory (path : Bytes) :
    Extends (Files.System.makeDirectory path : StateM Session _) := by
  intro session
  have ran := wholly_run session fun tree => (tree.makeDirectory path).map (·, ())
  change ChangesOnly ∅ _ (StateT.run (Session.wholly _) session).run.2.tree
  rw [ran]
  cases session.mishap? with
  | some mishap => exact changes_refl session.tree
  | none =>
      cases later : session.tree.makeDirectory path with
      | ok tree => exact Files.Tree.make_directory_changes session.tree tree path later
      | error fault => exact changes_refl session.tree

theorem extends_tolerate (path : Bytes) (outcome : Except Files.Fault Unit) :
    Extends (Files.tolerate path outcome : StateM Session _) := by
  cases outcome with
  | ok done => exact extends_pure _
  | error fault =>
      refine extends_bind _ _ (extends_is_directory path) fun there => ?_
      cases there <;> exact extends_pure _

theorem extends_make_directories (path : Bytes) (steps : Nat) :
    Extends (Files.makeDirectories path steps : StateM Session _) := by
  induction steps generalizing path with
  | zero => exact extends_pure _
  | succ steps ih =>
      unfold Files.makeDirectories
      split
      · exact extends_pure _
      · refine extends_bind _ _ (extends_make_directory path) fun outcome => ?_
        split
        · split
          · exact extends_pure _
          · rename_i parent _
            refine extends_bind _ _ (ih parent) fun inner => ?_
            split
            · exact extends_pure _
            · refine extends_bind _ _ (extends_make_directory path) fun made => ?_
              exact extends_tolerate path made
        · exact extends_tolerate path _

-- Some content has been poured into what is opened at a path: all of it, or a part before a fault.
def Poured (path : Bytes) (content : ByteArray) (tree later : Tree) (done : Bool) : Prop :=
  ∃ middle opened part, tree.openFile path = .ok (middle, opened) ∧
    later = middle.pour opened part ∧
    if done then part = content else ∃ count, part = content.extract 0 count

theorem write_bytes_run (path : Bytes) (content : ByteArray) (session : Session) :
    let ended := ((Files.System.writeBytes path content : StateM Session _).run session).run
    ended.1.isOk = false ∧ ended.2.tree = session.tree ∨
      Poured path content session.tree ended.2.tree ended.1.isOk := by
  intro ended
  have split : ended =
      ((Session.wholly (·.openFile path) >>= _ : StateM Session _).run session).run := rfl
  rw [split, StateT.run_bind, wholly_run]
  cases session.mishap? with
  | some mishap => exact .inl ⟨rfl, rfl⟩
  | none =>
      cases done : session.tree.openFile path with
      | error fault => exact .inl ⟨rfl, rfl⟩
      | ok reached =>
          obtain ⟨middle, opened⟩ := reached
          right
          dsimp only
          rw [pure_bind]
          dsimp only
          unfold Session.pour
          rw [attempt_run]
          cases ((session.behind 1).withTree middle).mishap? with
          | some mishap =>
              exact ⟨middle, opened, _, done, rfl, mishap.written, rfl⟩
          | none => exact ⟨middle, opened, _, done, rfl, rfl⟩

-- The directories are made first. If this does not fail, the rest is the writing of the file.
theorem write_text_ends (path : Bytes) (text : String) (session later : Session)
    (outcome : Except Error Unit)
    (done : perform (writeText path text) session = (outcome, later)) :
    outcome.isOk = false ∧ ChangesOnly ∅ session.tree later.tree ∨
      ∃ ready, ChangesOnly ∅ session.tree ready ∧
        Poured path text.toUTF8 ready later.tree outcome.isOk := by
  have written (middle : Session) (made : ChangesOnly ∅ session.tree middle.tree)
      (rest : perform (Files.doing (.writingFile path)
        (Files.System.writeBytes path text.toUTF8)) middle = (outcome, later)) :
      outcome.isOk = false ∧ ChangesOnly ∅ session.tree later.tree ∨
        ∃ ready, ChangesOnly ∅ session.tree ready ∧
          Poured path text.toUTF8 ready later.tree outcome.isOk := by
    have ended := write_bytes_run path text.toUTF8 middle
    rw [perform_doing] at rest
    generalize ((Files.System.writeBytes path text.toUTF8 : StateM Session _).run middle).run =
      reached at ended rest
    obtain ⟨result, final⟩ := reached
    cases rest
    have same : (result.mapError fun fault =>
        Error.during (.writingFile path) (.file fault)).isOk = result.isOk := by
      cases result <;> rfl
    rw [same]
    rcases ended with ⟨failed, kept⟩ | poured
    · refine .inl ⟨failed, ?_⟩
      rw [kept]
      exact made
    · exact .inr ⟨middle.tree, made, poured⟩
  unfold writeText at done
  split at done
  · exact written session (changes_refl session.tree) done
  · rename_i parent _
    split at done
    · exact written session (changes_refl session.tree) done
    · have made := extends_make_directories parent (parent.length + 1) session
      rw [perform_bind, perform_doing] at done
      generalize ((Files.makeDirectories parent (parent.length + 1) : StateM Session _).run
        session).run = reached at made done
      obtain ⟨result, middle⟩ := reached
      cases result with
      | ok there => exact written middle made done
      | error fault =>
          cases done
          exact .inl ⟨rfl, made⟩

theorem poured_grows (path : Bytes) (content : ByteArray) (tree later : Tree) (done : Bool)
    (poured : Poured path content tree later done) : Grows tree later := by
  obtain ⟨middle, opened, part, openedHere, rfl, -⟩ := poured
  obtain ⟨-, -, -, grows, -⟩ := Files.Tree.open_file_place tree middle path opened openedHere
  exact grows_trans _ _ _ grows (Files.Tree.pour_grows middle opened part)

theorem write_text_grows (path : Bytes) (text : String) (session : Session) :
    Grows session.tree (perform (writeText path text) session).2.tree := by
  rcases write_text_ends path text session _ _ rfl with ⟨-, changes⟩ | ⟨ready, made, poured⟩
  · exact changes.grows
  · exact grows_trans _ _ _ made.grows (poured_grows path _ ready _ _ poured)

theorem perform_write_text (path : Bytes) (text : String) (session later : Session)
    (done : perform (writeText path text) session = (.ok (), later))
    (keeps : later.tree.Keeps path) : later.Holds path text := by
  rcases write_text_ends path text session later _ done with
    ⟨failed, -⟩ | ⟨ready, -, middle, opened, part, openedHere, same, whole⟩
  · cases failed
  · cases whole
    rw [Session.Holds, same]
    refine Files.Tree.poured_read ready middle path opened _ openedHere ?_
    intro directory name given found special
    have poured : Poured path text.toUTF8 ready later.tree true :=
      ⟨middle, opened, _, openedHere, same, rfl⟩
    have grows := poured_grows path _ ready later.tree _ poured
    refine Files.Tree.keeps_place later.tree path keeps directory name given
      (Files.Tree.grows_find _ _ grows _ _ found) ?_
    rw [grows.kept directory name (by simp [special]), special]

theorem write_text_changes (path : Bytes) (text : String) (session later : Session)
    (outcome : Except Error Unit)
    (done : perform (writeText path text) session = (outcome, later)) :
    outcome.isOk = false ∧ ChangesOnly ∅ session.tree later.tree ∨
      ∃ directory name, later.tree.find path = .ok (.within directory name) ∧
        (session.tree.Clear directory name →
          ChangesOnly {(directory, name)} session.tree later.tree ∧
            ∃ part, later.tree.fileAt? directory name = some part ∧
              if outcome.isOk then part = text.toUTF8
              else ∃ count, part = text.toUTF8.extract 0 count) := by
  rcases write_text_ends path text session later outcome done with failed | ⟨ready, made, poured⟩
  · exact .inl failed
  · have grows := poured_grows path _ ready later.tree _ poured
    obtain ⟨middle, opened, part, openedHere, same, extent⟩ := poured
    obtain ⟨directory, name, found, -⟩ :=
      Files.Tree.open_file_place ready middle path opened openedHere
    refine .inr ⟨directory, name, Files.Tree.grows_find _ _ grows _ _ found, fun clear => ?_⟩
    have still := Files.Tree.clear_grows _ _ made.grows directory name clear
    obtain ⟨held, changes⟩ := Files.Tree.poured_changes ready middle path opened part directory name
      openedHere found still
    rw [← same] at held changes
    have before := changes_mono ∅ {(directory, name)} _ _ (Set.empty_subset _) made
    exact ⟨changes_trans _ _ _ _ before changes, part, held, extent⟩

theorem make_directories_there (path : Bytes) (steps : Nat) (session : Session)
    (inhabited : path ≠ []) (there : session.tree.makeDirectory path = .error .alreadyExists)
    (seen : session.tree.isDirectory path) (first : session.mishap? = none)
    (second : (session.behind 1).mishap? = none) :
    (Files.makeDirectories path (steps + 1) : StateM Session _).run session =
      pure (.ok (), session.behind 2) := by
  have made : (Files.System.makeDirectory path : StateM Session _).run session =
      pure (.error .alreadyExists, session.behind 1) := by
    refine (wholly_run session fun tree => (tree.makeDirectory path).map (·, ())).trans ?_
    rw [first, there]
    rfl
  have asked : (Files.System.isDirectory path : StateM Session Bool).run (session.behind 1) =
      pure (session.tree.isDirectory path, session.behind 2) := by
    refine (attempt_run (session.behind 1) _ _).trans ?_
    rw [second, behind_next]
    rfl
  rw [seen] at asked
  rw [Files.makeDirectories, if_neg inhabited, StateT.run_bind, made, pure_bind]
  dsimp only
  rw [Files.tolerate, StateT.run_bind, asked, pure_bind]
  rfl

-- What is written of a text when this may be disturbed.
def Mishap.part (mishap : Option Mishap) (text : String) : ByteArray :=
  match mishap with
  | none => text.toUTF8
  | some mishap => text.toUTF8.extract 0 mishap.written

theorem write_text_opened (path parent : Bytes) (text : String) (session : Session) (middle : Tree)
    (opened : Option Nat) (above : Files.Path.parent? path = some parent) (inhabited : parent ≠ [])
    (there : session.tree.makeDirectory parent = .error .alreadyExists)
    (seen : session.tree.isDirectory parent) (calm : session.interrupted 3 = false)
    (opens : session.tree.openFile path = .ok (middle, opened)) :
    let last := (session.behind 3).mishap?
    ∃ outcome, perform (writeText path text) session =
        (outcome, (session.behind 4).withTree (middle.pour opened (Mishap.part last text))) ∧
      outcome.isOk = last.isNone := by
  intro last
  have made := make_directories_there parent parent.length session inhabited there seen
    (calm_behind session 3 0 calm (by omega)) (calm_behind session 3 1 calm (by omega))
  have opening := wholly_run (session.behind 2) (·.openFile path)
  have still : (session.behind 2).tree.openFile path = .ok (middle, opened) := opens
  rw [calm_behind session 3 2 calm (by omega), still] at opening
  have ready : perform (Files.doing (.creatingDirectory parent)
      (Files.makeDirectories parent (parent.length + 1))) session = (.ok (), session.behind 2) := by
    rw [perform_doing, made]
    rfl
  unfold writeText
  rw [above]
  dsimp only
  rw [if_neg inhabited, perform_ok ready, perform_doing]
  have behind : (session.behind 2).behind 1 = session.behind 3 := by simp [Session.behind]
  rw [behind] at opening
  have written : (Files.System.writeBytes path text.toUTF8 : StateM Session _).run
      (session.behind 2) = (Session.pour opened text.toUTF8).run
        ((session.behind 3).withTree middle) := by
    change StateT.run (Session.wholly _ >>= _) _ = _
    rw [StateT.run_bind, opening]
    rfl
  have same : ((session.behind 3).withTree middle).mishap? = last := rfl
  have ended : ((session.behind 3).withTree middle).behind 1 =
      (session.behind 4).withTree middle := by simp [Session.behind, Session.withTree]
  rw [written, Session.pour, attempt_run, same, ended]
  cases last with
  | none => exact ⟨_, rfl, rfl⟩
  | some mishap => exact ⟨_, rfl, rfl⟩
end HtmlTemplate.Tool
