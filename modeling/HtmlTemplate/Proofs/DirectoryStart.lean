import HtmlTemplate.Proofs.DirectoryLoop

set_option autoImplicit false

namespace HtmlTemplate.Tool

open Files (Entry Tree)
open Files.Path (join)

-- An operation that gives something after a number of steps, or fails if one is disturbed.
def Yields {α ε : Type} (operation : StateM Session (Except ε α)) (count : Nat) (given : α)
    (session : Session) : Prop :=
  ∃ outcome later, operation.run session = pure (outcome, later) ∧ later.tree = session.tree ∧
    (session.interrupted count → outcome.isOk = false) ∧
    (session.interrupted count = false → outcome = .ok given ∧ later = session.behind count)

theorem yields_given {α ε : Type} (given : α) (session : Session) :
    Yields (return .ok given : StateM Session (Except ε α)) 0 given session :=
  ⟨_, _, rfl, rfl, nofun, fun _ => ⟨rfl, rfl⟩⟩

theorem yields_attempt {α ε : Type} (failed : Mishap → ε)
    (operation : StateM Session (Except ε α)) (count : Nat) (given : α) (session : Session)
    (rest : Yields operation count given (session.behind 1)) :
    Yields (Session.attempt (fun mishap => return .error (failed mishap)) operation) (count + 1)
      given session := by
  unfold Yields
  rw [attempt_run, interrupted_next]
  cases session.mishap? with
  | some mishap => exact ⟨_, _, rfl, rfl, fun _ => rfl, nofun⟩
  | none =>
      obtain ⟨outcome, later, ran, kept, result⟩ := rest
      rw [behind_next] at result
      exact ⟨outcome, later, ran, kept, result⟩

theorem names_yielded (path : Bytes) (given : List (Bytes × Bool)) (session : Session)
    (named : session.tree.names path = .ok given) :
    Yields (Session.listNames path) 3 given session := by
  have asked (later : Session) : Yields (Session.attempt
      (fun mishap => return .error (Files.Listing.reading, mishap.fault))
      (Session.attempt (fun mishap => return .error (.asking, mishap.fault))
        (return .ok given))) 2 given later :=
    yields_attempt _ _ 1 given later (yields_attempt _ _ 0 given _ (yields_given given _))
  unfold Yields Session.listNames
  rw [StateT.run_bind, wholly_run, interrupted_next, named]
  cases session.mishap? with
  | some mishap => exact ⟨_, _, rfl, rfl, fun _ => rfl, nofun⟩
  | none =>
      obtain ⟨outcome, later, ran, kept, result⟩ := asked (session.behind 1)
      rw [behind_next] at result
      exact ⟨outcome, later, ran, kept, result⟩

def marked (entries : List (Bytes × Entry)) : List (Bytes × Bool) :=
  entries.map fun (name, entry) => (name, entry matches .file _)

theorem chosen_names (entries : List (Bytes × Entry)) (chosen : Bytes → Bool) :
    ((marked entries).filter fun (name, plain) => plain && chosen name).map Prod.fst =
      (fileNames entries).filter chosen := by
  induction entries with
  | nil => rfl
  | cons first rest ih =>
      obtain ⟨name, entry⟩ := first
      cases entry <;> cases held : chosen name <;> simp_all [marked, fileNames]

theorem perform_lift {α : Type} (operation : StateM Session α) (session later : Session) (a : α)
    (ran : operation.run session = pure (a, later)) :
    perform (ExceptT.lift operation) session = (.ok a, later) := by
  unfold perform
  rw [ExceptT.run_lift, StateT.run_map, ran]
  rfl

theorem perform_files (directory : Bytes) (extension : String) (entries : List (Bytes × Entry))
    (session : Session) (there : session.tree.get directory = .ok (.directory entries)) :
    ∃ outcome later,
      perform (Files.filesWithExtension directory extension) session = (outcome, later) ∧
        later.tree = session.tree ∧
        (session.interrupted 3 → outcome.isOk = false) ∧
        (session.interrupted 3 = false → later = session.behind 3 ∧
          outcome = .ok ((namesWithExtension entries extension).map (join directory))) := by
  have named : session.tree.names directory = .ok (marked entries) := by
    rw [Tree.names, there]
    rfl
  obtain ⟨outcome, later, ran, kept, failing, going⟩ := names_yielded directory _ session named
  have listed := perform_lift (Files.System.names directory) session later outcome ran
  rw [Files.filesWithExtension, perform_ok listed]
  cases outcome with
  | error failure =>
      refine ⟨_, later, rfl, kept, fun _ => rfl, fun calm => ?_⟩
      cases (going calm).1
  | ok given =>
      refine ⟨_, later, rfl, kept, fun disturbed => ?_, fun calm => ?_⟩
      · cases failing disturbed
      · obtain ⟨same, behind⟩ := going calm
        cases same
        refine ⟨behind, ?_⟩
        rw [namesWithExtension, ← chosen_names]

-- The exit code of a command line in a session, and the session afterwards.
def Session.ending (session : Session) (arguments : List Bytes) : Nat × Session :=
  ((runArguments arguments : StateM Session Nat).run session).run

theorem ending_ran (arguments : List Bytes) (request : Request) (session later : Session)
    (outcome : Except Error Unit) (asked : Request.ofArguments? arguments = some request)
    (ran : perform request.run session = (outcome, later)) :
    (session.ending arguments).1 = (if outcome.isOk then 0 else 1) ∧
      (session.ending arguments).2.tree = later.tree := by
  have opened : StateT.run (ExceptT.run request.run) session = pure (outcome, later) := ran
  unfold Session.ending runArguments
  rw [asked, StateT.run_bind, opened, pure_bind]
  cases outcome <;> exact ⟨rfl, rfl⟩

theorem convert_directory (channel : Channel) (command : Command) (path : Bytes)
    (entries : List (Bytes × Entry)) (session : Session)
    (there : session.tree.get path = .ok (.directory entries)) :
    ∃ e later, perform (command.convert channel path) session = (.error e, later) ∧
      later.tree = session.tree := by
  have failed : session.tree.read path = .error .isADirectory := by rw [Tree.read, there]
  obtain ⟨e, outcome, -⟩ := unread_convert channel command path _ session failed
  have kept := (convert_result channel command path session _ _ rfl).1
  exact ⟨e, _, Prod.ext outcome rfl, kept⟩

section Start

variable (request : Request) (session : Session) (entries : List (Bytes × Entry))
    (there : session.tree.get request.input = .ok (.directory entries))

include there

theorem perform_seen :
    perform (ExceptT.lift (Files.System.isDirectory request.input)) session =
      (.ok session.mishap?.isNone, session.behind 1) := by
  refine perform_lift _ session _ _ ?_
  have held : session.tree.isDirectory request.input = true := by rw [Tree.isDirectory, there]
  refine (attempt_run session _ _).trans ?_
  cases session.mishap? with
  | some mishap => rfl
  | none =>
      let ask : StateM Session Bool := do return (← get).tree.isDirectory request.input
      have ran : ask.run (session.behind 1) =
          pure (session.tree.isDirectory request.input, session.behind 1) := rfl
      rw [held] at ran
      exact ran

theorem run_disturbed (disturbed : session.interrupted 4) :
    ∃ e later, perform request.run session = (.error e, later) ∧ later.tree = session.tree := by
  rw [interrupted_next] at disturbed
  rw [Request.run, perform_ok (perform_seen request session entries there)]
  cases next : session.mishap? with
  | some mishap =>
      let channel := Channel.quiet.setVerbose request.verbose
      obtain ⟨e, later, failed, kept⟩ := convert_directory channel request.command request.input
        entries (session.behind 1) there
      rw [if_neg (by simp), perform_bind, failed]
      exact ⟨e, later, rfl, kept⟩
  | none =>
      obtain ⟨outcome, later, listed, kept, failing, -⟩ := perform_files request.input
        request.command.inputExtension entries (session.behind 1) there
      rw [next] at disturbed
      rw [if_pos (by rfl), perform_bind, listed]
      cases outcome with
      | ok paths => cases failing (by simpa using disturbed)
      | error e => exact ⟨e, later, rfl, kept⟩

theorem run_directory (calm : session.interrupted 4 = false) :
    let names := namesWithExtension entries request.command.inputExtension
    let channel := Channel.quiet.setVerbose request.verbose
    ∃ start, start.tree = session.tree ∧ (names ≠ [] → start = session.behind 4) ∧
      perform request.run session = perform (request.conversions channel names) start := by
  intro names channel
  rw [interrupted_next, Bool.or_eq_false_iff] at calm
  have next : session.mishap?.isNone = true := by
    cases held : session.mishap? with
    | none => rfl
    | some mishap => simp [held] at calm
  obtain ⟨outcome, later, listed, kept, -, going⟩ := perform_files request.input
    request.command.inputExtension entries (session.behind 1) there
  obtain ⟨behind, rfl⟩ := going calm.2
  rw [Request.run, perform_ok (perform_seen request session entries there), next, if_pos rfl,
    perform_ok listed]
  rw [behind_next] at behind
  split
  · let notices := [Notice.noInputs request.command.inputExtension request.input]
    refine ⟨later.told channel notices, kept, fun inhabited => absurd ?_ inhabited,
      perform_ok (perform_tell channel notices later)⟩
    rename_i empty
    exact List.map_eq_nil_iff.mp (List.isEmpty_iff.mp empty)
  · exact ⟨later, kept, fun _ => behind, rfl⟩

end Start

end HtmlTemplate.Tool
