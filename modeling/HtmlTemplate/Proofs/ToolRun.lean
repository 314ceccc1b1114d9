import HtmlTemplate.Tool.Session

set_option autoImplicit false

namespace HtmlTemplate.Tool

open Files (readText writeText loadTemplate)

variable {α β : Type}

-- The outcome of a task in a session, and the session afterwards.
def perform (task : ExceptT Error (StateM Session) α) (session : Session) :
    Except Error α × Session :=
  (task.run.run session).run

theorem perform_bind (task : ExceptT Error (StateM Session) α)
    (next : α → ExceptT Error (StateM Session) β) (session : Session) :
    perform (task >>= next) session =
      match perform task session with
      | (.ok a, later) => perform (next a) later
      | (.error e, later) => (.error e, later) := by
  simp only [perform, ExceptT.run_bind, StateT.run_bind]
  rcases (StateT.run task.run session) with ⟨outcome, later⟩
  cases outcome <;> rfl

theorem perform_ok {task : ExceptT Error (StateM Session) α}
    {next : α → ExceptT Error (StateM Session) β} {session later : Session} {a : α}
    (done : perform task session = (.ok a, later)) :
    perform (task >>= next) session = perform (next a) later := by
  rw [perform_bind, done]

def Session.told (session : Session) (channel : Channel) (notices : List Notice) : Session :=
  { session with errors := (channel.lines notices).reverse ++ session.errors }

theorem perform_tell (channel : Channel) (notices : List Notice) (session : Session) :
    perform (tell channel notices) session = (.ok (), session.told channel notices) := by
  unfold tell Session.told
  generalize channel.lines notices = lines
  induction lines generalizing session with
  | nil => rfl
  | cons line rest ih =>
      have first : perform (ExceptT.lift (Console.printError line)) session =
          (.ok (), { session with errors := line :: session.errors }) := rfl
      refine (perform_ok first).trans ?_
      rw [ih]
      simp

theorem perform_hold (outcome : Except Error α) (session : Session) :
    perform (hold outcome) session = (outcome, session) := by
  cases outcome <;> rfl

def Session.Holds (session : Session) (path : Bytes) (text : String) : Prop :=
  session.tree.read path = .ok text.toUTF8

-- A text that is held, and nothing goes wrong if it is read next.
structure Session.Offers (session : Session) (path : Bytes) (text : String) : Prop where
  holds : session.Holds path text
  calm : session.mishap? = none

def Session.interrupted (session : Session) (operations : Nat) : Bool :=
  (session.mishaps.take operations).any Option.isSome

theorem interrupted_next (session : Session) (operations : Nat) :
    session.interrupted (operations + 1) =
      (session.mishap?.isSome || (session.behind 1).interrupted operations) := by
  unfold Session.interrupted Session.mishap? Session.behind
  cases session.mishaps with
  | nil => simp
  | cons next rest => simp

theorem behind_next (session : Session) (operations : Nat) :
    (session.behind 1).behind operations = session.behind (operations + 1) := by
  simp [Session.behind]

theorem interrupted_mono (session : Session) (fewer operations : Nat) (less : fewer ≤ operations)
    (calm : session.interrupted operations = false) : session.interrupted fewer = false := by
  rw [Session.interrupted, List.any_eq_false] at calm ⊢
  intro mishap member
  exact calm mishap ((List.take_subset_take_left session.mishaps less) member)

theorem calm_behind (session : Session) (operations passed : Nat)
    (calm : session.interrupted operations = false) (early : passed < operations) :
    (session.behind passed).mishap? = none := by
  rw [Session.interrupted, List.any_eq_false] at calm
  rw [Session.mishap?, Session.behind, List.head?_drop]
  cases next : session.mishaps[passed]? with
  | none => rfl
  | some mishap =>
      have member : mishap ∈ session.mishaps.take operations :=
        List.mem_of_getElem? ((List.getElem?_take_of_lt early).trans next)
      simpa using calm mishap member

section Operations

variable (session : Session)

theorem attempt_run (failed : Mishap → StateM Session α) (operation : StateM Session α) :
    (Session.attempt failed operation).run session =
      match session.mishap? with
      | some mishap => (failed mishap).run (session.behind 1)
      | none => operation.run (session.behind 1) := by
  unfold Session.attempt
  simp only [StateT.run_bind, StateT.run_get, StateT.run_set, pure_bind]
  cases session.mishap? <;> rfl

theorem wholly_run (operation : Files.Tree → Except Files.Fault (Files.Tree × α)) :
    (Session.wholly operation).run session =
      match session.mishap?, operation session.tree with
      | some mishap, _ => pure (.error mishap.fault, session.behind 1)
      | none, .ok (tree, a) => pure (.ok a, (session.behind 1).withTree tree)
      | none, .error fault => pure (.error fault, session.behind 1) := by
  unfold Session.wholly
  rw [attempt_run]
  cases session.mishap? with
  | some mishap => rfl
  | none =>
      have unmoved : (session.behind 1).tree = session.tree := rfl
      simp only [StateT.run_bind, StateT.run_get, pure_bind, unmoved]
      cases operation session.tree <;> rfl

theorem read_bytes_run (path : Bytes) :
    (Files.System.readBytes path : StateM Session _).run session =
      match session.mishap? with
      | some mishap => pure (.error mishap.fault, session.behind 1)
      | none => pure (session.tree.read path, session.behind 1) := by
  have read := wholly_run session fun tree => (tree.read path).map (tree, ·)
  refine read.trans ?_
  cases session.mishap? with
  | some mishap => rfl
  | none => cases session.tree.read path <;> rfl

end Operations

theorem perform_doing (activity : Activity) (operation : StateM Session (Except Files.Fault α))
    (session : Session) :
    perform (Files.doing activity operation) session =
      ((operation.run session).run.1.mapError fun fault => .during activity (.file fault),
        (operation.run session).run.2) := rfl

theorem utf8_read (text : String) : String.fromUTF8? text.toUTF8 = some text :=
  dif_pos text.isValidUTF8

section Reading

variable (path : Bytes) (text : String) (session : Session) (offered : session.Offers path text)

include offered

theorem perform_read_text : perform (readText path) session = (.ok text, session.behind 1) := by
  have read : (Files.System.readBytes path : StateM Session _).run session =
      pure (.ok text.toUTF8, session.behind 1) := by
    rw [read_bytes_run, offered.calm, ← offered.holds]
  rw [readText, perform_doing, StateT.run_bind, read]
  simp only [pure_bind, utf8_read]
  rfl

theorem perform_load_template :
    perform (loadTemplate path) session =
      ((Node.fromText text).mapError (.during (.loadingTemplate path)), session.behind 1) := by
  rw [loadTemplate, perform_ok (perform_read_text path text session offered)]
  cases Node.fromText text <;> rfl

theorem perform_parse_file (channel : Channel) (options : Dom.Options) (dense : Bool)
    (json : String) (node : Node) (parsed : (Node.parse options text).outcome = .ok node)
    (encoded : node.encode (if dense then Json.compact else Json.pretty) = .ok json) :
    perform (parseFile channel options dense path) session =
      (.ok (json ++ "\n"),
        (session.behind 1).told channel (Node.parse options text).notices) := by
  let notices := (Node.parse options text).notices
  rw [parseFile, perform_ok (perform_read_text path text session offered),
    perform_ok (perform_tell channel notices (session.behind 1)), parsed,
    perform_ok (perform_hold (.ok node) _), encoded,
    perform_ok (perform_hold (.ok json) _)]
  rfl

theorem perform_compile_file (channel : Channel) (limit : Nat) (node : Node)
    (read : Node.fromText text = .ok node) :
    perform (compileFile channel limit path) session =
      (((node.render Registry.empty limit).account []).outcome,
        (session.behind 1).told channel (unknownTemplates path node)) := by
  have loaded := perform_load_template path text session offered
  rw [read] at loaded
  rw [compileFile, perform_ok loaded,
    perform_ok (perform_tell channel (unknownTemplates path node) (session.behind 1))]
  exact perform_hold _ _

theorem perform_compile_refused (channel : Channel) (limit : Nat) (e : Error)
    (read : Node.fromText text = .error e) :
    perform (compileFile channel limit path) session =
      (.error (.during (.loadingTemplate path) e), session.behind 1) := by
  have loaded := perform_load_template path text session offered
  rw [read] at loaded
  rw [compileFile, perform_bind, loaded]
  rfl

end Reading

end HtmlTemplate.Tool
