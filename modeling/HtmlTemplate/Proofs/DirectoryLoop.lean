import HtmlTemplate.Proofs.ConversionRun
import HtmlTemplate.Proofs.InputNames

/-!
Inputs of a directory that are converted one after the other, up to the first that fails. What a
conversion writes is neither an input nor the output of another one.
-/

set_option autoImplicit false

namespace HtmlTemplate.Tool

open Files (Tree writeText)
open Files.Path (IsName)
open Files.Tree (ChangesOnly Grows)

def Request.conversions (request : Request) (channel : Channel) (names : List Bytes) :
    ExceptT Error (StateM Session) Unit :=
  convertInto channel request.command request.target (names.map request.inputPath)

def Request.announced (request : Request) (channel : Channel) (name : Bytes)
    (session : Session) : Session :=
  session.told channel [.converting (request.inputPath name) (request.outputPath name)]

-- Some names are those of different files in the input directory, which stands at `home`.
structure Request.Listed (request : Request) (tree : Tree) (home names : List Bytes) : Prop where
  found : ∃ place, tree.find request.input = .ok place ∧ place.home = home
  named : ∀ name ∈ names, IsName name ∧ request.IsInput name
  present : ∀ name ∈ names, ∃ content, tree.fileAt? home name = some content
  distinct : names.Nodup
  apart : ∀ name ∈ names, ∀ other ∈ names,
    request.outputName name = request.outputName other → name = other
  unlinked : tree.Unlinked

def Request.outputs (request : Request) (tree : Tree) (names : List Bytes) :
    Set (List Bytes × Bytes) :=
  {place | ∃ name ∈ names, tree.find (request.outputPath name) = .ok (.within place.1 place.2)}

-- Where the outputs of some inputs come to stand, there is nothing in their way before.
def Request.Cleared (request : Request) (tree final : Tree) (names : List Bytes) : Prop :=
  ∀ name ∈ names, ∀ directory called,
    final.find (request.outputPath name) = .ok (.within directory called) →
      tree.Clear directory called

def Request.Written (request : Request) (tree final : Tree) (name : Bytes) : Prop :=
  ∃ content text place, tree.read (request.inputPath name) = .ok content ∧
    request.command.conversion content = some text ∧
    final.find (request.outputPath name) = .ok (.within place (request.outputName name)) ∧
    final.fileAt? place (request.outputName name) = some text.toUTF8

section Loop

variable (request : Request) (channel : Channel)

theorem perform_cons (name : Bytes) (rest : List Bytes) (session : Session) :
    perform (request.conversions channel (name :: rest)) session =
      match perform (request.conversions channel [name]) session with
      | (.ok _, later) => perform (request.conversions channel rest) later
      | (.error e, later) => (.error e, later) := by
  have parted : request.conversions channel (name :: rest) =
      (request.conversions channel [name] >>= fun _ => request.conversions channel rest) := by
    simp only [Request.conversions, List.map_cons, List.map_nil, convertInto]
    cases Files.Path.stem? (request.inputPath name) with
    | none => rfl
    | some stem => simp only [bind_assoc, pure_bind]
  rw [parted, perform_bind]
  rcases perform (request.conversions channel [name]) session with ⟨_ | _, _⟩ <;> rfl

-- An input is converted from the tree as it is, and then its text is written.
theorem perform_single (name : Bytes) (named : IsName name) (session later : Session)
    (outcome : Except Error Unit)
    (ran : perform (request.conversions channel [name]) session = (outcome, later)) :
    let path := request.inputPath name
    let converting := perform (request.command.convert channel path)
      (request.announced channel name session)
    (∃ e, outcome = .error e ∧ converting = (.error e, later) ∧ later.tree = session.tree ∧
        (Unread path e ∨ ∃ content, session.tree.read path = .ok content ∧
          request.command.conversion content = none)) ∨
      ∃ content text ready, session.tree.read path = .ok content ∧
        request.command.conversion content = some text ∧ converting = (.ok text, ready) ∧
        ready.tree = session.tree ∧
        perform (writeText (request.outputPath name) text) ready = (outcome, later) := by
  intro path converting
  have stemmed := stem_join request.input name named
  rw [← Request.inputPath] at stemmed
  let notices := [Notice.converting path (request.outputPath name)]
  have started : perform (request.conversions channel [name]) session =
      perform (request.command.convert channel path >>= writeText (request.outputPath name))
        (request.announced channel name session) := by
    rw [Request.conversions, List.map_cons, List.map_nil, convertInto, stemmed]
    simp only [convertInto, bind_pure_unit]
    exact perform_ok (perform_tell channel notices session)
  rw [started, perform_bind] at ran
  rcases same : converting with ⟨result, ready⟩
  obtain ⟨kept, given⟩ := convert_result channel request.command path _ ready result same
  rw [show perform (request.command.convert channel path) _ = (result, ready) from same] at ran
  cases result with
  | error e =>
      cases ran
      exact .inl ⟨e, rfl, rfl, kept, given⟩
  | ok text =>
      obtain ⟨content, read, converts⟩ := given
      exact .inr ⟨content, text, ready, read, converts, rfl, kept, ran⟩

theorem single_opened (name parent : Bytes) (named : IsName name) (session : Session)
    (content : ByteArray) (text : String) (middle : Tree) (opened : Option Nat)
    (read : session.tree.read (request.inputPath name) = .ok content)
    (converts : request.command.conversion content = some text)
    (above : Files.Path.parent? (request.outputPath name) = some parent) (inhabited : parent ≠ [])
    (there : session.tree.makeDirectory parent = .error .alreadyExists)
    (seen : session.tree.isDirectory parent) (calm : session.interrupted 4 = false)
    (opens : session.tree.openFile (request.outputPath name) = .ok (middle, opened)) :
    let last := (session.behind 4).mishap?
    ∃ outcome later, perform (request.conversions channel [name]) session = (outcome, later) ∧
      outcome.isOk = last.isNone ∧
      later.tree = middle.pour opened (Mishap.part last text) ∧
      later.mishaps = session.mishaps.drop 5 := by
  intro last
  let start := request.announced channel name session
  obtain ⟨notices, converted⟩ := convert_done channel request.command (request.inputPath name) start
    content text (calm_behind session 4 0 calm (by omega)) read converts
  let ready := (start.behind 1).told channel notices
  have quiet : ready.interrupted 3 = false := by
    rw [interrupted_next, Bool.or_eq_false_iff] at calm
    exact calm.2
  obtain ⟨outcome, wrote, going⟩ := write_text_opened (request.outputPath name) parent text ready
    middle opened above inhabited there seen quiet opens
  have same : (ready.behind 3).mishap? = last := by
    simp [ready, start, last, Session.behind, Session.mishap?, Session.told, Request.announced]
  rw [same] at wrote going
  rcases ran : perform (request.conversions channel [name]) session with ⟨result, later⟩
  rcases perform_single request channel name named session later result ran with
    ⟨e, -, failed, -⟩ | ⟨-, other, reached, -, -, gives, -, ends⟩
  · cases converted.symm.trans failed
  · cases converted.symm.trans gives
    cases wrote.symm.trans ends
    refine ⟨_, _, rfl, going, rfl, ?_⟩
    simp [ready, start, Session.behind, Session.told, Session.withTree, Request.announced]

theorem single_done (name parent : Bytes) (named : IsName name) (session : Session)
    (content : ByteArray) (text : String) (middle : Tree) (opened : Option Nat)
    (read : session.tree.read (request.inputPath name) = .ok content)
    (converts : request.command.conversion content = some text)
    (above : Files.Path.parent? (request.outputPath name) = some parent) (inhabited : parent ≠ [])
    (there : session.tree.makeDirectory parent = .error .alreadyExists)
    (seen : session.tree.isDirectory parent) (calm : session.interrupted 5 = false)
    (opens : session.tree.openFile (request.outputPath name) = .ok (middle, opened)) :
    ∃ later, perform (request.conversions channel [name]) session = (.ok (), later) ∧
      later.tree = middle.pour opened text.toUTF8 ∧ later.mishaps = session.mishaps.drop 5 := by
  have early : session.interrupted 4 = false := interrupted_mono session 4 5 (by omega) calm
  obtain ⟨outcome, later, ran, going, written, mishaps⟩ := single_opened request channel name parent
    named session content text middle opened read converts above inhabited there seen early opens
  rw [calm_behind session 5 4 calm (by omega)] at going written
  cases outcome with
  | ok done => exact ⟨later, ran, written, mishaps⟩
  | error e => cases going

theorem conversions_grow (names : List Bytes) (named : ∀ name ∈ names, IsName name)
    (session : Session) :
    Grows session.tree (perform (request.conversions channel names) session).2.tree := by
  induction names generalizing session with
  | nil => exact Files.Tree.grows_refl session.tree
  | cons name rest ih =>
      rw [perform_cons]
      rcases single : perform (request.conversions channel [name]) session with ⟨result, middle⟩
      have one : Grows session.tree middle.tree := by
        rcases perform_single request channel name (named name List.mem_cons_self) session middle
          result single with
            ⟨e, -, -, kept, -⟩ | ⟨_, text, ready, -, -, -, kept, wrote⟩
        · rw [kept]
          exact Files.Tree.grows_refl session.tree
        · have grows := write_text_grows (request.outputPath name) text ready
          rwa [wrote, kept] at grows
      cases result with
      | error e => exact one
      | ok done =>
          have others := ih (fun other member => named other (List.mem_cons_of_mem _ member)) middle
          exact Files.Tree.grows_trans _ _ _ one others

-- Conversions go well up to some input, and either there is no other one or the next one fails.
theorem conversions_stop (names : List Bytes) (start : Session) :
    ∃ count reached, count ≤ names.length ∧
      perform (request.conversions channel (names.take count)) start = (.ok (), reached) ∧
      ((count = names.length ∧
          perform (request.conversions channel names) start = (.ok (), reached)) ∨
        ∃ name e final, names[count]? = some name ∧
          perform (request.conversions channel [name]) reached = (.error e, final) ∧
          perform (request.conversions channel names) start = (.error e, final)) := by
  induction names generalizing start with
  | nil => exact ⟨0, start, le_rfl, rfl, .inl ⟨rfl, rfl⟩⟩
  | cons name rest ih =>
      rcases first : perform (request.conversions channel [name]) start with ⟨e | done, middle⟩
      · refine ⟨0, start, Nat.zero_le _, rfl, .inr ⟨name, e, middle, rfl, first, ?_⟩⟩
        rw [perform_cons, first]
      · obtain ⟨count, reached, counted, went, ended⟩ := ih middle
        refine ⟨count + 1, reached, Nat.succ_le_succ counted, ?_, ?_⟩
        · rw [List.take_succ_cons, perform_cons, first]
          exact went
        · rw [perform_cons, first]
          rcases ended with ⟨all, done⟩ | ⟨other, e, final, next, failed, done⟩
          · exact .inl ⟨by rw [all, List.length_cons], done⟩
          · exact .inr ⟨other, e, final, next, failed, done⟩

theorem listed_kept (tree later : Tree) (home names : List Bytes)
    (written : Set (List Bytes × Bytes)) (listed : request.Listed tree home names)
    (changes : ChangesOnly written tree later)
    (untouched : ∀ name ∈ names, ∀ directory, (directory, name) ∉ written) :
    request.Listed later home names ∧
      ∀ name ∈ names, later.read (request.inputPath name) = tree.read (request.inputPath name) := by
  obtain ⟨place, found, rfl⟩ := listed.found
  have still := Files.Tree.grows_find tree later changes.grows _ place found
  have same (name : Bytes) (member : name ∈ names) :
      later.fileAt? place.home name = tree.fileAt? place.home name :=
    changes.files _ _ (untouched name member _)
  refine ⟨⟨⟨place, still, rfl⟩, listed.named, ?_, listed.distinct, listed.apart,
    Files.Tree.grows_unlinked _ _ changes.grows listed.unlinked⟩, ?_⟩
  · intro name member
    rw [same name member]
    exact listed.present name member
  · intro name member
    obtain ⟨content, held⟩ := listed.present name member
    have named := (listed.named name member).1
    have before := Files.Tree.read_join tree request.input name place content named found held
    rw [← same name member] at held
    have after := Files.Tree.read_join later request.input name place content named still held
    rw [Request.inputPath, before, after]

theorem listed_part (tree : Tree) (home names part : List Bytes)
    (listed : request.Listed tree home names) (sub : part.Sublist names) :
    request.Listed tree home part where
  found := listed.found
  named name member := listed.named name (sub.subset member)
  present name member := listed.present name (sub.subset member)
  distinct := listed.distinct.sublist sub
  apart name member other otherMember :=
    listed.apart name (sub.subset member) other (sub.subset otherMember)
  unlinked := listed.unlinked

theorem output_called (final : Tree) (unlinked : final.Unlinked) (name called : Bytes)
    (place : List Bytes) (named : IsName name) (input : request.IsInput name)
    (found : final.find (request.outputPath name) = .ok (.within place called)) :
    called = request.outputName name := by
  obtain ⟨-, -, -, -, outputNamed⟩ := output_named request name named input
  exact Files.Tree.find_called final _ _ _ _ unlinked outputNamed found

theorem output_unshared (tree final : Tree) (home names chosen place : List Bytes)
    (name called : Bytes) (listed : request.Listed tree home names) (unlinked : final.Unlinked)
    (member : name ∈ names) (among : chosen ⊆ names) (fresh : name ∉ chosen)
    (found : final.find (request.outputPath name) = .ok (.within place called)) :
    (place, called) ∉ request.outputs final chosen := by
  rintro ⟨other, taken, placed⟩
  obtain ⟨named, input⟩ := listed.named name member
  obtain ⟨otherNamed, otherInput⟩ := listed.named other (among taken)
  have otherCalled := output_called request final unlinked other called place otherNamed otherInput
    placed
  have ownCalled := output_called request final unlinked name called place named input found
  have equal := listed.apart other (among taken) name member (otherCalled.symm.trans ownCalled)
  exact fresh (equal ▸ taken)

theorem outputs_apart (tree final : Tree) (home names chosen : List Bytes)
    (listed : request.Listed tree home names) (unlinked : final.Unlinked) (among : chosen ⊆ names) :
    ∀ name ∈ names, ∀ directory, (directory, name) ∉ request.outputs final chosen := by
  rintro name member directory ⟨other, taken, placed⟩
  obtain ⟨otherNamed, otherInput⟩ := listed.named other (among taken)
  have called := output_called request final unlinked other name directory otherNamed otherInput
    placed
  exact output_name_no_input request other name otherNamed otherInput
    (listed.named name member).2 called.symm

theorem single_output (tree : Tree) (name called : Bytes) (place : List Bytes)
    (found : tree.find (request.outputPath name) = .ok (.within place called)) :
    {(place, called)} ⊆ request.outputs tree [name] := by
  rintro _ rfl
  exact ⟨name, List.mem_cons_self, found⟩

theorem single_written (home names : List Bytes) (name : Bytes) (session later : Session)
    (listed : request.Listed session.tree home names) (member : name ∈ names)
    (clear : request.Cleared session.tree later.tree [name])
    (ran : perform (request.conversions channel [name]) session = (.ok (), later)) :
    request.Written session.tree later.tree name ∧
      ChangesOnly (request.outputs later.tree [name]) session.tree later.tree := by
  obtain ⟨named, input⟩ := listed.named name member
  rcases perform_single request channel name named session later (.ok ()) ran with
    ⟨e, failed, -⟩ | ⟨content, text, ready, read, gives, -, kept, wrote⟩
  · cases failed
  · rcases write_text_changes (request.outputPath name) text ready later (.ok ()) wrote with
      ⟨failed, -⟩ | ⟨place, called, found, cleared⟩
    · cases failed
    · rw [kept] at cleared
      obtain ⟨changes, part, held, whole⟩ :=
        cleared (clear name List.mem_cons_self place called found)
      have within := single_output request later.tree name called place found
      have unlinked := Files.Tree.grows_unlinked _ _ changes.grows listed.unlinked
      have own := output_called request later.tree unlinked name called place named input found
      cases whole
      rw [own] at found held
      exact ⟨⟨content, text, place, read, gives, found, held⟩,
        Files.Tree.changes_mono _ _ _ _ within changes⟩

theorem single_failed (home names : List Bytes) (name : Bytes) (session later : Session) (e : Error)
    (listed : request.Listed session.tree home names) (member : name ∈ names)
    (clear : request.Cleared session.tree later.tree [name])
    (ran : perform (request.conversions channel [name]) session = (.error e, later)) :
    let path := request.inputPath name
    let converting := perform (request.command.convert channel path)
      (request.announced channel name session)
    converting = (.error e, later) ∧ ChangesOnly ∅ session.tree later.tree ∧
        (Unread path e ∨ ∃ content, session.tree.read path = .ok content ∧
          request.command.conversion content = none) ∨
      ∃ content text ready, session.tree.read path = .ok content ∧
        request.command.conversion content = some text ∧ converting = (.ok text, ready) ∧
        perform (writeText (request.outputPath name) text) ready = (.error e, later) ∧
        (ChangesOnly ∅ session.tree later.tree ∨
          ChangesOnly (request.outputs later.tree [name]) session.tree later.tree ∧
            ∃ count, later.tree.read (request.outputPath name) =
              .ok (text.toUTF8.extract 0 count)) := by
  intro path converting
  obtain ⟨named, input⟩ := listed.named name member
  rcases perform_single request channel name named session later (.error e) ran with
    ⟨_, same, failed, kept, reason⟩ | ⟨content, text, ready, read, gives, converted, kept, wrote⟩
  · cases same
    refine .inl ⟨failed, ?_, reason⟩
    rw [kept]
    exact Files.Tree.changes_refl session.tree
  · refine .inr ⟨content, text, ready, read, gives, converted, wrote, ?_⟩
    rcases write_text_changes (request.outputPath name) text ready later (.error e) wrote with
      ⟨-, unchanged⟩ | ⟨place, called, found, cleared⟩
    · rw [kept] at unchanged
      exact .inl unchanged
    · rw [kept] at cleared
      obtain ⟨changes, part, held, count, extent⟩ :=
        cleared (clear name List.mem_cons_self place called found)
      have within := single_output request later.tree name called place found
      refine .inr ⟨Files.Tree.changes_mono _ _ _ _ within changes, count, ?_⟩
      rw [← extent]
      exact (Files.Tree.read_place _ _ _).mpr ⟨place, called, found, .inl held⟩

theorem cleared_later (tree middle final : Tree) (first : Grows tree middle)
    (names : List Bytes) (clear : request.Cleared tree final names) :
    request.Cleared middle final names :=
  fun name member directory called found =>
    Files.Tree.clear_grows tree middle first directory called
      (clear name member directory called found)

theorem cleared_earlier (tree middle final : Tree) (second : Grows middle final)
    (names part : List Bytes) (fewer : part ⊆ names) (clear : request.Cleared tree final names) :
    request.Cleared tree middle part :=
  fun name member directory called found =>
    clear name (fewer member) directory called
      (Files.Tree.grows_find middle final second _ _ found)

theorem written_kept (tree middle final : Tree) (name : Bytes)
    (written : Set (List Bytes × Bytes)) (held : request.Written tree middle name)
    (changes : ChangesOnly written middle final)
    (untouched : ∀ place, final.find (request.outputPath name) =
      .ok (.within place (request.outputName name)) → (place, request.outputName name) ∉ written) :
    request.Written tree final name := by
  obtain ⟨content, text, place, read, gives, found, filled⟩ := held
  have still := Files.Tree.grows_find middle final changes.grows _ _ found
  refine ⟨content, text, place, read, gives, still, ?_⟩
  rw [changes.files _ _ (untouched place still), filled]

theorem rest_listed (tree middle : Tree) (home rest : List Bytes) (name : Bytes)
    (listed : request.Listed tree home (name :: rest))
    (changes : ChangesOnly (request.outputs middle [name]) tree middle) :
    request.Listed middle home rest ∧
      ∀ other ∈ rest,
        middle.read (request.inputPath other) = tree.read (request.inputPath other) := by
  have unlinked := Files.Tree.grows_unlinked _ _ changes.grows listed.unlinked
  have untouched := outputs_apart request tree middle home _ [name] listed unlinked (by simp)
  have others := listed_part request tree home _ _ listed (List.sublist_cons_self name rest)
  exact listed_kept request tree middle home rest _ others changes
    fun other member => untouched other (List.mem_cons_of_mem _ member)

theorem cons_written (tree middle final : Tree) (home rest : List Bytes) (name : Bytes)
    (listed : request.Listed tree home (name :: rest)) (held : request.Written tree middle name)
    (changes : ChangesOnly (request.outputs middle [name]) tree middle)
    (restHeld : ∀ other ∈ rest, request.Written middle final other)
    (restChanges : ChangesOnly (request.outputs final rest) middle final) :
    (∀ other ∈ name :: rest, request.Written tree final other) ∧
      ChangesOnly (request.outputs final (name :: rest)) tree final := by
  have all := Files.Tree.grows_trans _ _ _ changes.grows restChanges.grows
  have unlinked := Files.Tree.grows_unlinked _ _ all listed.unlinked
  have fresh := (List.nodup_cons.mp listed.distinct).1
  obtain ⟨-, sameRead⟩ := rest_listed request tree middle home rest name listed changes
  constructor
  · intro other member
    rcases List.mem_cons.mp member with rfl | member
    · refine written_kept request tree middle final other _ held restChanges fun place found => ?_
      exact output_unshared request tree final home (other :: rest) rest place other _ listed
        unlinked List.mem_cons_self (List.subset_cons_self other rest) fresh found
    · obtain ⟨content, text, place, read, placed⟩ := restHeld other member
      rw [sameRead other member] at read
      exact ⟨content, text, place, read, placed⟩
  · refine Files.Tree.changes_trans _ tree middle final ?_ ?_
    · refine Files.Tree.changes_mono _ _ _ _ ?_ changes
      rintro _ ⟨other, taken, placed⟩
      obtain rfl := List.mem_singleton.mp taken
      exact ⟨other, List.mem_cons_self,
        Files.Tree.grows_find _ _ restChanges.grows _ _ placed⟩
    · refine Files.Tree.changes_mono _ _ _ _ ?_ restChanges
      rintro _ ⟨other, taken, placed⟩
      exact ⟨other, List.mem_cons_of_mem _ taken, placed⟩

-- Conversions that all go well change the files in the places of their outputs, which hold them.
theorem all_written (home names : List Bytes) (session reached : Session)
    (listed : request.Listed session.tree home names)
    (clear : request.Cleared session.tree reached.tree names)
    (ran : perform (request.conversions channel names) session = (.ok (), reached)) :
    (∀ name ∈ names, request.Written session.tree reached.tree name) ∧
      ChangesOnly (request.outputs reached.tree names) session.tree reached.tree := by
  induction names generalizing session with
  | nil =>
      cases ran
      refine ⟨nofun, Files.Tree.changes_mono ∅ _ _ _ (Set.empty_subset _) ?_⟩
      exact Files.Tree.changes_refl _
  | cons name rest ih =>
      rw [perform_cons] at ran
      rcases first : perform (request.conversions channel [name]) session with ⟨e | done, middle⟩
      · rw [first] at ran
        cases ran
      · rw [first] at ran
        change perform (request.conversions channel rest) middle = (.ok (), reached) at ran
        have onward : Grows middle.tree reached.tree := by
          have grows := conversions_grow request channel rest
            (fun other member => (listed.named other (List.mem_cons_of_mem _ member)).1) middle
          rwa [ran] at grows
        have headClear := cleared_earlier request _ _ _ onward _ [name] (by simp) clear
        obtain ⟨held, changes⟩ := single_written request channel home (name :: rest) name session
          middle listed List.mem_cons_self headClear first
        obtain ⟨others, -⟩ := rest_listed request _ _ home rest name listed changes
        have restClear : request.Cleared middle.tree reached.tree rest :=
          cleared_later request _ _ _ changes.grows rest fun other member =>
            clear other (List.mem_cons_of_mem _ member)
        obtain ⟨restHeld, restChanges⟩ := ih middle others restClear ran
        exact cons_written request _ _ _ home rest name listed held changes restHeld restChanges

end Loop

end HtmlTemplate.Tool
