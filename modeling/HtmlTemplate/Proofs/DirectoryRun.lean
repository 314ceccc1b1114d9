import Mathlib
import HtmlTemplate.Proofs.DirectoryStart

set_option autoImplicit false

namespace HtmlTemplate.Tool

open Files (Entry Tree writeText)
open Files.Path (IsName join)
open Files.Tree (ChangesOnly)

def Request.inputs (request : Request) (entries : List (Bytes × Entry)) : List Bytes :=
  namesWithExtension entries request.command.inputExtension

def Request.channel (request : Request) : Channel :=
  Channel.quiet.setVerbose request.verbose

def Request.Untouched (request : Request) (tree final : Tree) (name : Bytes) : Prop :=
  ∀ held, tree.read (request.outputPath name) = .ok held →
    final.read (request.outputPath name) = .ok held

-- Why an input with some content is not converted, in the session that was reached before it.
inductive Request.Failure (request : Request) (session reached : Session) (final : Tree)
    (before : List Bytes) (name : Bytes) (content : ByteArray) : Prop where
  -- It could not be read, or has no conversion. Its output is none of the files that change.
  | unconverted (e : Error) (later : Session) :
      perform (request.command.convert request.channel (request.inputPath name))
          (request.announced request.channel name reached) = (.error e, later) →
        (Unread (request.inputPath name) e ∨ request.command.conversion content = none) →
        ChangesOnly (request.outputs final before) session.tree final →
        request.Untouched session.tree final name →
        request.Failure session reached final before name content
  -- Its conversion could not be written. Its output may hold a beginning of it.
  | unwritten (text : String) (e : Error) (ready later : Session) :
      request.command.conversion content = some text →
        perform (request.command.convert request.channel (request.inputPath name))
          (request.announced request.channel name reached) = (.ok text, ready) →
        perform (writeText (request.outputPath name) text) ready = (.error e, later) →
        later.tree = final →
        (request.Untouched session.tree final name ∨
          ∃ count, final.read (request.outputPath name) = .ok (text.toUTF8.extract 0 count)) →
        request.Failure session reached final before name content

-- What the tool does with a directory of the given entries, and the exit code it ends with.
structure Request.DirectoryConverted (request : Request) (session : Session)
    (entries : List (Bytes × Entry)) (count code : Nat) (final : Tree) : Prop where
  ascending : (request.inputs entries).Pairwise (· < ·)
  inputs : ∀ name, name ∈ request.inputs entries ↔
    request.IsInput name ∧ ∃ number, Entries.get? entries name = some (.file number)
  texts : ∀ text, Bytes.ofText (text ++ "." ++ request.command.inputExtension) ∈
      request.inputs entries →
    request.outputPath (Bytes.ofText (text ++ "." ++ request.command.inputExtension)) =
      join request.target (Bytes.ofText (text ++ "." ++ request.command.outputExtension))
  counted : count ≤ (request.inputs entries).length
  converted : ∀ name ∈ (request.inputs entries).take count, ∃ number text,
    Entries.get? entries name = some (.file number) ∧
      request.command.conversion (session.tree.contents number) = some text ∧
      final.read (request.outputPath name) = .ok text.toUTF8
  -- No output stands in the place of another one, or of an input.
  apart : ∀ name ∈ (request.inputs entries).take count, ∀ other ∈ request.inputs entries,
    final.find (request.outputPath name) = final.find (request.outputPath other) → name = other
  spared : ∀ name ∈ (request.inputs entries).take count, ∀ other ∈ request.inputs entries,
    final.find (request.outputPath name) ≠ final.find (request.inputPath other)
  changes : ChangesOnly (request.outputs final ((request.inputs entries).take (count + 1)))
    session.tree final
  inputsKept : ∀ name ∈ request.inputs entries,
    final.read (request.inputPath name) = session.tree.read (request.inputPath name)
  laterKept : ∀ name ∈ (request.inputs entries).drop (count + 1),
    request.Untouched session.tree final name
  stopped : ∀ name, (request.inputs entries)[count]? = some name → ∃ number reached,
    Entries.get? entries name = some (.file number) ∧
      perform (request.conversions request.channel ((request.inputs entries).take count))
        (session.behind 4) = (.ok (), reached) ∧
      request.Failure session reached final ((request.inputs entries).take count) name
        (session.tree.contents number)
  exit : code = if count = (request.inputs entries).length then 0 else 1

-- Entries are those of the input directory, which stands at `home`.
structure Request.Opened (request : Request) (tree : Tree) (entries : List (Bytes × Entry))
    (home : List Bytes) : Prop where
  inputs : ∀ name, name ∈ request.inputs entries ↔
    request.IsInput name ∧ ∃ number, Entries.get? entries name = some (.file number)
  ascending : (request.inputs entries).Pairwise (· < ·)
  listed : request.Listed tree home (request.inputs entries)
  contents : ∀ name number, Entries.get? entries name = some (.file number) →
    tree.fileAt? home name = some (tree.contents number)

section Result

variable (request : Request)

theorem directory_opened (tree : Tree) (entries : List (Bytes × Entry))
    (linkless : tree.linkless) (there : tree.get request.input = .ok (.directory entries))
    (apart : ∀ name ∈ request.inputs entries, ∀ other ∈ request.inputs entries,
      request.outputName name = request.outputName other → name = other) :
    ∃ home, request.Opened tree entries home := by
  obtain ⟨place, found, opened⟩ := Files.Tree.get_directory tree request.input entries there
  have entriesLinkless :=
    Files.Tree.entries_linkless_at tree.entries entries linkless place.home opened
  obtain ⟨named, distinct⟩ := Files.Tree.entries_linkless_names entries entriesLinkless
  have member := names_member request entries named distinct
  have ascending := names_ascending entries request.command.inputExtension distinct
  have present (name : Bytes) (number : Nat)
      (held : Entries.get? entries name = some (.file number)) :
      tree.fileAt? place.home name = some (tree.contents number) := by
    refine (Files.Tree.file_at_some tree place.home name _).mpr ⟨number, ?_, rfl⟩
    rw [Files.Tree.sight_at_file, Files.Tree.entryAt?, opened]
    exact held
  refine ⟨place.home, member, ascending, ⟨⟨place, found, rfl⟩, ?_, ?_, ?_, apart, ?_⟩, present⟩
  · intro name listed
    obtain ⟨input, number, held⟩ := (member name).mp listed
    exact ⟨named name (List.mem_map_of_mem (Entries.mem_of_get? entries name _ held)), input⟩
  · intro name listed
    obtain ⟨-, number, held⟩ := (member name).mp listed
    exact ⟨_, present name number held⟩
  · exact ascending.imp Std.ne_of_lt
  · exact Files.Tree.linkless_unlinked tree linkless

section Changes

variable (tree final : Tree) (home names : List Bytes) (listed : request.Listed tree home names)

include listed

theorem input_content (name : Bytes) (member : name ∈ names) (content held : ByteArray)
    (there : tree.fileAt? home name = some held)
    (read : tree.read (request.inputPath name) = .ok content) : content = held := by
  obtain ⟨place, found, rfl⟩ := listed.found
  exact Files.Tree.content_join tree request.input name place held content
    (listed.named name member).1 found there read

theorem output_untouched (chosen : List Bytes) (name : Bytes) (member : name ∈ names)
    (among : chosen ⊆ names) (fresh : name ∉ chosen)
    (changes : ChangesOnly (request.outputs final chosen) tree final) :
    request.Untouched tree final name := by
  intro held read
  have unlinked := Files.Tree.grows_unlinked _ _ changes.grows listed.unlinked
  obtain ⟨place, called, found, content⟩ := (Files.Tree.read_place tree _ held).mp read
  have still := Files.Tree.grows_find tree final changes.grows _ _ found
  refine (Files.Tree.read_place final _ held).mpr ⟨place, called, still, ?_⟩
  rcases content with file | special
  · left
    rw [changes.files, file]
    exact output_unshared request tree final home names chosen place name called listed unlinked
      member among fresh still
  · right
    rw [changes.grows.kept place called (by simp [special]), special]

theorem next_fresh (count : Nat) (name : Bytes) (next : names[count]? = some name) :
    name ∈ names ∧ name ∉ names.take count := by
  obtain ⟨bound, here⟩ := List.getElem?_eq_some_iff.mp next
  refine ⟨here ▸ List.getElem_mem bound, fun taken => ?_⟩
  have behind : name ∈ names.drop count := by
    rw [List.drop_eq_getElem_cons bound, here]
    exact List.mem_cons_self
  exact List.disjoint_take_drop listed.distinct le_rfl taken behind

end Changes

theorem outputs_mono (tree final : Tree) (grows : Tree.Grows tree final) (names more : List Bytes)
    (fewer : names ⊆ more) : request.outputs tree names ⊆ request.outputs final more := by
  rintro _ ⟨name, taken, placed⟩
  exact ⟨name, fewer taken, Files.Tree.grows_find tree final grows _ _ placed⟩

theorem stopped_failure (session reached final : Session) (home names : List Bytes)
    (count : Nat) (name : Bytes) (e : Error) (content : ByteArray)
    (listed : request.Listed session.tree home names) (next : names[count]? = some name)
    (held : session.tree.fileAt? home name = some content)
    (clear : request.Cleared session.tree final.tree names)
    (before : ChangesOnly (request.outputs reached.tree (names.take count)) session.tree
      reached.tree)
    (failed : perform (request.conversions request.channel [name]) reached = (.error e, final)) :
    ChangesOnly (request.outputs final.tree [name]) reached.tree final.tree ∧
      request.Failure session reached final.tree (names.take count) name content := by
  obtain ⟨member, fresh⟩ := next_fresh request session.tree home names listed count name next
  have among : names.take count ⊆ names := List.take_subset count names
  have unlinked := Files.Tree.grows_unlinked _ _ before.grows listed.unlinked
  have outside :=
    outputs_apart request session.tree reached.tree home names _ listed unlinked among
  obtain ⟨reachedListed, sameRead⟩ :=
    listed_kept request session.tree reached.tree home names _ listed before outside
  have same (found : ByteArray) (read : reached.tree.read (request.inputPath name) = .ok found) :
      found = content := by
    rw [sameRead name member] at read
    exact input_content request session.tree home names listed name member found content held read
  have nextClear : request.Cleared reached.tree final.tree [name] :=
    cleared_later request _ _ _ before.grows [name] fun other taken =>
      clear other (List.mem_singleton.mp taken ▸ member)
  have spared (unchanged : ChangesOnly ∅ reached.tree final.tree) :
      ChangesOnly (request.outputs final.tree (names.take count)) session.tree final.tree := by
    have first := outputs_mono request _ _ unchanged.grows _ _ (List.Subset.refl (names.take count))
    exact Files.Tree.changes_trans _ _ _ _ (Files.Tree.changes_mono _ _ _ _ first before)
      (Files.Tree.changes_mono _ _ _ _ (Set.empty_subset _) unchanged)
  have untouched := output_untouched request session.tree final.tree home names listed
    (names.take count) name member among fresh
  rcases single_failed request request.channel home names name reached final e reachedListed member
    nextClear failed with ⟨unconverted, unchanged, reason⟩ | ⟨found, text, ready, read, gives,
      converted, unwritten, unchanged | ⟨torn, extent, part⟩⟩
  · refine ⟨Files.Tree.changes_mono _ _ _ _ (Set.empty_subset _) unchanged, .unconverted e final
      unconverted ?_ (spared unchanged) (untouched (spared unchanged))⟩
    refine reason.imp_right ?_
    rintro ⟨found, read, missing⟩
    exact same found read ▸ missing
  · obtain rfl := same found read
    exact ⟨Files.Tree.changes_mono _ _ _ _ (Set.empty_subset _) unchanged, .unwritten text e ready
      final gives converted unwritten rfl (.inl (untouched (spared unchanged)))⟩
  · obtain rfl := same found read
    exact ⟨torn, .unwritten text e ready final gives converted unwritten rfl (.inr ⟨extent, part⟩)⟩

theorem progress_final (session reached final : Tree) (home names : List Bytes) (count : Nat)
    (listed : request.Listed session home names)
    (before : (∀ name ∈ names.take count, request.Written session reached name) ∧
      ChangesOnly (request.outputs reached (names.take count)) session reached)
    (rest : ChangesOnly (request.outputs final names[count]?.toList) reached final) :
    (∀ name ∈ names.take count, request.Written session final name) ∧
      ChangesOnly (request.outputs final (names.take (count + 1))) session final := by
  obtain ⟨held, changes⟩ := before
  have more := List.take_add_one (l := names) (i := count)
  have grows := Files.Tree.grows_trans _ _ _ changes.grows rest.grows
  have unlinked := Files.Tree.grows_unlinked _ _ grows listed.unlinked
  constructor
  · intro name taken
    refine written_kept request session reached final name _ (held name taken) rest ?_
    intro place found
    refine output_unshared request session final home names _ place name _ listed unlinked
      (List.mem_of_mem_take taken) ?_ ?_ found
    · intro other next
      exact List.mem_of_getElem? (Option.mem_toList.mp next)
    · intro next
      exact (next_fresh request session home names listed count name
        (Option.mem_toList.mp next)).2 taken
  · refine Files.Tree.changes_trans _ session reached final ?_ ?_
    · refine Files.Tree.changes_mono _ _ _ _ ?_ changes
      exact outputs_mono request reached final rest.grows _ _ (by simp [more])
    · refine Files.Tree.changes_mono _ _ _ _ ?_ rest
      exact outputs_mono request final final (Files.Tree.grows_refl final) _ _ (by simp [more])

-- The result of a run of which the first conversions went well, and the next one failed if any.
theorem converted_result (session : Session) (final : Tree) (entries : List (Bytes × Entry))
    (home : List Bytes) (count code : Nat) (opened : request.Opened session.tree entries home)
    (counted : count ≤ (request.inputs entries).length)
    (held : ∀ name ∈ (request.inputs entries).take count, request.Written session.tree final name)
    (changes : ChangesOnly (request.outputs final ((request.inputs entries).take (count + 1)))
      session.tree final)
    (stopped : ∀ name, (request.inputs entries)[count]? = some name → ∃ number reached,
      Entries.get? entries name = some (.file number) ∧
        perform (request.conversions request.channel ((request.inputs entries).take count))
          (session.behind 4) = (.ok (), reached) ∧
        request.Failure session reached final ((request.inputs entries).take count) name
          (session.tree.contents number))
    (exit : code = if count = (request.inputs entries).length then 0 else 1) :
    request.DirectoryConverted session entries count code final := by
  have listed := opened.listed
  have unlinked := Files.Tree.grows_unlinked _ _ changes.grows listed.unlinked
  refine ⟨opened.ascending, opened.inputs, ?_, counted, ?_, ?_, ?_, changes, ?_, ?_, stopped, exit⟩
  · intro text member
    have input := (listed.named _ member).2
    rw [Request.outputPath, output_name_text request text input]
  · intro name taken
    obtain ⟨content, text, place, read, gives, found, filled⟩ := held name taken
    have member := List.mem_of_mem_take taken
    obtain ⟨-, number, entry⟩ := (opened.inputs name).mp member
    have same := input_content request session.tree home _ listed name member content _
      (opened.contents name number entry) read
    refine ⟨number, text, entry, same ▸ gives, ?_⟩
    exact (Files.Tree.read_place final _ _).mpr ⟨place, _, found, .inl filled⟩
  · intro name taken other otherMember same
    obtain ⟨-, -, place, -, -, found, -⟩ := held name taken
    rw [found] at same
    obtain ⟨otherNamed, otherInput⟩ := listed.named other otherMember
    exact listed.apart name (List.mem_of_mem_take taken) other otherMember
      (output_called request final unlinked other _ place otherNamed otherInput same.symm)
  · intro name taken other otherMember same
    obtain ⟨-, -, place, -, -, found, -⟩ := held name taken
    rw [found] at same
    obtain ⟨named, input⟩ := listed.named name (List.mem_of_mem_take taken)
    obtain ⟨otherNamed, otherInput⟩ := listed.named other otherMember
    exact output_name_no_input request name other named input otherInput
      (Files.Tree.find_called final _ _ _ _ unlinked otherNamed same.symm)
  · have untouched := outputs_apart request session.tree final home _ _ listed unlinked
      (List.take_subset (count + 1) _)
    exact (listed_kept request session.tree final home _ _ listed changes untouched).2
  · intro name behind
    refine output_untouched request session.tree final home _ listed _ name
      (List.mem_of_mem_drop behind) (List.take_subset (count + 1) _) ?_ changes
    exact fun taken => List.disjoint_take_drop listed.distinct le_rfl taken behind

theorem conversions_result (session start final : Session) (outcome : Except Error Unit)
    (entries : List (Bytes × Entry)) (home : List Bytes)
    (opened : request.Opened session.tree entries home) (same : start.tree = session.tree)
    (begun : request.inputs entries ≠ [] → start = session.behind 4)
    (clear : request.Cleared session.tree final.tree (request.inputs entries))
    (ran : perform (request.conversions request.channel (request.inputs entries)) start =
      (outcome, final)) :
    ∃ count, request.DirectoryConverted session entries count (if outcome.isOk then 0 else 1)
      final.tree := by
  obtain ⟨count, reached, counted, went, ended⟩ :=
    conversions_stop request request.channel (request.inputs entries) start
  rw [ran] at ended
  have listed := opened.listed
  have part := listed_part request _ home _ _ listed (List.take_sublist count _)
  have before (grows : Tree.Grows reached.tree final.tree) :=
    all_written request request.channel home _ start reached (same ▸ part)
      (same ▸ cleared_earlier request _ _ _ grows _ _ (List.take_subset count _) clear) went
  rw [same] at before
  refine ⟨count, ?_⟩
  rcases ended with ⟨all, done⟩ | ⟨name, e, failing, next, failed, done⟩
  · cases done
    have none : (request.inputs entries)[count]? = none := by simp [all]
    have rest : ChangesOnly (request.outputs final.tree (request.inputs entries)[count]?.toList)
        final.tree final.tree :=
      Files.Tree.changes_mono _ _ _ _ (Set.empty_subset _) (Files.Tree.changes_refl _)
    obtain ⟨held, changes⟩ := progress_final request session.tree final.tree final.tree home _
      count listed (before (Files.Tree.grows_refl _)) rest
    refine converted_result request session final.tree entries home count _ opened counted held
      changes (fun name next => ?_) ?_
    · rw [none] at next
      cases next
    · rw [if_pos all]
      rfl
  · cases done
    have member := List.mem_of_getElem? next
    obtain ⟨-, number, entry⟩ := (opened.inputs name).mp member
    have grown : Tree.Grows reached.tree final.tree := by
      have grows := conversions_grow request request.channel [name]
        (fun other taken => (listed.named other (List.mem_singleton.mp taken ▸ member)).1) reached
      rwa [failed] at grows
    obtain ⟨rest, failure⟩ := stopped_failure request session reached final home _ count name e _
      listed next (opened.contents name number entry) clear (before grown).2 failed
    obtain ⟨held, changes⟩ := progress_final request session.tree reached.tree final.tree home _
      count listed (before grown) (by rw [next]; exact rest)
    refine converted_result request session final.tree entries home count _ opened counted held
      changes ?_ ?_
    · rw [next]
      rintro _ ⟨⟩
      rw [begun (List.ne_nil_of_mem member)] at went
      exact ⟨number, reached, entry, went, failure⟩
    · have short : count ≠ (request.inputs entries).length := by
        rintro rfl
        simp at next
      rw [if_neg short]
      rfl

end Result

theorem ending_conversions (arguments : List Bytes) (request : Request) (session later : Session)
    (entries : List (Bytes × Entry)) (outcome : Except Error Unit)
    (asked : Request.ofArguments? arguments = some request)
    (there : session.tree.get request.input = .ok (.directory entries))
    (calm : session.interrupted 4 = false) (inhabited : request.inputs entries ≠ [])
    (ran : perform (request.conversions request.channel (request.inputs entries))
      (session.behind 4) = (outcome, later)) :
    (session.ending arguments).1 = (if outcome.isOk then 0 else 1) ∧
      (session.ending arguments).2.tree = later.tree := by
  obtain ⟨start, -, opened, same⟩ := run_directory request session entries there calm
  obtain rfl := opened inhabited
  exact ending_ran arguments request session later outcome asked (same.trans ran)

theorem failure_ends (request : Request) (session reached : Session) (final : Tree)
    (before : List Bytes) (name : Bytes) (content : ByteArray) (named : IsName name)
    (failure : request.Failure session reached final before name content) :
    ∃ e later,
      perform (request.conversions request.channel [name]) reached = (.error e, later) := by
  rcases ran : perform (request.conversions request.channel [name]) reached with ⟨outcome, later⟩
  rcases perform_single request request.channel name named reached later outcome ran with
    ⟨e, rfl, -⟩ | ⟨-, text, ready, -, -, converted, -, wrote⟩
  · exact ⟨e, later, rfl⟩
  · cases failure with
    | unconverted e other failed => cases converted.symm.trans failed
    | unwritten other e reachedReady ended _ converts failed =>
        cases converted.symm.trans converts
        cases wrote.symm.trans failed
        exact ⟨e, _, rfl⟩

def shelf (entries : List (Bytes × Entry)) (texts : Nat → String)
    (mishaps : List (Option Mishap)) : Session :=
  ⟨⟨[(Bytes.ofText "in", .directory entries)], fun number => (texts number).toUTF8⟩, mishaps, [],
    []⟩

def shelfArguments : List Bytes :=
  [Bytes.ofText "compile", Bytes.ofText "in"]

def shelfRequest : Request :=
  ⟨.compile Render.defaultLimit, Bytes.ofText "in", none, false⟩

theorem shelf_asked : Request.ofArguments? shelfArguments = some shelfRequest := rfl

def mixedEntries : List (Bytes × Entry) :=
  [(Bytes.ofText "a.json", .file 0), (Bytes.ofText "b.html", .file 2),
    (Bytes.ofText "b.json", .file 1)]

def mixedTexts : Nat → String
  | 0 => "\"x\""
  | 1 => "[]"
  | _ => "old"

def mixed : Session := shelf mixedEntries mixedTexts []

theorem mixed_inputs :
    shelfRequest.inputs mixedEntries = [Bytes.ofText "a.json", Bytes.ofText "b.json"] := by cbv

theorem mixed_first_converts : shelfRequest.command.conversion "\"x\"".toUTF8 = some "x" := by
  decide +kernel

theorem mixed_second_refused : shelfRequest.command.conversion "[]".toUTF8 = none := by
  decide +kernel

theorem flat_entry (called : Bytes) (entries : List (Bytes × Entry))
    (flat : ∀ name inner, Entries.get? entries name ≠ some (.directory inner))
    (directory : List Bytes) (name : Bytes) (entry : Entry)
    (held : Files.Tree.entryAt? [(called, .directory entries)] directory name = some entry) :
    directory = [] ∧ entry = .directory entries ∨
      directory = [called] ∧ Entries.get? entries name = some entry := by
  have only (step : Bytes) (found : Entry)
      (here : Entries.get? [(called, Entry.directory entries)] step = some found) :
      step = called ∧ found = .directory entries := by
    have member := Entries.mem_of_get? _ step found here
    simpa using member
  cases directory with
  | nil => exact .inl ⟨rfl, (only name entry held).2⟩
  | cons step rest =>
      rw [Files.Tree.entryAt?, Files.Tree.entriesAt?] at held
      split at held
      · rename_i inner here
        obtain ⟨rfl, same⟩ := only step _ here
        cases same
        cases rest with
        | nil => exact .inr ⟨rfl, held⟩
        | cons further others =>
            rw [Files.Tree.entriesAt?] at held
            split at held
            · rename_i deeper below
              exact absurd below (flat further deeper)
            · cases held
      · cases held

theorem mixed_held (name : Bytes) (entry : Entry)
    (held : Entries.get? mixedEntries name = some entry) :
    name = Bytes.ofText "a.json" ∧ entry = .file 0 ∨
      name = Bytes.ofText "b.html" ∧ entry = .file 2 ∨
        name = Bytes.ofText "b.json" ∧ entry = .file 1 := by
  have member := Entries.mem_of_get? _ name entry held
  simpa [mixedEntries] using member

theorem mixed_seen (directory : List Bytes) (name : Bytes) (entry : Entry)
    (held : Files.Tree.entryAt? mixed.tree.entries directory name = some entry)
    (ends : Files.Tree.turn (some entry) = .ends) :
    directory = [Bytes.ofText "in"] ∧
      (name = Bytes.ofText "a.json" ∧ entry = .file 0 ∨
        name = Bytes.ofText "b.html" ∧ entry = .file 2 ∨
          name = Bytes.ofText "b.json" ∧ entry = .file 1) := by
  have flat : ∀ name inner, Entries.get? mixedEntries name ≠ some (.directory inner) := by
    intro name inner held
    rcases mixed_held name _ held with ⟨-, same⟩ | ⟨-, same⟩ | ⟨-, same⟩ <;> cases same
  rcases flat_entry (Bytes.ofText "in") mixedEntries flat directory name entry held with
    ⟨-, rfl⟩ | ⟨same, here⟩
  · cases ends
  · exact ⟨same, mixed_held name entry here⟩

theorem mixed_clear (directory : List Bytes) (name : Bytes) : mixed.tree.Clear directory name := by
  constructor
  · intro given seen
    have held := (Files.Tree.sight_at_special mixed.tree directory name given).mp seen
    obtain ⟨-, ⟨-, same⟩ | ⟨-, same⟩ | ⟨-, same⟩⟩ := mixed_seen directory name _ held rfl <;>
      cases same
  · intro number seen place other also
    have held := (Files.Tree.sight_at_file mixed.tree directory name number).mp seen
    have alsoHeld := (Files.Tree.sight_at_file mixed.tree place other number).mp also
    obtain ⟨rfl, here⟩ := mixed_seen directory name _ held rfl
    obtain ⟨rfl, there⟩ := mixed_seen place other _ alsoHeld rfl
    refine ⟨rfl, ?_⟩
    rcases here with ⟨rfl, same⟩ | ⟨rfl, same⟩ | ⟨rfl, same⟩ <;> cases same <;>
      simpa using there

theorem json_named : IsName (Bytes.ofText "a.json") :=
  ⟨by decide +kernel, by decide +kernel, by decide +kernel, by decide +kernel⟩

theorem mixed_first_ran :
    ∃ later, perform (shelfRequest.conversions shelfRequest.channel [Bytes.ofText "a.json"])
      (mixed.behind 4) = (.ok (), later) := by
  have read : (mixed.behind 4).tree.read (shelfRequest.inputPath (Bytes.ofText "a.json")) =
      .ok "\"x\"".toUTF8 := by cbv
  have opens : (mixed.behind 4).tree.openFile (shelfRequest.outputPath (Bytes.ofText "a.json")) =
      .ok ((mixed.tree.put (.within [Bytes.ofText "in"] (Bytes.ofText "a.html"))
        (.file 3)).fill 3 .empty, some 3) := by cbv
  obtain ⟨later, ran, -⟩ := single_done shelfRequest shelfRequest.channel (Bytes.ofText "a.json")
    (Bytes.ofText "in") json_named (mixed.behind 4) _ "x" _ _ read mixed_first_converts
    (by decide +kernel) (by decide +kernel) (by cbv) (by cbv) rfl opens
  exact ⟨later, ran⟩

-- What one might expect of every directory, whatever else is in the tree and whatever goes wrong.
structure Request.Expected (request : Request) (tree : Tree) (entries : List (Bytes × Entry))
    (count code : Nat) (final : Tree) : Prop where
  counted : count ≤ (request.inputs entries).length
  converted : ∀ name ∈ (request.inputs entries).take count, ∃ number text,
    Entries.get? entries name = some (.file number) ∧
      request.command.conversion (tree.contents number) = some text ∧
      final.read (request.outputPath name) = .ok text.toUTF8
  inputsKept : ∀ name ∈ request.inputs entries,
    final.read (request.inputPath name) = tree.read (request.inputPath name)
  restKept : ∀ name ∈ (request.inputs entries).drop count, request.Untouched tree final name
  exit : code = if count = (request.inputs entries).length then 0 else 1

def Request.Disappoints (request : Request) (arguments : List Bytes) (session : Session) : Prop :=
  session.tree.linkless ∧ ∃ entries, session.tree.get request.input = .ok (.directory entries) ∧
    ∀ count, ¬ request.Expected session.tree entries count (session.ending arguments).1
      (session.ending arguments).2.tree

-- Two names that are no text and have the same output.
def twinEntries : List (Bytes × Entry) :=
  [(0xFE :: Bytes.ofText ".json", .file 0), (0xFF :: Bytes.ofText ".json", .file 1)]

def twins : Session :=
  shelf twinEntries (fun number => if number = 0 then "\"x\"" else "\"y\"") []

-- An input that is the place of its output under another name.
def linkedEntries : List (Bytes × Entry) :=
  [(Bytes.ofText "a.json", .file 0), (Bytes.ofText "a.html", .file 0)]

def linked : Session := shelf linkedEntries (fun _ => "\"x\"") []

def tornEntries : List (Bytes × Entry) :=
  [(Bytes.ofText "a.json", .file 0), (Bytes.ofText "a.html", .file 1)]

-- An output that is emptied, and then cannot be written.
def torn : Session :=
  shelf tornEntries (fun number => if number = 0 then "\"x\"" else "old")
    (List.replicate 8 none ++ [some ⟨.other "No space left on device (os error 28)", 0⟩])

theorem shelf_ran (entries : List (Bytes × Entry)) (session : Session) (middle : Tree)
    (opened : Option Nat) (there : session.tree.get shelfRequest.input = .ok (.directory entries))
    (alone : shelfRequest.inputs entries = [Bytes.ofText "a.json"])
    (read : session.tree.read (shelfRequest.inputPath (Bytes.ofText "a.json")) =
      .ok "\"x\"".toUTF8)
    (made : session.tree.makeDirectory (Bytes.ofText "in") = .error .alreadyExists)
    (seen : session.tree.isDirectory (Bytes.ofText "in"))
    (calm : session.interrupted 4 = false) (calmly : (session.behind 4).interrupted 4 = false)
    (opens : session.tree.openFile (shelfRequest.outputPath (Bytes.ofText "a.json")) =
      .ok (middle, opened)) :
    let last := (session.behind 8).mishap?
    (session.ending shelfArguments).1 = (if last.isNone then 0 else 1) ∧
      (session.ending shelfArguments).2.tree = middle.pour opened (Mishap.part last "x") := by
  intro last
  obtain ⟨outcome, later, ran, going, left, -⟩ := single_opened shelfRequest shelfRequest.channel
    (Bytes.ofText "a.json") (Bytes.ofText "in") json_named (session.behind 4) _ "x" middle opened
    read mixed_first_converts (by decide +kernel) (by decide +kernel) made seen calmly opens
  have same : ((session.behind 4).behind 4).mishap? = last := by
    simp [last, Session.behind, Session.mishap?]
  rw [same] at going left
  rw [← alone] at ran
  obtain ⟨code, tree⟩ := ending_conversions shelfArguments shelfRequest session later entries
    outcome shelf_asked there calm (by simp [alone]) ran
  rw [going] at code
  exact ⟨code, tree.trans left⟩

theorem linked_disappoints : shelfRequest.Disappoints shelfArguments linked := by
  have there : linked.tree.get shelfRequest.input = .ok (.directory linkedEntries) := by cbv
  have alone : shelfRequest.inputs linkedEntries = [Bytes.ofText "a.json"] := by cbv
  have opens : linked.tree.openFile (shelfRequest.outputPath (Bytes.ofText "a.json")) =
      .ok (linked.tree.fill 0 .empty, some 0) := by cbv
  obtain ⟨-, left⟩ := shelf_ran linkedEntries linked _ _ there alone (by cbv) (by cbv) (by cbv) rfl
    rfl opens
  refine ⟨by decide +kernel, linkedEntries, there, fun count expected => ?_⟩
  have kept := expected.inputsKept (Bytes.ofText "a.json") (by simp [alone])
  rw [left] at kept
  have after : ((linked.tree.fill 0 .empty).pour (some 0) "x".toUTF8).read
      (shelfRequest.inputPath (Bytes.ofText "a.json")) = .ok "x".toUTF8 := by cbv
  have before : linked.tree.read (shelfRequest.inputPath (Bytes.ofText "a.json")) =
      .ok "\"x\"".toUTF8 := by cbv
  have equal := Except.ok.inj (after.symm.trans (kept.trans before))
  exact absurd equal (by decide +kernel)

theorem torn_disappoints : shelfRequest.Disappoints shelfArguments torn := by
  have there : torn.tree.get shelfRequest.input = .ok (.directory tornEntries) := by cbv
  have alone : shelfRequest.inputs tornEntries = [Bytes.ofText "a.json"] := by cbv
  have opens : torn.tree.openFile (shelfRequest.outputPath (Bytes.ofText "a.json")) =
      .ok (torn.tree.fill 1 .empty, some 1) := by cbv
  obtain ⟨code, left⟩ := shelf_ran tornEntries torn _ _ there alone (by cbv) (by cbv) (by cbv) rfl
    rfl opens
  refine ⟨by decide +kernel, tornEntries, there, fun count expected => ?_⟩
  have exit := expected.exit
  have counted := expected.counted
  rw [code, alone] at exit
  rw [alone, List.length_singleton] at counted
  obtain rfl : count = 0 := by
    rcases Nat.le_one_iff_eq_zero_or_eq_one.mp counted with none | rfl
    · exact none
    · cases exit
  have kept := expected.restKept (Bytes.ofText "a.json") (by simp [alone]) "old".toUTF8 (by cbv)
  rw [left] at kept
  have after : ((torn.tree.fill 1 .empty).pour (some 1)
      (Mishap.part (torn.behind 8).mishap? "x")).read
        (shelfRequest.outputPath (Bytes.ofText "a.json")) = .ok .empty := by cbv
  have equal := Except.ok.inj (after.symm.trans kept)
  exact absurd equal (by decide +kernel)

theorem twins_disappoint : shelfRequest.Disappoints shelfArguments twins := by
  have there : twins.tree.get shelfRequest.input = .ok (.directory twinEntries) := by cbv
  have both : shelfRequest.inputs twinEntries =
      [0xFE :: Bytes.ofText ".json", 0xFF :: Bytes.ofText ".json"] := by cbv
  let middle := (twins.tree.put (.within [Bytes.ofText "in"] (Bytes.ofText "\ufffd.html"))
    (.file 2)).fill 2 .empty
  have opens : (twins.behind 4).tree.openFile
      (shelfRequest.outputPath (0xFE :: Bytes.ofText ".json")) = .ok (middle, some 2) := by cbv
  have named (byte : UInt8) (member : byte ∈ [0xFE, 0xFF]) :
      IsName (byte :: Bytes.ofText ".json") := by
    refine ⟨by simp, ?_, ?_, ?_⟩ <;> revert byte <;> decide +kernel
  obtain ⟨first, ran, reached, mishaps⟩ := single_done shelfRequest
    shelfRequest.channel (0xFE :: Bytes.ofText ".json") (Bytes.ofText "in") (named _ (by simp))
    (twins.behind 4) "\"x\"".toUTF8 "x" middle (some 2) (by cbv) mixed_first_converts
    (by decide +kernel) (by decide +kernel) (by cbv) (by cbv) rfl opens
  have calm : first.interrupted 5 = false := by
    rw [Session.interrupted, mishaps]
    rfl
  have reopens : first.tree.openFile (shelfRequest.outputPath (0xFF :: Bytes.ofText ".json")) =
      .ok ((middle.pour (some 2) "x".toUTF8).fill 2 .empty, some 2) := by
    rw [reached]
    cbv
  obtain ⟨second, again, rewritten, -⟩ := single_done shelfRequest
    shelfRequest.channel (0xFF :: Bytes.ofText ".json") (Bytes.ofText "in") (named _ (by simp))
    first "\"y\"".toUTF8 "y" _ _ (by rw [reached]; cbv) (by decide +kernel) (by decide +kernel)
    (by decide +kernel) (by rw [reached]; cbv) (by rw [reached]; cbv) calm reopens
  have whole : perform (shelfRequest.conversions shelfRequest.channel
      (shelfRequest.inputs twinEntries)) (twins.behind 4) = (.ok (), second) := by
    rw [both, perform_cons, ran]
    exact again
  obtain ⟨code, left⟩ := ending_conversions shelfArguments shelfRequest twins second twinEntries _
    shelf_asked there rfl (by simp [both]) whole
  refine ⟨by decide +kernel, twinEntries, there, fun count expected => ?_⟩
  have exit := expected.exit
  rw [code, both] at exit
  obtain rfl : count = 2 := by
    by_contra fewer
    rw [List.length_cons, List.length_singleton, if_neg fewer] at exit
    cases exit
  obtain ⟨number, text, entry, gives, held⟩ :=
    expected.converted (0xFE :: Bytes.ofText ".json") (by simp [both])
  have first : Entries.get? twinEntries (0xFE :: Bytes.ofText ".json") = some (.file 0) := rfl
  cases first.symm.trans entry
  cases mixed_first_converts.symm.trans gives
  rw [left, rewritten] at held
  have after : (((middle.pour (some 2) "x".toUTF8).fill 2 .empty).pour (some 2) "y".toUTF8).read
      (shelfRequest.outputPath (0xFE :: Bytes.ofText ".json")) = .ok "y".toUTF8 := by cbv
  have equal := Except.ok.inj (after.symm.trans held)
  exact absurd equal (by decide +kernel)

theorem refused_disappoints :
    Request.Disappoints ⟨.compile 18446744073709551616, Bytes.ofText "in", none, false⟩
      (shelfArguments ++ [Bytes.ofText "--max-depth", Bytes.ofText "18446744073709551616"])
      mixed := by
  have refused : Request.ofArguments? (shelfArguments ++
      [Bytes.ofText "--max-depth", Bytes.ofText "18446744073709551616"]) = none := by decide +kernel
  refine ⟨by decide +kernel, mixedEntries, by cbv, fun count expected => ?_⟩
  have exit := expected.exit
  have code : (mixed.ending (shelfArguments ++
      [Bytes.ofText "--max-depth", Bytes.ofText "18446744073709551616"])).1 = 2 := by
    rw [Session.ending, runArguments, refused]
    rfl
  rw [code] at exit
  split at exit <;> omega

end HtmlTemplate.Tool
