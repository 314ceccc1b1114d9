import HtmlTemplate.Proofs.DistinctNames
import HtmlTemplate.Proofs.LossyText
import HtmlTemplate.Proofs.PathNames
import HtmlTemplate.Proofs.TextOrder
import HtmlTemplate.Tool.Convert

set_option autoImplicit false

namespace HtmlTemplate.Tool

open Files (Entry)
open Files.Path (IsName join dot slash)

namespace Request

def target (request : Request) : Bytes :=
  request.output.getD request.input

def inputPath (request : Request) (name : Bytes) : Bytes :=
  join request.input name

-- What stands before the last dot of a name, as far as it is text, with the other extension.
def outputName (request : Request) (name : Bytes) : Bytes :=
  Bytes.ofText ((Files.Path.partName name).1.lossy ++ "." ++ request.command.outputExtension)

def outputPath (request : Request) (name : Bytes) : Bytes :=
  join request.target (request.outputName name)

-- A name with the extension of the inputs behind its last dot, and something before it.
def IsInput (request : Request) (name : Bytes) : Prop :=
  ∃ stem : Bytes, stem ≠ [] ∧ name = stem ++ dot :: Bytes.ofText request.command.inputExtension

end Request

theorem extensions_either (command : Command) :
    (command.inputExtension = "json" ∧ command.outputExtension = "html") ∨
      (command.inputExtension = "html" ∧ command.outputExtension = "json") := by
  cases command with
  | compile limit => exact .inl ⟨rfl, rfl⟩
  | parse options compact => exact .inr ⟨rfl, rfl⟩

theorem input_extension_plain (command : Command) :
    dot ∉ Bytes.ofText command.inputExtension := by
  rcases extensions_either command with ⟨same, -⟩ | ⟨same, -⟩ <;>
  · rw [same]
    decide +kernel

theorem output_extension_plain (command : Command) :
    Bytes.ofText command.outputExtension ≠ [] ∧ dot ∉ Bytes.ofText command.outputExtension ∧
      slash ∉ Bytes.ofText command.outputExtension := by
  rcases extensions_either command with ⟨-, same⟩ | ⟨-, same⟩ <;>
  · rw [same]
    decide +kernel

theorem extensions_differ (command : Command) :
    Bytes.ofText command.inputExtension ≠ Bytes.ofText command.outputExtension := by
  rcases extensions_either command with ⟨input, output⟩ | ⟨input, output⟩ <;>
  · rw [input, output]
    decide +kernel

theorem of_text_extended (stem ext : String) :
    Bytes.ofText (stem ++ "." ++ ext) = Bytes.ofText stem ++ dot :: Bytes.ofText ext := by
  have dotted : Bytes.ofText "." = [dot] := by decide +kernel
  rw [Bytes.of_text_append, Bytes.of_text_append, dotted, List.append_assoc]
  rfl

section Names

variable (request : Request)

theorem stem_join (directory name : Bytes) (named : IsName name) :
    Files.Path.stem? (join directory name) = some (Files.Path.partName name).1 := by
  rw [Files.Path.stem?, Files.Path.file_name_join directory name named]
  rfl

theorem output_named (name : Bytes) (named : IsName name) (input : request.IsInput name) :
    ∃ stem : Bytes, stem ≠ [] ∧
      name = stem ++ dot :: Bytes.ofText request.command.inputExtension ∧
      request.outputName name =
        Bytes.ofText stem.lossy ++ dot :: Bytes.ofText request.command.outputExtension ∧
      IsName (request.outputName name) := by
  obtain ⟨stem, inhabited, rfl⟩ := input
  obtain ⟨longer, plain, extWhole⟩ := output_extension_plain request.command
  have parted := Files.Path.part_name_extended stem _ inhabited
    (input_extension_plain request.command)
  have called : request.outputName
        (stem ++ dot :: Bytes.ofText request.command.inputExtension) =
      Bytes.ofText stem.lossy ++ dot :: Bytes.ofText request.command.outputExtension := by
    rw [Request.outputName, parted, of_text_extended]
  refine ⟨stem, inhabited, rfl, called, ?_⟩
  rw [called]
  refine Files.Path.is_name_extended _ _ (Bytes.lossy_inhabited stem inhabited) ?_ longer extWhole
  intro parting
  exact named.whole (List.mem_append_left _ (Bytes.lossy_ascii stem slash (by decide) parting))

theorem output_name_no_input (name other : Bytes) (named : IsName name)
    (input : request.IsInput name) (otherInput : request.IsInput other) :
    request.outputName name ≠ other := by
  obtain ⟨stem, inhabited, -, called, outputNamed⟩ := output_named request name named input
  obtain ⟨otherStem, otherInhabited, rfl⟩ := otherInput
  intro same
  have plain := (output_extension_plain request.command).2.1
  have ended := (Files.Path.extension_some _ _ outputNamed).mpr
    ⟨_, Bytes.lossy_inhabited stem inhabited, plain, called⟩
  have otherEnded := (Files.Path.extension_some _ _ outputNamed).mpr
    ⟨otherStem, otherInhabited, input_extension_plain request.command, same⟩
  exact extensions_differ request.command (Option.some.inj (otherEnded.symm.trans ended))

theorem output_name_text (text : String)
    (input : request.IsInput (Bytes.ofText (text ++ "." ++ request.command.inputExtension))) :
    request.outputName (Bytes.ofText (text ++ "." ++ request.command.inputExtension)) =
      Bytes.ofText (text ++ "." ++ request.command.outputExtension) := by
  rw [of_text_extended text request.command.inputExtension] at input ⊢
  obtain ⟨stem, inhabited, same⟩ := input
  obtain rfl := List.append_cancel_right same
  have parted := Files.Path.part_name_extended (Bytes.ofText text) _ inhabited
    (input_extension_plain request.command)
  rw [Request.outputName, parted, Bytes.lossy_text]

end Names

def fileNames (entries : List (Bytes × Entry)) : List Bytes :=
  entries.filterMap fun (name, entry) =>
    match entry with
    | .file _ => some name
    | _ => none

def namesWithExtension (entries : List (Bytes × Entry)) (extension : String) : List Bytes :=
  ((fileNames entries).filter fun name =>
    Files.Path.extension? name = some (Bytes.ofText extension)).mergeSort
      fun a b => decide (a ≤ b)

theorem file_names_sublist (entries : List (Bytes × Entry)) :
    (fileNames entries).Sublist (Entries.keys entries) := by
  induction entries with
  | nil => exact .slnil
  | cons entry rest ih =>
      obtain ⟨name, entry⟩ := entry
      cases entry with
      | file number => exact ih.cons_cons name
      | directory inner => exact ih.cons name
      | link target => exact ih.cons name
      | special given => exact ih.cons name

theorem file_names_member (entries : List (Bytes × Entry))
    (distinct : (Entries.keys entries).Nodup) (name : Bytes) :
    name ∈ fileNames entries ↔ ∃ number, Entries.get? entries name = some (.file number) := by
  rw [fileNames, List.mem_filterMap]
  constructor
  · rintro ⟨⟨other, entry⟩, member, kept⟩
    cases entry with
    | file number =>
        cases kept
        exact ⟨number, Entries.get_of_mem entries distinct (name, .file number) member⟩
    | directory inner => cases kept
    | link target => cases kept
    | special given => cases kept
  · rintro ⟨number, held⟩
    exact ⟨(name, .file number), Entries.mem_of_get? entries name _ held, rfl⟩

theorem names_ascending (entries : List (Bytes × Entry)) (extension : String)
    (distinct : (Entries.keys entries).Nodup) :
    (namesWithExtension entries extension).Pairwise (· < ·) := by
  refine Text.sorted_ascending _ ?_
  exact (distinct.sublist (file_names_sublist entries)).filter _

theorem names_member (request : Request) (entries : List (Bytes × Entry))
    (named : ∀ name ∈ Entries.keys entries, IsName name) (distinct : (Entries.keys entries).Nodup)
    (name : Bytes) :
    name ∈ namesWithExtension entries request.command.inputExtension ↔
      request.IsInput name ∧ ∃ number, Entries.get? entries name = some (.file number) := by
  rw [namesWithExtension, (List.mergeSort_perm _ _).mem_iff, List.mem_filter,
    file_names_member entries distinct, decide_eq_true_eq, and_comm]
  refine and_congr_left ?_
  rintro ⟨number, held⟩
  have key : name ∈ Entries.keys entries :=
    List.mem_map_of_mem (Entries.mem_of_get? entries name _ held)
  rw [Files.Path.extension_some name _ (named name key)]
  constructor
  · rintro ⟨stem, inhabited, -, same⟩
    exact ⟨stem, inhabited, same⟩
  · rintro ⟨stem, inhabited, same⟩
    exact ⟨stem, inhabited, input_extension_plain request.command, same⟩

end HtmlTemplate.Tool
