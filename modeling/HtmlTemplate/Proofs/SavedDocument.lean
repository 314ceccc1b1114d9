import HtmlTemplate.Proofs.ConversionRun
import HtmlTemplate.Proofs.DocumentJson
import HtmlTemplate.Proofs.ParseDepth

/-!
What is written for parsed markup is loaded again, unless its JSON form is nested too deep for the
reader. The limits of parsing and of rendering play no part in this.
-/

set_option autoImplicit false

namespace HtmlTemplate

open Node (ofDocument)
open Tool (perform compileFile parseFile)

-- Loading a text gives a node, and rendering a file with this text does what rendering it does.
def Node.LoadedFrom (node : Node) (text : String) : Prop :=
  fromText text = .ok node ∧
    ∀ channel limit path session, Tool.Session.Offers session path text →
      perform (compileFile channel limit path) session =
        (((node.render .empty limit).account []).outcome, session.behind 1)

-- Loading a text fails at a bracket that is nested too deep, also where a file has this text.
def Node.RefusedAsTooDeep (text : String) : Prop :=
  ∃ m, m.flaw = .tooDeep ∧ fromText text = .error (.malformedJson m) ∧
    ∀ channel limit path session, Tool.Session.Offers session path text →
      perform (compileFile channel limit path) session =
        (.error (.during (.loadingTemplate path) (.malformedJson m)), session.behind 1)

theorem loaded_from_read (document : List Dom) (text : String)
    (read : Json.read text = .ok (Dom.documentForm document)) :
    (ofDocument document).LoadedFrom text := by
  have loaded : Node.fromText text = .ok (ofDocument document) := by
    rw [Node.fromText, read]
    exact from_json_document document
  refine ⟨loaded, fun channel limit path session offered => ?_⟩
  rw [Tool.perform_compile_file path text session offered channel limit _ loaded,
    Tool.unknownTemplates, of_document_references]
  rfl

theorem refused_from_read (text : String) (m : Json.Malformed) (deep : m.flaw = .tooDeep)
    (read : Json.read text = .error m) : Node.RefusedAsTooDeep text := by
  have refused : Node.fromText text = .error (.malformedJson m) := by
    rw [Node.fromText, read]
    rfl
  refine ⟨m, deep, refused, fun channel limit path session offered => ?_⟩
  exact Tool.perform_compile_refused path text session offered channel limit _ refused

theorem document_reloaded (document : List Dom) (dense : Bool) (trailing : String)
    (blank : Json.Blank trailing.toList) :
    let value := Dom.documentForm document
    let text := (if dense then Json.compact else Json.pretty) value ++ trailing
    (value.nesting ≤ Json.nestingLimit → (ofDocument document).LoadedFrom text) ∧
      (Json.nestingLimit < value.nesting → Node.RefusedAsTooDeep text) := by
  intro value text
  rcases Json.read_written dense value trailing blank (Dom.document_form_legible document) with
    ⟨fits, read⟩ | ⟨deep, m, read, flaw⟩
  · exact ⟨fun _ => loaded_from_read document text read, fun deep => by omega⟩
  · exact ⟨fun fits => by omega, fun _ => refused_from_read text m flaw read⟩

theorem line_break_is_blank : Json.Blank "\n".toList := by
  simp [Json.Blank, Json.isBlank]

theorem encode_of_document (document : List Dom) (format : Json → String) :
    (ofDocument document).encode format = .ok (format (Dom.documentForm document)) := by
  rw [Node.encode, to_json_of_document]

theorem parsed_node_reloaded (options : Dom.Options) (text : String) (node : Node)
    (parsed : (Node.parse options text).outcome = .ok node) :
    ∃ document value, (Dom.parse options text).outcome = .ok document ∧
      node.toJson = .ok value ∧
      2 * Dom.depthOf document ≤ value.nesting + 1 ∧
      value.nesting ≤ 2 * Dom.depthOf document + 4 ∧
      ∀ dense : Bool,
        let format := if dense then Json.compact else Json.pretty
        node.encode format = .ok (format value) ∧
        (∀ channel source session, Tool.Session.Offers session source text →
          perform (parseFile channel options dense source) session =
            (.ok (format value ++ "\n"),
              (session.behind 1).told channel (Node.parse options text).notices)) ∧
        (∀ target session later,
          perform (Files.writeText target (format value ++ "\n")) session = (.ok (), later) →
            later.tree.Keeps target → later.Holds target (format value ++ "\n")) ∧
        ∀ written ∈ [format value, format value ++ "\n"],
          (value.nesting ≤ Json.nestingLimit → node.LoadedFrom written) ∧
            (Json.nestingLimit < value.nesting → Node.RefusedAsTooDeep written) := by
  have opened := parsed
  rw [node_parse_outcome, Node.map_ok] at opened
  obtain ⟨document, found, rfl⟩ := opened
  obtain ⟨least, most⟩ := Dom.document_form_nesting document
  refine ⟨document, _, found, to_json_of_document document, least, most, fun dense => ?_⟩
  intro format
  have encoded := encode_of_document document format
  refine ⟨encoded, fun channel source session offered => ?_,
    fun target session later done keeps => ?_, ?_⟩
  · exact Tool.perform_parse_file source text session offered channel options dense _ _ parsed
      encoded
  · exact Tool.perform_write_text target _ session later done keeps
  · intro written member
    rcases List.mem_pair.mp member with rfl | rfl
    · have bare := document_reloaded document dense "" Json.blank_nil
      simpa only [String.append_empty] using bare
    · exact document_reloaded document dense "\n" line_break_is_blank

def quotingText : String :=
  "<p title='\"'>a\\\n<!--c--></p>"

def quotingForm : Json :=
  .object
    [("tag", .string "p"), ("attributes", .object [("title", .string "\"")]),
      ("body", .array [.object [("body", .string "a\\\n")], .object [("comment", .string "c")]])]

theorem quoting_paragraph_reloaded :
    ∃ node, (Node.parse .default quotingText).outcome = .ok node ∧
      node.toJson = .ok quotingForm ∧
      Json.compact quotingForm =
        "\x7b\"tag\":\"p\",\"attributes\":\x7b\"title\":\"\\\"\"\x7d," ++
          "\"body\":[\x7b\"body\":\"a\\\\\\n\"\x7d,\x7b\"comment\":\"c\"\x7d]\x7d" ∧
      node.LoadedFrom (Json.compact quotingForm) ∧
      node.LoadedFrom (Json.pretty quotingForm ++ "\n") := by
  have read : (Dom.parse .default quotingText).outcome =
      .ok [.element "p" [("title", "\"")] [.text "a\\\n", .comment "c"]] := rfl
  have parsed := congrArg (Except.map ofDocument) read
  obtain ⟨document, value, _, written, _, _, formats⟩ :=
    parsed_node_reloaded .default quotingText _ parsed
  obtain rfl : value = quotingForm := Except.ok.inj (written.symm.trans rfl)
  have fits : quotingForm.nesting ≤ Json.nestingLimit := by decide
  obtain ⟨_, _, _, compactly⟩ := formats true
  obtain ⟨_, _, _, prettily⟩ := formats false
  refine ⟨_, parsed, written, by decide +kernel, ?_, ?_⟩
  · exact (compactly _ List.mem_cons_self).1 fits
  · exact (prettily _ (List.mem_cons_of_mem _ List.mem_cons_self)).1 fits

theorem paragraph_text (child : Dom) :
    (Dom.element "p" [] [child]).serialize = "<p>" ++ child.serialize ++ "</p>" := by
  have tag : Dom.writtenTag "p" = "p" := by decide +kernel
  have wrapping : Render.isSelfClosing "p" = false := by decide
  have plain : Entries.firstPlaceLastValue ([] : List (String × String)) = [] := rfl
  rw [← String.toList_inj]
  simp [Dom.serialize, Dom.serializeAll, tag, wrapping, plain, Dom.attributesMarkup]

theorem paragraphs_text (depth : Nat) :
    (paragraphs depth).serialize =
      String.join (List.replicate depth "<p>") ++ "<br/>" ++
        String.join (List.replicate depth "</p>") := by
  induction depth with
  | zero => decide +kernel
  | succ depth ih =>
      rw [paragraphs, paragraph_text, ih, List.replicate_succ, List.replicate_succ']
      simp [String.join_cons, String.append_assoc]

theorem paragraphs_form_nesting (depth : Nat) : (paragraphs depth).form.nesting = 2 * depth + 1 := by
  induction depth with
  | zero => rfl
  | succ depth ih =>
      have body : Dom.bodyForm [paragraphs depth] = .array [(paragraphs depth).form] := by
        cases depth <;> rfl
      rw [paragraphs, Dom.element_form_nesting, body]
      simp [Json.nesting, Json.nestingOf, ih]
      omega

theorem paragraphs_parsed (depth limit : Nat) (fits : depth ≤ limit) :
    (Dom.parse ⟨false, limit⟩ (Dom.serializeAll [paragraphs depth])).outcome =
      .ok [paragraphs depth] := by
  have safe : Dom.safeAll Dom.rawElements [paragraphs depth] := by
    simp [Dom.safeAll, paragraphs_safe, Dom.beginsWithText]
  have opened : Dom.openNestingOf [paragraphs depth] ≤ limit := by
    simpa [Dom.openNestingOf, paragraphs_open] using fits
  have parsed := Dom.parse_serialized [paragraphs depth] limit safe opened
  rwa [Dom.withDoctypesAll, paragraphs_with_doctypes] at parsed

theorem paragraphs_document_form (depth : Nat) :
    Dom.documentForm [paragraphs depth] = (paragraphs depth).form := by
  cases depth <;> rfl

theorem nested_paragraphs_refused :
    let text :=
      String.join (List.replicate 64 "<p>") ++ "<br/>" ++ String.join (List.replicate 64 "</p>")
    ∃ node, (Node.parse .default text).outcome = .ok node ∧
      (node.render .empty Render.defaultLimit).account [] = ⟨.ok text, [], []⟩ ∧
      ∀ dense : Bool, ∃ written,
        node.encode (if dense then Json.compact else Json.pretty) = .ok written ∧
        Node.RefusedAsTooDeep written ∧ Node.RefusedAsTooDeep (written ++ "\n") := by
  intro text
  have same : Dom.serializeAll [paragraphs 64] = text := by
    rw [Dom.serializeAll, Dom.serializeAll, String.append_empty, paragraphs_text]
  have parsed := paragraphs_parsed 64 Dom.Options.default.limit (by decide)
  rw [same] at parsed
  have nesting : (Dom.documentForm [paragraphs 64]).nesting = 129 := by
    rw [paragraphs_document_form, paragraphs_form_nesting]
  have deep : Json.nestingLimit < (Dom.documentForm [paragraphs 64]).nesting := by
    rw [nesting]
    decide
  have shallow : Dom.depthOf [paragraphs 64] < Render.defaultLimit := by
    have bound := (Dom.document_form_nesting [paragraphs 64]).1
    rw [nesting] at bound
    rw [Render.defaultLimit]
    omega
  refine ⟨ofDocument [paragraphs 64], ?_, ?_, fun dense => ?_⟩
  · rw [node_parse_outcome]
    exact congrArg (Except.map ofDocument) parsed
  · rw [render_document_deep _ .empty _ shallow, Run.pure_account, same]
  · have bare := (document_reloaded [paragraphs 64] dense "" Json.blank_nil).2 deep
    rw [String.append_empty] at bare
    exact ⟨_, encode_of_document _ _, bare,
      (document_reloaded [paragraphs 64] dense "\n" line_break_is_blank).2 deep⟩

end HtmlTemplate
