import HtmlTemplate.Decimal.Word
import HtmlTemplate.Dom.Builder
import HtmlTemplate.Render
import HtmlTemplate.Text.Bytes

set_option autoImplicit false

namespace HtmlTemplate.Tool

inductive Command where
  | compile (limit : Nat)
  | parse (options : Dom.Options) (compact : Bool)

structure Request where
  command : Command
  input : Bytes
  output : Option Bytes
  verbose : Bool

structure Draft where
  input : Option Bytes
  output : Option Bytes
  limit : Option Nat
  strict : Bool
  compact : Bool

def Draft.empty : Draft := ⟨none, none, none, false, false⟩

/-- A number of at most 64 bits, without a sign or with a plus. -/
def number? (text : String) : Option Nat :=
  match text.toList with
  | '+' :: digits => Decimal.word? digits
  | digits => Decimal.word? digits

def Draft.setInput? (draft : Draft) (input : Bytes) : Option Draft :=
  match draft.input with
  | none => some { draft with input := some input }
  | some _ => none

def Draft.setOutput? (draft : Draft) (output : Bytes) : Option Draft :=
  match draft.output with
  | none => some { draft with output := some output }
  | some _ => none

def Draft.setLimit? (draft : Draft) (value : Bytes) : Option Draft :=
  match draft.limit, value.text?.bind number? with
  | none, some n => some { draft with limit := some n }
  | _, _ => none

def Draft.setStrict? (draft : Draft) : Option Draft :=
  if draft.strict then none else some { draft with strict := true }

def Draft.setCompact? (draft : Draft) : Option Draft :=
  if draft.compact then none else some { draft with compact := true }

def attached? (option : String) (argument : Bytes) : Option Bytes :=
  let lead := Bytes.ofText (option ++ "=")
  if lead.isPrefixOf argument then some (argument.drop lead.length) else none

/-- Whether an argument can be the value of the option before it. -/
def isValue (argument : Bytes) : Bool :=
  argument.head? ≠ some '-'.toUInt8 || argument = Bytes.ofText "-"

/-- The value written in one word with a short option, with or without an equals sign. -/
def short? (argument : Bytes) : Option Bytes :=
  if (Bytes.ofText "-o").isPrefixOf argument then
    match argument.drop 2 with
    | [] => none
    | byte :: rest => some (if byte = '='.toUInt8 then rest else byte :: rest)
  else none

/-- One argument that needs no other. `parsing` tells whether the options of parsing are known. -/
def Draft.alone? (parsing : Bool) (draft : Draft) (argument : Bytes) : Option Draft :=
  if parsing && argument = Bytes.ofText "--strict" then draft.setStrict?
  else if parsing && argument = Bytes.ofText "--compact" then draft.setCompact?
  else
    match attached? "--output" argument, attached? "--max-depth" argument, short? argument with
    | some output, _, _ => draft.setOutput? output
    | none, some value, _ => draft.setLimit? value
    | none, none, some output => draft.setOutput? output
    | none, none, none => if isValue argument then draft.setInput? argument else none

/-- The arguments behind a subcommand. Behind two dashes all are inputs. -/
def Draft.read (parsing : Bool) (draft : Draft) : List Bytes → Option Draft
  | [] => some draft
  | argument :: rest =>
    if argument = Bytes.ofText "--" then rest.foldlM setInput? draft
    else if argument = Bytes.ofText "-o" || argument = Bytes.ofText "--output" then
      match rest with
      | [] => none
      | value :: rest =>
        if isValue value then (draft.setOutput? value).bind (read parsing · rest) else none
    else if argument = Bytes.ofText "--max-depth" then
      match rest with
      | [] => none
      | value :: rest =>
        if isValue value then (draft.setLimit? value).bind (read parsing · rest) else none
    else (draft.alone? parsing argument).bind (read parsing · rest)

def Draft.request? (draft : Draft) (command : Command) (verbose : Bool) : Option Request :=
  draft.input.map fun input => ⟨command, input, draft.output, verbose⟩

def Request.ofCommand? (verbose : Bool) : List Bytes → Option Request
  | [] => none
  | command :: arguments =>
    if command = Bytes.ofText "compile" then do
      let draft ← Draft.empty.read false arguments
      draft.request? (.compile (draft.limit.getD Render.defaultLimit)) verbose
    else if command = Bytes.ofText "parse" then do
      let draft ← Draft.empty.read true arguments
      let options : Dom.Options := ⟨draft.strict, draft.limit.getD Dom.Options.default.limit⟩
      draft.request? (.parse options draft.compact) verbose
    else none

def Request.ofArguments? : List Bytes → Option Request
  | [] => none
  | first :: arguments =>
    if first = Bytes.ofText "-v" || first = Bytes.ofText "--verbose" then
      ofCommand? true arguments
    else ofCommand? false (first :: arguments)

end HtmlTemplate.Tool
