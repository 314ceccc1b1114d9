import HtmlTemplate.Json.Pointer
import HtmlTemplate.Node.Basic
import HtmlTemplate.Json.Number

/-!
Reading nodes from JSON. A string is a text; an object is a reference if it has `template` or
`params`, else an element. A value that is no node is rejected at its first part that does not fit.
-/

set_option autoImplicit false

namespace HtmlTemplate

namespace Node

inductive Expected where
  | node
  | text
  | attributes
  | attributeValue
  | body
deriving DecidableEq, Repr

def Expected.reason (expected : Expected) (found : Json.Kind) : String :=
  match expected with
  | .node => "expected a string or an object, got " ++ found.phrase
  | .text => "expected a string, got " ++ found.phrase
  | .attributes => "expected an object, got " ++ found.phrase
  | .attributeValue => "attribute values must be strings, numbers or booleans, got " ++ found.phrase
  | .body => "expected a string or an array, got " ++ found.phrase

inductive Objection where
  | kind (expected : Expected) (found : Json.Kind)
  | missingParams
  | missingTemplate
  | mixedField (name : String)
deriving DecidableEq, Repr

def Objection.reason : Objection → String
  | .kind expected found => expected.reason found
  | .missingParams => "\x60template\x60 given without \x60params\x60"
  | .missingTemplate => "\x60params\x60 given without \x60template\x60"
  | .mixedField name => "a template reference can't also have \x60" ++ name ++ "\x60"

/-- An objection to the part of a value to which a pointer leads. -/
structure Rejection where
  pointer : List String
  objection : Objection

def Rejection.here (objection : Objection) : Rejection :=
  ⟨[], objection⟩

def Rejection.under (key : String) (r : Rejection) : Rejection :=
  { r with pointer := key :: r.pointer }

def Rejection.error (r : Rejection) : Error :=
  .invalidNode (Pointer.text r.pointer) r.objection.reason

def within {α : Type} (key : String) (outcome : Except Rejection α) : Except Rejection α :=
  outcome.mapError (·.under key)

/-- The names of the fields of elements, in the order in which a reference is searched for them. -/
def elementFields : List String :=
  ["tag", "body", "children", "attributes", "attrs", "properties", "comment"]

/-- The names under which attributes may be given; the first one present is used. -/
def attributesNames : List String := ["attributes", "properties", "attrs"]

def firstPresent (fields : List (String × Json)) : List String → Option (String × Json)
  | [] => none
  | name :: names =>
    match Entries.get? fields name with
    | some value => some (name, value)
    | none => firstPresent fields names

def stringOf : Json → Except Rejection String
  | .string s => .ok s
  | other => .error (.here (.kind .text other.kind))

def stringField (fields : List (String × Json)) (name : String) :
    Except Rejection (Option String) :=
  match Entries.get? fields name with
  | none => .ok none
  | some value => within name ((stringOf value).map some)

def attributeText : Json → Except Rejection String
  | .string s => .ok s
  | .number n => .ok n.text
  | .bool b => .ok (Text.shown b)
  | other => .error (.here (.kind .attributeValue other.kind))

def attributeTexts : List (String × Json) → Except Rejection (List (String × String))
  | [] => .ok []
  | (key, value) :: rest => do
    let text ← within key (attributeText value)
    let texts ← attributeTexts rest
    return (key, text) :: texts

def attributesOf : Json → Except Rejection Attributes
  | .object fields => (attributeTexts fields).map Attributes.ofList
  | other => .error (.here (.kind .attributes other.kind))

def attributesField (fields : List (String × Json)) : Except Rejection (Option Attributes) :=
  match firstPresent fields attributesNames with
  | none => .ok none
  | some (name, value) => within name ((attributesOf value).map some)

def referenceOf (fields : List (String × Json)) : Except Rejection Reference :=
  match Entries.get? fields "template", Entries.get? fields "params" with
  | some _, none => .error (.here .missingParams)
  | none, _ => .error (.here .missingTemplate)
  | some name, some params =>
    match elementFields.find? (Entries.has fields) with
    | some field => .error (.here (.mixedField field))
    | none => do
      let name ← within "template" (stringOf name)
      return ⟨name, params⟩

mutual
def ofJson : Json → Except Rejection Node
  | .string s => .ok (.text s)
  | .object fields =>
    if Entries.has fields "template" || Entries.has fields "params" then
      (referenceOf fields).map .reference
    else do
      let tag ← stringField fields "tag"
      let comment ← stringField fields "comment"
      let attributes ← attributesField fields
      let body ←
        match bodyNamed "body" fields with
        | some body => body.map some
        | none =>
          match bodyNamed "children" fields with
          | some body => body.map some
          | none => .ok none
      return .element
        ⟨tag.map .literal, attributes.map .literal, body.map .literal, comment.map .literal⟩
  | other => .error (.here (.kind .node other.kind))
def bodyOf : Json → Except Rejection (Body Node)
  | .string s => .ok (.text s)
  | .array items => (ofItems 0 items).map .nodes
  | other => .error (.here (.kind .body other.kind))
/-- The body that an object gives under a name, if it has that name. -/
def bodyNamed (name : String) : List (String × Json) → Option (Except Rejection (Body Node))
  | [] => none
  | (key, value) :: rest =>
    if key = name then some (within name (bodyOf value)) else bodyNamed name rest
def ofItems (i : Nat) : List Json → Except Rejection (List Node)
  | [] => .ok []
  | item :: rest => do
    let node ← within (Pointer.indexKey i) (ofJson item)
    let nodes ← ofItems (i + 1) rest
    return node :: nodes
end

def fromJson (value : Json) : Except Error Node :=
  (ofJson value).mapError Rejection.error

def fromText (text : String) : Except Error Node := do
  let value ← (Json.read text).mapError .malformedJson
  fromJson value

/-- Reads one value from the front of a text and makes a node of it, and only then looks at what
follows. A value that is no node is refused as JSON, without a position. -/
def decode (text : String) : Except Error Node := do
  let (value, rest) ← (Json.readFront text).mapError .malformedJson
  let node ← (fromJson value).mapError fun e => .refusedJson (.ofText e.message)
  match Json.readEnd rest with
  | .ok () => return node
  | .error stop => throw (.malformedJson (stop.within text))

end Node

end HtmlTemplate
