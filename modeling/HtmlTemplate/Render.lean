import HtmlTemplate.Resolved

/-!
HTML text from nodes. Texts, attribute values and comments are written as they are, without any
escaping.
-/

set_option autoImplicit false

namespace HtmlTemplate.Render

def doctype : String := "<!DOCTYPE html>"

def selfClosingTags : List String :=
  ["area", "base", "br", "col", "command", "embed", "hr", "img", "input", "link", "meta", "param",
    "source"]

def isSelfClosing (tag : String) : Bool :=
  selfClosingTags.contains tag

def defaultLimit : Nat := 512

def commentText : Option String → String
  | none => ""
  | some comment => "<!--" ++ comment ++ "-->"

def attributesText : List (String × String) → String
  | [] => ""
  | (key, value) :: rest => " " ++ key ++ "=\"" ++ value ++ "\"" ++ attributesText rest

def openingText (tag : String) (e : ResolvedElement) : String :=
  (if tag = "html" then doctype else "") ++ commentText e.comment ++ "<" ++ tag ++
    attributesText e.attributes

def closingText (tag : String) : String :=
  "</" ++ tag ++ ">"

variable (child : Node → Run String)

def children : List Node → Run String
  | [] => pure ""
  | node :: rest => do
    let first ← child node
    let others ← children rest
    return first ++ others

def body : Body Node → Run String
  | .text s => pure s
  | .nodes nodes => children child nodes

def element (e : ResolvedElement) : Run String :=
  match e.tag with
  | none => do
    let content ← body child e.body
    return commentText e.comment ++ content
  | some tag =>
    if isSelfClosing tag then return openingText tag e ++ "/>"
    else do
      let content ← body child e.body
      return openingText tag e ++ ">" ++ content ++ closingText tag

/-- A node, with room for `room` levels including its own. -/
def node (registry : Registry) (limit : Nat) : (room : Nat) → Node → Run String
  | 0, _ => throw (.tooDeep limit)
  | room + 1, n => do
    match ← n.resolve registry limit with
    | .text s => pure s
    | .element e => element (node registry limit room) e

end Render

/-- The HTML text of a node. Nesting, and every chain of references, may be `limit` deep. -/
def Node.render (registry : Registry) (limit : Nat) (node : Node) : Run String :=
  Render.node registry limit (limit + 1) node

/-- What reaches a writer: all of the text, or nothing if it could not be made. -/
def Account.written (account : Account String) : String :=
  match account.outcome with
  | .ok text => text
  | .error _ => ""

end HtmlTemplate
