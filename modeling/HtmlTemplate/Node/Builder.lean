import HtmlTemplate.Node.Basic

/-!
Building elements field by field. An attribute that is added on top of a deferred mapping is set on
whatever that mapping produces.
-/

set_option autoImplicit false

namespace HtmlTemplate.Element

open Text (Shown shown)

variable {ν : Type}

def fragment : Element ν := ⟨none, none, none, none⟩

def ofTag (tag : String) : Element ν :=
  { fragment with tag := some (.literal tag) }

def deferTag (e : Element ν) (d : Deferred String) : Element ν :=
  { e with tag := some (.deferred d) }

def addAttribute (e : Element ν) (key : String) (value : Value String) : Element ν :=
  let attributes : Value Attributes :=
    match e.attributes with
    | none => .literal (Attributes.empty.set key value)
    | some (.literal attributes) => .literal (attributes.set key value)
    | some (.deferred d) => .deferred (d.map (·.set key value))
  { e with attributes := some attributes }

def attr {α : Type} [Shown α] (e : Element ν) (key : String) (value : α) : Element ν :=
  e.addAttribute key (.literal (shown value))

def deferAttr (e : Element ν) (key : String) (d : Deferred String) : Element ν :=
  e.addAttribute key (.deferred d)

def setAttributes (e : Element ν) (attributes : Attributes) : Element ν :=
  { e with attributes := some (.literal attributes) }

def deferAttributes (e : Element ν) (d : Deferred Attributes) : Element ν :=
  { e with attributes := some (.deferred d) }

def setText (e : Element ν) (s : String) : Element ν :=
  { e with body := some (.literal (.text s)) }

def setChildren (e : Element ν) (children : List ν) : Element ν :=
  { e with body := some (.literal (.nodes children)) }

def deferBody (e : Element ν) (d : Deferred (Body ν)) : Element ν :=
  { e with body := some (.deferred d) }

def setComment (e : Element ν) (s : String) : Element ν :=
  { e with comment := some (.literal s) }

def deferComment (e : Element ν) (d : Deferred String) : Element ν :=
  { e with comment := some (.deferred d) }

inductive Step (ν : Type) where
  | ofTag (tag : String)
  | fragment
  | deferTag (d : Deferred String)
  | attr (key value : String)
  | deferAttr (key : String) (d : Deferred String)
  | setAttributes (attributes : Attributes)
  | deferAttributes (d : Deferred Attributes)
  | setText (s : String)
  | setChildren (children : List ν)
  | deferBody (d : Deferred (Body ν))
  | setComment (s : String)
  | deferComment (d : Deferred String)

/-- A step on an element; the first two start anew. -/
def apply (e : Element ν) : Step ν → Element ν
  | .ofTag tag => ofTag tag
  | .fragment => fragment
  | .deferTag d => e.deferTag d
  | .attr key value => e.attr key value
  | .deferAttr key d => e.deferAttr key d
  | .setAttributes attributes => e.setAttributes attributes
  | .deferAttributes d => e.deferAttributes d
  | .setText s => e.setText s
  | .setChildren children => e.setChildren children
  | .deferBody d => e.deferBody d
  | .setComment s => e.setComment s
  | .deferComment d => e.deferComment d

def build (steps : List (Step ν)) : Element ν :=
  steps.foldl apply fragment

end HtmlTemplate.Element
