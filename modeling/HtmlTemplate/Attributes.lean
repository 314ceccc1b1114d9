import HtmlTemplate.Entries
import HtmlTemplate.Text.Shown
import HtmlTemplate.Value

/-!
The attributes of an element, in the order in which they are written out: the order of first
setting.
-/

set_option autoImplicit false

namespace HtmlTemplate

structure Attributes where
  entries : List (String × Value String)
  distinct : (Entries.keys entries).Nodup

namespace Attributes

open Text (Shown shown)

def empty : Attributes := ⟨[], List.nodup_nil⟩

instance : Inhabited Attributes := ⟨empty⟩

def set (attributes : Attributes) (key : String) (value : Value String) : Attributes :=
  ⟨Entries.set attributes.entries key value, Entries.distinct_set attributes.distinct key value⟩

def put {α : Type} [Shown α] (attributes : Attributes) (key : String) (value : α) : Attributes :=
  attributes.set key (.literal (shown value))

def ofList (pairs : List (String × String)) : Attributes :=
  pairs.foldl (fun attributes pair => attributes.put pair.1 pair.2) empty

def get? (attributes : Attributes) (key : String) : Option (Value String) :=
  Entries.get? attributes.entries key

def size (attributes : Attributes) : Nat :=
  attributes.entries.length

def isEmpty (attributes : Attributes) : Bool :=
  attributes.entries.isEmpty

def forceAll : List (String × Value String) → Run (List (String × String))
  | [] => pure []
  | (key, value) :: rest => do
    let text ← value.force
    let texts ← forceAll rest
    return (key, text) :: texts

def force (attributes : Attributes) : Run (List (String × String)) :=
  forceAll attributes.entries

end Attributes

end HtmlTemplate
