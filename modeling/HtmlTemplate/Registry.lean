import HtmlTemplate.Node.Basic

/-!
Named templates. The first template registered under a name stays; a name that is not registered
stands for the empty text.
-/

set_option autoImplicit false

namespace HtmlTemplate

/-- A template makes a node of its parameters; it may depend on what has run before. -/
abbrev Template := Trace → Json → Except Error Node

structure Registry where
  templates : List (String × Template)
  distinct : (Entries.keys templates).Nodup

namespace Registry

def empty : Registry := ⟨[], List.nodup_nil⟩

instance : Inhabited Registry := ⟨empty⟩

def contains (registry : Registry) (name : String) : Bool :=
  Entries.has registry.templates name

def register (registry : Registry) (name : String) (template : Template) : Registry × Bool :=
  if registry.contains name then (registry, false)
  else
    (⟨Entries.set registry.templates name template,
      Entries.distinct_set registry.distinct name template⟩, true)

def ofList (templates : List (String × Template)) : Registry :=
  templates.foldl (fun registry entry => (registry.register entry.1 entry.2).1) empty

def size (registry : Registry) : Nat :=
  registry.templates.length

def isEmpty (registry : Registry) : Bool :=
  registry.templates.isEmpty

def names (registry : Registry) : List String :=
  (Entries.keys registry.templates).mergeSort fun a b => decide (a ≤ b)

def lookup (registry : Registry) (name : String) (params : Json) : Run Node := do
  let past ← get
  match Entries.get? registry.templates name with
  | some template =>
    set (Event.called name params :: past)
    Run.ofExcept (template past params)
  | none =>
    set (Event.missed name params :: past)
    return .empty

end Registry

end HtmlTemplate
