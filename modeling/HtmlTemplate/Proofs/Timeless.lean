import HtmlTemplate.Proofs.CallOrder

/-!
Templates that are functions of their parameters alone. What a reference stands for is then the same
whenever it is looked up.
-/

set_option autoImplicit false

namespace HtmlTemplate

namespace Registry

def Timeless (registry : Registry) : Prop :=
  ∀ entry ∈ registry.templates, ∀ past other params, entry.2 past params = entry.2 other params

-- What a reference stands for when nothing has run yet.
def target (registry : Registry) (r : Reference) : Except Error Node :=
  match Entries.get? registry.templates r.name with
  | some template => template [] r.params
  | none => .ok .empty

def lookupEvent (registry : Registry) (r : Reference) : Event :=
  match Entries.get? registry.templates r.name with
  | some _ => .called r.name r.params
  | none => .missed r.name r.params

end Registry

theorem lookup_timeless (registry : Registry) (timeless : registry.Timeless) (r : Reference)
    (past : Trace) :
    (registry.lookup r.name r.params).run.run past =
      (registry.target r, registry.lookupEvent r :: past) := by
  rw [lookup_run, Registry.target, Registry.lookupEvent]
  cases known : Entries.get? registry.templates r.name with
  | none => rfl
  | some template =>
      have same : template past r.params = template [] r.params :=
        timeless _ (Entries.mem_of_get? _ _ _ known) past [] r.params
      simp only [same]

end HtmlTemplate
