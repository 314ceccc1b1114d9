set_option autoImplicit false

namespace HtmlTemplate.Text

class Shown (α : Type) where
  shown : α → String

export Shown (shown)

instance : Shown String := ⟨fun s => s⟩
instance : Shown Nat := ⟨fun n => toString n⟩
instance : Shown Int := ⟨fun n => toString n⟩
instance : Shown Bool := ⟨fun b => if b then "true" else "false"⟩

end HtmlTemplate.Text
