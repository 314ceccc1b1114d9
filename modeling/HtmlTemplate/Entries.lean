/-!
Named entries in the order in which their names were first set. Setting a name that is already
there replaces its value where it stands, so no name is held twice.
-/

set_option autoImplicit false

namespace HtmlTemplate.Entries

variable {κ α : Type}

def keys (entries : List (κ × α)) : List κ :=
  entries.map Prod.fst

variable [DecidableEq κ]

def set (entries : List (κ × α)) (key : κ) (value : α) : List (κ × α) :=
  match entries with
  | [] => [(key, value)]
  | (k, v) :: rest => if k = key then (k, value) :: rest else (k, v) :: set rest key value

def get? (entries : List (κ × α)) (key : κ) : Option α :=
  match entries with
  | [] => none
  | (k, v) :: rest => if k = key then some v else get? rest key

def has (entries : List (κ × α)) (key : κ) : Bool :=
  (get? entries key).isSome

def setAll (entries pairs : List (κ × α)) : List (κ × α) :=
  pairs.foldl (fun held pair => set held pair.1 pair.2) entries

@[simp] theorem get?_set (entries : List (κ × α)) (key other : κ) (value : α) :
    get? (set entries key value) other = if key = other then some value else get? entries other := by
  induction entries with
  | nil => simp [set, get?]
  | cons entry rest ih =>
      obtain ⟨k, v⟩ := entry
      by_cases same : k = key
      · subst same
        by_cases asked : k = other <;> simp [set, get?, asked]
      · by_cases asked : k = other
        · subst asked
          simp [set, get?, same, Ne.symm same]
        · simp [set, get?, same, asked, ih]

theorem mem_of_get? (entries : List (κ × α)) (key : κ) (value : α)
    (held : get? entries key = some value) : (key, value) ∈ entries := by
  induction entries with
  | nil => cases held
  | cons entry rest ih =>
      obtain ⟨k, v⟩ := entry
      by_cases same : k = key
      · simp only [get?, if_pos same, Option.some.injEq] at held
        simp [same, held]
      · simp only [get?, if_neg same] at held
        exact List.mem_cons_of_mem _ (ih held)

theorem set_map {β : Type} (f : α → β) (entries : List (κ × α)) (key : κ) (value : α) :
    set (entries.map fun entry => (entry.1, f entry.2)) key (f value) =
      (set entries key value).map fun entry => (entry.1, f entry.2) := by
  induction entries with
  | nil => rfl
  | cons entry rest ih =>
      by_cases same : entry.1 = key <;> simp [set, same, ih]

theorem keys_set (entries : List (κ × α)) (key : κ) (value : α) :
    keys (set entries key value) =
      if key ∈ keys entries then keys entries else keys entries ++ [key] := by
  induction entries with
  | nil => simp [set, keys]
  | cons entry rest ih =>
      obtain ⟨k, v⟩ := entry
      simp only [keys] at ih
      by_cases same : k = key
      · simp [set, keys, same]
      · by_cases held : key ∈ rest.map Prod.fst
        · simp [set, keys, same, held, ih]
        · simp [set, keys, same, held, ih, Ne.symm same]

theorem distinct_set {entries : List (κ × α)} (distinct : (keys entries).Nodup) (key : κ)
    (value : α) : (keys (set entries key value)).Nodup := by
  rw [keys_set]
  split
  · exact distinct
  · rename_i fresh
    rw [List.nodup_append]
    refine ⟨distinct, by simp, ?_⟩
    intro a held b added same
    rw [List.mem_singleton] at added
    exact fresh (added ▸ same ▸ held)

end HtmlTemplate.Entries
