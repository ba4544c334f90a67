/-!
# Values by name

A finite map from texts, kept as a list of pairs in the order of the names by code points.
-/

namespace MailboxKeeper

/-- Values by name. -/
abbrev NameMap (α : Type) := List (String × α)

namespace NameMap

variable {α : Type}

/-- The value of a name. -/
def get? (name : String) : NameMap α → Option α
  | [] => none
  | (k, v) :: rest => if k = name then some v else get? name rest

/-- The map with a value put under a name, in place of the one before. -/
def put (name : String) (value : α) : NameMap α → NameMap α
  | [] => [(name, value)]
  | (k, v) :: rest =>
    if k = name then (name, value) :: rest
    else if name < k then (name, value) :: (k, v) :: rest
    else (k, v) :: put name value rest

/-- The map without a name. -/
def erase (name : String) (m : NameMap α) : NameMap α := m.filter fun p => p.1 ≠ name

/-- The names that have a value. -/
def names (m : NameMap α) : List String := m.map Prod.fst

@[simp] theorem get?_put_self (name : String) (value : α) (m : NameMap α) :
    get? name (put name value m) = some value := by
  induction m with
  | nil => simp [put, get?]
  | cons p rest ih =>
    obtain ⟨k, v⟩ := p
    by_cases h : k = name
    · simp [put, get?, h]
    · by_cases hlt : name < k
      · simp [put, get?, h, hlt]
      · simp [put, get?, h, hlt, ih]

theorem get?_put_of_ne {name other : String} (h : other ≠ name) (value : α) (m : NameMap α) :
    get? other (put name value m) = get? other m := by
  induction m with
  | nil => simp [put, get?, Ne.symm h]
  | cons p rest ih =>
    obtain ⟨k, v⟩ := p
    by_cases hk : k = name
    · subst hk
      simp [put, get?, Ne.symm h]
    · by_cases hlt : name < k
      · simp [put, get?, hk, hlt, Ne.symm h]
      · simp only [put, hk, hlt, if_false, get?, ih]

@[simp] theorem get?_erase_self (name : String) (m : NameMap α) :
    get? name (erase name m) = none := by
  induction m with
  | nil => rfl
  | cons p rest ih =>
    obtain ⟨k, v⟩ := p
    by_cases h : k = name
    · simpa [erase, h] using ih
    · simpa [erase, h, get?] using ih

theorem get?_erase_of_ne {name other : String} (h : other ≠ name) (m : NameMap α) :
    get? other (erase name m) = get? other m := by
  induction m with
  | nil => rfl
  | cons p rest ih =>
    obtain ⟨k, v⟩ := p
    by_cases hk : k = name
    · subst hk
      simpa [erase, get?, Ne.symm h] using ih
    · by_cases ho : k = other
      · subst ho
        simp [erase, get?, hk]
      · simpa [erase, get?, hk, ho] using ih

end NameMap

end MailboxKeeper
