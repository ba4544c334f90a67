import MailboxKeeper.Proofs.Engine.Scene

/-!
# Two operations side by side

Two operations are compared call by call. A likeness says which calls count as alike, and which
turns, that is calls with their answers. Operations go side by side when they make alike calls, go
on side by side whenever these are answered alike, and end with the same fault or with values that
are related. Among collaborators who answer alike they then end alike (`SideBySide.perform`).
-/

namespace MailboxKeeper.Engine

variable {σ₁ σ₂ α β γ δ ε : Type}

/-- Which calls, and which turns, of two operations count as alike. -/
structure Likeness where
  calls : Call → Call → Prop
  turns : Turn → Turn → Prop

/-- Two outcomes are the same error, or values that are related. -/
inductive Outcomes (values : α → β → Prop) : Except ε α → Except ε β → Prop where
  | ok {a : α} {b : β} (related : values a b) : Outcomes values (.ok a) (.ok b)
  | error (e : ε) : Outcomes values (.error e) (.error e)

namespace Outcomes

variable {x y : Except ε α}

/-- Outcomes that become equal when something is hidden in them are equal but for that. -/
theorem of_map_eq {hide : α → γ} (same : x.map hide = y.map hide) :
    Outcomes (fun a b => hide a = hide b) x y := by
  cases x with
  | ok a =>
    cases y with
    | ok b => exact .ok (Except.ok.inj same)
    | error e => cases same
  | error e =>
    cases y with
    | ok b => cases same
    | error f =>
      cases same
      exact .error e

theorem refl (x : Except ε α) : Outcomes Eq x x := by
  cases x with
  | ok a => exact .ok rfl
  | error e => exact .error e

theorem mono {values weaker : α → β → Prop} {x : Except ε α} {y : Except ε β}
    (alike : Outcomes values x y) (weakens : ∀ a b, values a b → weaker a b) :
    Outcomes weaker x y := by
  cases alike with
  | ok related => exact .ok (weakens _ _ related)
  | error e => exact .error e

theorem map_eq {hide : α → γ} (alike : Outcomes (fun a b => hide a = hide b) x y) :
    x.map hide = y.map hide := by
  cases alike with
  | ok related => exact congrArg Except.ok related
  | error e => rfl

theorem eq (alike : Outcomes Eq x y) : x = y := by
  cases alike with
  | ok same => rw [same]
  | error e => rfl

end Outcomes

/-- Options that become equal when something is hidden in them are equal but for that. -/
theorem rel_of_map_eq {hide : α → γ} {x y : Option α} (same : x.map hide = y.map hide) :
    Option.Rel (fun a b => hide a = hide b) x y := by
  cases x with
  | none =>
    cases y with
    | none => exact .none
    | some b => cases same
  | some a =>
    cases y with
    | none => cases same
    | some b => exact .some (Option.some.inj same)

/-- Two operations make alike calls as long as these are answered alike, and end with the same
fault or with related values. -/
inductive SideBySide (like : Likeness) (values : α → β → Prop) : Operation α → Operation β → Prop
    where
  | done {a : α} {b : β} (related : values a b) : SideBySide like values (.done a) (.done b)
  | fail (fault : Fault) : SideBySide like values (.fail fault) (.fail fault)
  | ask {c₁ c₂ : Call} {next₁ : c₁.Answer → Operation α} {next₂ : c₂.Answer → Operation β}
      (calls : like.calls c₁ c₂)
      (rest : ∀ x y, like.turns ⟨c₁, x⟩ ⟨c₂, y⟩ → SideBySide like values (next₁ x) (next₂ y)) :
      SideBySide like values (.ask c₁ next₁) (.ask c₂ next₂)

namespace SideBySide

variable {like : Likeness} {values : α → β → Prop} {op₁ : Operation α} {op₂ : Operation β}

theorem bind {results : γ → δ → Prop} {f : α → Operation γ} {g : β → Operation δ}
    (first : SideBySide like values op₁ op₂)
    (next : ∀ a b, values a b → SideBySide like results (f a) (g b)) :
    SideBySide like results (op₁ >>= f) (op₂ >>= g) := by
  show SideBySide like results (op₁.bind f) (op₂.bind g)
  induction first with
  | done related => exact next _ _ related
  | fail fault => exact .fail fault
  | ask calls _ ih => exact .ask calls fun x y alike => ih x y alike

theorem mono {weaker : α → β → Prop} (side : SideBySide like values op₁ op₂)
    (weakens : ∀ a b, values a b → weaker a b) : SideBySide like weaker op₁ op₂ := by
  induction side with
  | done related => exact .done (weakens _ _ related)
  | fail fault => exact .fail fault
  | ask calls _ ih => exact .ask calls fun x y alike => ih x y alike

theorem mapError (f : Fault → Fault) (side : SideBySide like values op₁ op₂) :
    SideBySide like values (op₁.mapError f) (op₂.mapError f) := by
  induction side with
  | done related => exact .done related
  | fail fault => exact .fail (f fault)
  | ask calls _ ih => exact .ask calls fun x y alike => ih x y alike

theorem orFault {toFault : ε → Fault} {x : Except ε α} {y : Except ε β}
    (alike : Outcomes values x y) :
    SideBySide like values (Operation.orFault toFault x) (Operation.orFault toFault y) := by
  cases alike with
  | ok related => exact .done related
  | error e => exact .fail (toFault e)

/-! ## Single calls -/

section Calls

variable (s₁ s₂ : Store.Statement) (c : Provisioning.Call)

theorem table {values : s₁.Result → s₂.Result → Prop}
    (calls : like.calls (.table s₁) (.table s₂))
    (answers : ∀ x y, like.turns ⟨.table s₁, x⟩ ⟨.table s₂, y⟩ → Outcomes values x y) :
    SideBySide like values (Operation.table s₁) (Operation.table s₂) :=
  .ask calls fun x y alike => orFault (answers x y alike)

/-- What the service answers, failures included, is the value of the call. -/
theorem tryService {values : c.Result → c.Result → Prop}
    (calls : like.calls (.service c) (.service c))
    (answers : ∀ x y, like.turns ⟨.service c, x⟩ ⟨.service c, y⟩ → Outcomes values x y) :
    SideBySide like (Outcomes values) (Operation.tryService c) (Operation.tryService c) :=
  .ask calls fun x y alike => .done (answers x y alike)

theorem encrypt {values : String → String → Prop} {p₁ p₂ : String}
    (calls : like.calls (.encrypt p₁) (.encrypt p₂))
    (answers : ∀ x y, like.turns ⟨.encrypt p₁, x⟩ ⟨.encrypt p₂, y⟩ → Outcomes values x y) :
    SideBySide like values (Operation.encrypt p₁) (Operation.encrypt p₂) :=
  .ask calls fun x y alike => orFault (answers x y alike)

end Calls

end SideBySide

/-! ## Among collaborators -/

variable {like : Likeness} {values : α → β → Prop} {op₁ : Operation α} {op₂ : Operation β}
variable {k₁ : Collaborators σ₁} {k₂ : Collaborators σ₂} {R : Scene σ₁ → Scene σ₂ → Prop}
variable {s₁ : Scene σ₁} {s₂ : Scene σ₂}

/-- Collaborators who answer alike calls alike, in scenes that stay related, bring operations that
go side by side to outcomes that are alike. -/
theorem SideBySide.perform (side : SideBySide like values op₁ op₂)
    (answers : ∀ c₁ c₂ s₁ s₂, like.calls c₁ c₂ → R s₁ s₂ →
      like.turns ⟨c₁, (k₁.answer c₁ s₁).1⟩ ⟨c₂, (k₂.answer c₂ s₂).1⟩ ∧
        R (k₁.answer c₁ s₁).2 (k₂.answer c₂ s₂).2)
    (start : R s₁ s₂) :
    Outcomes values (k₁.perform op₁ s₁).1 (k₂.perform op₂ s₂).1 ∧
      R (k₁.perform op₁ s₁).2 (k₂.perform op₂ s₂).2 := by
  -- The induction is on the comparison: each call is answered alike and goes on from there.
  induction side generalizing s₁ s₂ with
  | done related => exact ⟨.ok related, start⟩
  | fail fault => exact ⟨.error fault, start⟩
  | ask calls _ ih =>
    obtain ⟨turns, related⟩ := answers _ _ s₁ s₂ calls start
    exact ih _ _ turns related

end MailboxKeeper.Engine
