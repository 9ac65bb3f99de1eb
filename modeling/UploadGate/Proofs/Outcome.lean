import Mathlib.Data.List.Forall2

/-! # Outcomes of several steps

What is computed in steps comes to its end exactly if every step does.
-/

namespace UploadGate

variable {ε α β : Type} {outcome : Except ε α} {as : List α} {bs : List β} {f : α → Option β}

theorem map_eq_ok_iff {f : α → β} {found : β} :
    outcome.map f = .ok found ↔ ∃ a, outcome = .ok a ∧ f a = found := by
  cases outcome <;> simp [Except.map]

theorem bind_eq_ok_iff {next : α → Except ε β} {found : β} :
    (outcome >>= next) = .ok found ↔ ∃ a, outcome = .ok a ∧ next a = .ok found := by
  cases outcome <;> simp [bind, Except.bind]

theorem throw_ne_ok {fault : ε} {found : α} : (throw fault : Except ε α) ≠ .ok found := by
  simp [throw, throwThe, MonadExceptOf.throw]

theorem mapM_eq_some_iff_forall₂ :
    as.mapM f = some bs ↔ List.Forall₂ (fun a b => f a = some b) as bs := by
  induction as generalizing bs with
  | nil => simp [eq_comm]
  | cons a as ih =>
    simp only [List.mapM_cons, Option.bind_eq_bind, Option.bind_eq_some_iff, ih,
      List.forall₂_cons_left_iff]
    constructor
    · rintro ⟨b, hb, bs', hbs, h⟩
      exact ⟨b, bs', hb, hbs, (Option.some.inj h).symm⟩
    · rintro ⟨b, bs', hb, hbs, rfl⟩
      exact ⟨b, hb, bs', hbs, rfl⟩

theorem mapM_eq_none_iff : as.mapM f = none ↔ ∃ a ∈ as, f a = none := by
  induction as with
  | nil => simp
  | cons a as ih =>
    rw [List.exists_mem_cons_iff, ← ih, List.mapM_cons]
    cases h : f a with
    | none => simp
    | some b => cases hrest : as.mapM f <;> simp

end UploadGate
