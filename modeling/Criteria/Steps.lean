/-! # Steps that may fail

When a chain of steps goes through, and with what. A step that fails ends its chain, so in a chain
that went through every step did.
-/

namespace Criteria

variable {ε σ α β : Type}

theorem bind_eq_ok_iff {r : Except ε α} {f : α → Except ε β} {b : β} :
    (r >>= f) = .ok b ↔ ∃ a, r = .ok a ∧ f a = .ok b := by
  cases r <;> simp [bind, Except.bind]

theorem map_eq_ok_iff {r : Except ε α} {f : α → β} {b : β} :
    f <$> r = .ok b ↔ ∃ a, r = .ok a ∧ f a = b := by
  cases r <;> simp [Functor.map, Except.map]

theorem pure_eq_ok_iff {a b : α} : (pure a : Except ε α) = .ok b ↔ b = a := by
  simp [pure, Except.pure, eq_comm]

theorem mapError_eq_ok_iff {δ : Type} {f : ε → δ} {r : Except ε α} {a : α} :
    r.mapError f = .ok a ↔ r = .ok a := by
  cases r with
  | error e => exact ⟨nofun, nofun⟩
  | ok b =>
    have hb : (Except.ok b : Except ε α).mapError f = .ok b := rfl
    rw [hb, Except.ok.injEq, Except.ok.injEq]

theorem foldlM_eq_ok_iff {step : σ → α → Except ε σ} {P : α → Prop} {put : σ → α → σ}
    (h : ∀ s a s', step s a = .ok s' ↔ P a ∧ s' = put s a) (as : List α) (s s' : σ) :
    as.foldlM step s = .ok s' ↔ (∀ a ∈ as, P a) ∧ s' = as.foldl put s := by
  induction as generalizing s with
  | nil => simp [pure_eq_ok_iff]
  | cons a as ih =>
    rw [List.foldlM_cons, List.foldl_cons, List.forall_mem_cons, bind_eq_ok_iff]
    constructor
    · rintro ⟨t, ht, hrest⟩
      obtain ⟨ha, rfl⟩ := (h s a t).1 ht
      obtain ⟨has, rfl⟩ := (ih _).1 hrest
      exact ⟨⟨ha, has⟩, rfl⟩
    · rintro ⟨⟨ha, has⟩, rfl⟩
      exact ⟨_, (h s a _).2 ⟨ha, rfl⟩, (ih _).2 ⟨has, rfl⟩⟩

end Criteria
