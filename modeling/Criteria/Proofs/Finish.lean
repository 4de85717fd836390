import Mathlib
import Criteria.Accumulator.Views
import Criteria.Query.Basic

/-! # When finishing is refused

Each outcome of finishing comes from one condition on the state. For a sequence of calls the
conditions are counts: the greatest surplus of ends over all first parts, the junctions left open,
and the leaves.
-/

namespace Criteria

namespace Predicate

theorem leafCountAll_eq_sum (ps : List Predicate) : leafCountAll ps = (ps.map leafCount).sum := by
  induction ps with
  | nil => rfl
  | cons p ps ih => simp [leafCountAll, ih]

end Predicate

open Predicate

namespace Accumulator

section outcome

variable (a : Accumulator) (limit : Option Nat)

theorem finish_cases :
    (0 < a.strayEnds ∧ a.finish limit = .error .unbalancedJunction) ∨
    (a.strayEnds = 0 ∧ 0 < a.depth ∧ a.finish limit = .error (.unclosedJunction a.depth)) ∨
    (a.strayEnds = 0 ∧ a.depth = 0 ∧
      ∃ m, limit = some m ∧ m < a.size ∧ a.finish limit = .error (.tooManyPredicates m a.size)) ∨
    (a.strayEnds = 0 ∧ a.depth = 0 ∧ (∀ m, limit = some m → a.size ≤ m) ∧
      a.finish limit = .ok ⟨conjoin a.predicates, a.order, a.route, a.size⟩) := by
  unfold finish
  split
  · exact Or.inl ⟨‹_›, rfl⟩
  · right
    split
    · exact Or.inl ⟨by omega, ‹_›, rfl⟩
    · right
      cases limit with
      | none => exact Or.inr ⟨by omega, by omega, nofun, rfl⟩
      | some m =>
        simp only [exceeds, decide_eq_true_eq, Option.getD_some, Option.some.injEq]
        split
        · exact Or.inl ⟨by omega, by omega, m, rfl, ‹_›, rfl⟩
        · exact Or.inr ⟨by omega, by omega, by rintro _ rfl; omega, rfl⟩

theorem finish_eq_unbalanced_iff :
    a.finish limit = .error .unbalancedJunction ↔ 0 < a.strayEnds := by
  rcases finish_cases a limit with ⟨hs, h⟩ | ⟨hs, -, h⟩ | ⟨hs, -, m, -, -, h⟩ | ⟨hs, -, -, h⟩
  all_goals
    rw [h]
    simp [hs]

theorem finish_eq_unclosed_iff (d : Nat) :
    a.finish limit = .error (.unclosedJunction d) ↔
      a.strayEnds = 0 ∧ 0 < d ∧ d = a.depth := by
  rcases finish_cases a limit with ⟨hs, h⟩ | ⟨hs, hd, h⟩ | ⟨hs, hd, m, -, -, h⟩ | ⟨hs, hd, -, h⟩
  all_goals
    rw [h]
    simp only [Except.error.injEq, QueryError.unclosedJunction.injEq, reduceCtorEq, false_iff]
    omega

theorem finish_eq_tooMany_iff (m n : Nat) :
    a.finish limit = .error (.tooManyPredicates m n) ↔
      a.strayEnds = 0 ∧ a.depth = 0 ∧ limit = some m ∧ n = a.size ∧ m < n := by
  rcases finish_cases a limit with
    ⟨hs, h⟩ | ⟨hs, hd, h⟩ | ⟨hs, hd, k, rfl, hk, h⟩ | ⟨hs, hd, hm, h⟩
  all_goals
    rw [h]
    simp only [Except.error.injEq, QueryError.tooManyPredicates.injEq, Option.some.injEq,
      reduceCtorEq, false_iff]
  case inr.inr.inr =>
    rintro ⟨-, -, hl, rfl, hlt⟩
    exact absurd (hm m hl) (by omega)
  all_goals omega

theorem finish_eq_ok_iff (done : Finished) :
    a.finish limit = .ok done ↔
      a.strayEnds = 0 ∧ a.depth = 0 ∧ (∀ m, limit = some m → a.size ≤ m) ∧
        done = ⟨conjoin a.predicates, a.order, a.route, a.size⟩ := by
  constructor
  · intro hok
    rcases finish_cases a limit with ⟨-, h⟩ | ⟨-, -, h⟩ | ⟨-, -, m, -, -, h⟩ | ⟨hs, hd, hm, h⟩
    case inr.inr.inr => exact ⟨hs, hd, hm, Except.ok.inj (hok.symm.trans h)⟩
    all_goals cases hok.symm.trans h
  · rintro ⟨hs, hd, hm, rfl⟩
    rcases finish_cases a limit with ⟨hs', -⟩ | ⟨-, hd', -⟩ | ⟨-, -, m, hl, hm', -⟩ | ⟨-, -, -, h⟩
    · omega
    · omega
    · exact absurd (hm m hl) (by omega)
    · exact h

end outcome

theorem isGreatest_deficit (cs : List Call) :
    IsGreatest (Set.range fun n => -Call.balance (cs.take n)) (Call.deficit cs : Int) := by
  constructor
  · obtain ⟨n, hn⟩ := Call.exists_balance_eq_neg_deficit cs
    exact ⟨n, by simp [hn]⟩
  · rintro _ ⟨n, rfl⟩
    have := Call.neg_deficit_le_balance cs n
    dsimp only
    omega

/-- A stray end is never made up for. -/
theorem finish_run_of_strayEnds {a : Accumulator} (h : 0 < a.strayEnds) (cs : List Call)
    (limit : Option Nat) : (a.run cs).finish limit = .error .unbalancedJunction := by
  rw [finish_eq_unbalanced_iff, strayEnds_run]
  omega

/-- How finishing comes out after any calls, with the greatest surplus `s` of ends over all first
parts. The reasons to refuse stand in their order: each counts where those before it do not. -/
theorem finish_ofCalls_outcome (cs : List Call) :
    ∃ s : Nat, IsGreatest (Set.range fun n => -Call.balance (cs.take n)) (s : Int) ∧
      (ofCalls cs).depth = Call.balance cs + s ∧ (ofCalls cs).strayEnds = s ∧
      (∀ limit,
        ((ofCalls cs).finish limit = .error .unbalancedJunction ↔ 0 < s) ∧
        (∀ d, (ofCalls cs).finish limit = .error (.unclosedJunction d) ↔
          s = 0 ∧ 0 < d ∧ d = Call.balance cs) ∧
        (∀ m n, (ofCalls cs).finish limit = .error (.tooManyPredicates m n) ↔
          s = 0 ∧ Call.balance cs = 0 ∧ limit = some m ∧
            n = ((Call.appended cs).map leafCount).sum ∧ m < n) ∧
        ((∃ done, (ofCalls cs).finish limit = .ok done) ↔
          s = 0 ∧ Call.balance cs = 0 ∧
            ∀ m, limit = some m → ((Call.appended cs).map leafCount).sum ≤ m)) ∧
      (0 < s → ∀ ds limit, ((ofCalls cs).run ds).finish limit = .error .unbalancedJunction) := by
  have hs := strayEnds_ofCalls cs
  have hd := depth_ofCalls cs
  have hz : Call.deficit cs = 0 → ((ofCalls cs).depth = 0 ↔ Call.balance cs = 0) := by omega
  rw [← leafCountAll_eq_sum, ← size_ofCalls]
  refine ⟨Call.deficit cs, isGreatest_deficit cs, hd, hs, fun limit => ⟨?_, ?_, ?_, ?_⟩, ?_⟩
  · rw [finish_eq_unbalanced_iff, hs]
  · intro d
    rw [finish_eq_unclosed_iff, hs]
    omega
  · intro m n
    rw [finish_eq_tooMany_iff, hs]
    exact and_congr_right fun h => and_congr_left' (hz h)
  · simp only [finish_eq_ok_iff, exists_and_left, exists_eq, and_true, hs]
    exact and_congr_right fun h => and_congr_left' (hz h)
  · intro h
    exact finish_run_of_strayEnds (hs ▸ h)

/-- A stray end, an open junction and too many leaves at once: the stray end is what counts, and
closing the junction does not help. -/
theorem finish_ofCalls_outcome_of_all_faults :
    (ofCalls [.append (compare "code" .eq "NYC"), .endJunction, .startJunction .or]).finish
        (some 0) = .error .unbalancedJunction ∧
      ((ofCalls [.append (compare "code" .eq "NYC"), .endJunction, .startJunction .or]).run
        [.endJunction]).finish none = .error .unbalancedJunction := by
  obtain ⟨s, -, -, hs, hf, hc⟩ := finish_ofCalls_outcome
    [.append (compare "code" .eq "NYC"), .endJunction, .startJunction .or]
  have h : 0 < s := by
    rw [← hs]
    decide
  exact ⟨(hf (some 0)).1.mpr h, hc h [.endJunction] none⟩

end Accumulator

end Criteria
