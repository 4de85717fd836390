import Mathlib.Logic.ExistsUnique
import Criteria.Accumulator.Outline

/-! # Bracketed sequences as outlines

A well-bracketed sequence of calls is made from exactly one outline. Existence goes by counting the
bodies that unmatched ends cut off, uniqueness by what may stand behind a body.
-/

namespace Criteria

namespace Call

theorem deficit_eq_zero_iff (cs : List Call) :
    deficit cs = 0 ↔ ∀ n, 0 ≤ balance (cs.take n) := by
  constructor
  · intro h n
    have := neg_deficit_le_balance cs n
    omega
  · intro h
    obtain ⟨n, hn⟩ := exists_balance_eq_neg_deficit cs
    have := h n
    omega

theorem wellBracketed_iff (cs : List Call) :
    WellBracketed cs ↔ deficit cs = 0 ∧ balance cs = 0 := by
  rw [WellBracketed, deficit_eq_zero_iff]

instance (cs : List Call) : Decidable (WellBracketed cs) :=
  decidable_of_iff _ (wellBracketed_iff cs).symm

end Call

namespace Clause

open Call

/-! ## Existence -/

def callsBehindEnds (bodies : List (List Clause)) : List Call :=
  bodies.flatMap fun body => .endJunction :: callsAll body

/-- A sequence with `d` unmatched ends falls into a body and `d` more behind those ends. -/
theorem exists_bodies (cs : List Call) (d : Nat) (hs : deficit cs ≤ d) (hb : balance cs = -d) :
    ∃ body bodies, bodies.length = d ∧ callsAll body ++ callsBehindEnds bodies = cs := by
  induction cs generalizing d with
  | nil =>
    obtain rfl : d = 0 := by simpa [balance] using hb.symm
    exact ⟨[], [], rfl, rfl⟩
  | cons c cs ih =>
    rw [balance_cons] at hb
    rw [deficit] at hs
    cases c with
    | append p =>
      obtain ⟨body, bodies, hl, rfl⟩ := ih d hs (by simpa [isStart, isEnd] using hb)
      exact ⟨.test p :: body, bodies, hl, rfl⟩
    | orderBy t =>
      obtain ⟨body, bodies, hl, rfl⟩ := ih d hs (by simpa [isStart, isEnd] using hb)
      exact ⟨.order t :: body, bodies, hl, rfl⟩
    | startJunction kind =>
      simp only [isStart, isEnd, Bool.false_eq_true, if_false, if_true] at hs hb
      obtain ⟨inner, bodies, hl, rfl⟩ := ih (d + 1) (by omega) (by push_cast; omega)
      -- the first unmatched end is the one of this start
      obtain ⟨body, bodies, rfl⟩ := List.exists_cons_of_length_eq_add_one hl
      refine ⟨.group kind inner :: body, bodies, by simpa using hl, ?_⟩
      simp [callsAll, calls, callsBehindEnds]
    | endJunction =>
      simp only [isStart, isEnd, Bool.false_eq_true, if_false, if_true] at hs hb
      obtain ⟨d, rfl⟩ : ∃ e, d = e + 1 := ⟨d - 1, by omega⟩
      obtain ⟨body, bodies, hl, rfl⟩ := ih d (by omega) (by push_cast at hb; omega)
      exact ⟨[], body :: bodies, by simp [hl], by simp [callsAll, callsBehindEnds]⟩

/-! ## Uniqueness -/

/-- What may stand behind a body: nothing, or the end that closes it. -/
def Closing : List Call → Prop
  | [] => True
  | c :: _ => c = .endJunction

theorem not_closing_calls (c : Clause) (cs : List Call) : ¬ Closing (calls c ++ cs) := by
  cases c <;> simp [calls, Closing]

theorem callsAll_append_inj : ∀ {body body' : List Clause} {r s : List Call},
    Closing r → Closing s → callsAll body ++ r = callsAll body' ++ s → body = body' ∧ r = s
  | [], [], _, _, _, _, h => ⟨rfl, h⟩
  | [], c :: body', r, s, hr, _, h => by
    rw [callsAll, callsAll, List.append_assoc, List.nil_append] at h
    exact absurd (h ▸ hr) (not_closing_calls c _)
  | c :: body, [], r, s, _, hs, h => by
    rw [callsAll, callsAll, List.append_assoc, List.nil_append] at h
    exact absurd (h ▸ hs) (not_closing_calls c _)
  | c :: body, c' :: body', r, s, hr, hs, h => by
    rw [callsAll, callsAll, List.append_assoc, List.append_assoc] at h
    cases c <;> cases c' <;> simp only [calls, List.cons_append, List.nil_append,
      List.append_assoc, List.cons.injEq, reduceCtorEq, false_and] at h
    case test.test p p' =>
      obtain ⟨hp, h⟩ := h
      obtain ⟨rfl, rfl⟩ := callsAll_append_inj hr hs h
      obtain rfl : p = p' := by injection hp
      exact ⟨rfl, rfl⟩
    case order.order t t' =>
      obtain ⟨ht, h⟩ := h
      obtain ⟨rfl, rfl⟩ := callsAll_append_inj hr hs h
      obtain rfl : t = t' := by injection ht
      exact ⟨rfl, rfl⟩
    case group.group kind inner kind' inner' =>
      obtain ⟨hk, h⟩ := h
      -- first the inner bodies, which the matching ends close, then what follows the groups
      obtain ⟨rfl, ht⟩ := callsAll_append_inj (r := .endJunction :: _) (s := .endJunction :: _)
        rfl rfl h
      obtain ⟨rfl, rfl⟩ := callsAll_append_inj hr hs (List.cons.inj ht).2
      obtain rfl : kind = kind' := by injection hk
      exact ⟨rfl, rfl⟩

theorem callsAll_injective {body body' : List Clause} (h : callsAll body = callsAll body') :
    body = body' :=
  (callsAll_append_inj (r := []) (s := []) trivial trivial (by simpa using h)).1

/-- A well-bracketed sequence is made from one outline and no other. -/
theorem existsUnique_callsAll_eq {cs : List Call} (h : WellBracketed cs) :
    ∃! body, callsAll body = cs := by
  obtain ⟨hs, hb⟩ := (wellBracketed_iff cs).mp h
  obtain ⟨body, bodies, hl, rfl⟩ := exists_bodies cs 0 (Nat.le_of_eq hs) (by simpa using hb)
  obtain rfl := List.length_eq_zero_iff.mp hl
  refine ⟨body, by simp [callsBehindEnds], fun body' h' => callsAll_injective ?_⟩
  simpa [callsBehindEnds] using h'

end Clause

end Criteria
