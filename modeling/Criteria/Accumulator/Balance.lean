import Criteria.Accumulator.Basic

/-! # Balance of calls

Of a sequence of calls only the starts and ends matter to whether it can be finished: how many ends
come too early, how many junctions stay open, and how many leaves there are.
-/

namespace Criteria.Call

def isStart : Call → Bool
  | startJunction _ => true
  | _ => false

def isEnd : Call → Bool
  | endJunction => true
  | _ => false

def leaves : Call → List Leaf
  | append p => p.leaves
  | orderBy _ | startJunction _ | endJunction => []

def terms : Call → List OrderTerm
  | orderBy t => [t]
  | append _ | startJunction _ | endJunction => []

def appended? : Call → Option Predicate
  | append p => some p
  | orderBy _ | startJunction _ | endJunction => none

def appended (cs : List Call) : List Predicate := cs.filterMap appended?

theorem leavesAll_appended (cs : List Call) :
    Predicate.leavesAll (appended cs) = cs.flatMap leaves := by
  induction cs with
  | nil => rfl
  | cons c cs ih =>
    rw [List.flatMap_cons, ← ih, appended, List.filterMap_cons]
    cases c <;> rfl

def balance (cs : List Call) : Int := (cs.countP isStart : Int) - cs.countP isEnd

theorem balance_cons (c : Call) (cs : List Call) :
    balance (c :: cs) = balance cs + (if c.isStart then 1 else 0) - if c.isEnd then 1 else 0 := by
  simp only [balance, List.countP_cons]
  split <;> split <;> omega

/-- By how much the ends outnumber the starts at worst, over all first parts of a sequence. -/
def deficit : List Call → Nat
  | [] => 0
  | c :: cs => if c.isEnd then deficit cs + 1 else if c.isStart then deficit cs - 1 else deficit cs

theorem neg_deficit_le_balance (cs : List Call) (n : Nat) :
    -(deficit cs : Int) ≤ balance (cs.take n) := by
  induction cs generalizing n with
  | nil => simp [balance]
  | cons c cs ih =>
    cases n with
    | zero => simp [balance]
    | succ n =>
      have := ih n
      rw [List.take_succ_cons, balance_cons, deficit]
      cases c <;> simp [isStart, isEnd] <;> omega

theorem exists_balance_eq_neg_deficit (cs : List Call) :
    ∃ n, balance (cs.take n) = -(deficit cs : Int) := by
  induction cs with
  | nil => exact ⟨0, rfl⟩
  | cons c cs ih =>
    obtain ⟨n, h⟩ := ih
    by_cases h0 : deficit (c :: cs) = 0
    · exact ⟨0, by simp [h0, balance]⟩
    · refine ⟨n + 1, ?_⟩
      rw [List.take_succ_cons, balance_cons, h]
      rw [deficit] at h0 ⊢
      cases c <;> simp [isStart, isEnd] at h0 ⊢ <;> omega

/-- Each end closes a junction of the sequence, and none stays open. -/
def WellBracketed (cs : List Call) : Prop :=
  (∀ n, 0 ≤ balance (cs.take n)) ∧ balance cs = 0

end Criteria.Call
