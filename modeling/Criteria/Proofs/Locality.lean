import Criteria.Accumulator.Views
import Criteria.Proofs.Truth

/-! # Well-bracketed runs are local

Wherever it is run, a well-bracketed sequence adds to the innermost frame what it leaves at a fresh
root. The frames around that one are never reached, not even while the sequence is under way.
-/

namespace Criteria

open Clause

theorem Call.deficit_take_le (cs : List Call) (n : Nat) : deficit (cs.take n) ≤ deficit cs := by
  obtain ⟨m, hm⟩ := exists_balance_eq_neg_deficit (cs.take n)
  rw [List.take_take] at hm
  have := neg_deficit_le_balance cs (min m n)
  omega

namespace Accumulator

/-- The innermost frame of `a` is still open in `b`. It may have more nodes there and other frames
within it, and the frames around it are those of `a`. -/
def Extends (a b : Accumulator) : Prop :=
  ∃ inner ps,
    b.current :: b.enclosing = inner ++ ⟨a.current.kind, a.current.nodes ++ ps⟩ :: a.enclosing

namespace Extends

variable {a b : Accumulator}

theorem refl (a : Accumulator) : a.Extends a := ⟨[], [], by simp⟩

theorem push (h : a.Extends b) (p : Predicate) : a.Extends (b.push p) := by
  obtain ⟨inner, ps, hb⟩ := h
  rcases inner with _ | ⟨f, inner⟩
  · obtain ⟨hcurrent, henclosing⟩ := List.cons.inj hb
    refine ⟨[], ps ++ [p], ?_⟩
    simp [Accumulator.push, Frame.push, hcurrent, henclosing]
  · obtain ⟨hcurrent, henclosing⟩ := List.cons.inj hb
    refine ⟨f.push p :: inner, ps, ?_⟩
    simp [Accumulator.push, hcurrent, henclosing]

/-- Only an end at the depth of `a` would close the innermost frame of `a`. -/
theorem apply (h : a.Extends b) {c : Call} (hc : c.isEnd = true → a.depth < b.depth) :
    a.Extends (b.apply c) := by
  cases c with
  | append p =>
    have hpush := h.push p
    simp only [Accumulator.apply, notice, settle]
    split <;> exact hpush
  | orderBy t => exact h
  | startJunction kind =>
    obtain ⟨inner, ps, hb⟩ := h
    exact ⟨⟨kind, []⟩ :: inner, ps, congrArg (⟨kind, []⟩ :: ·) hb⟩
  | endJunction =>
    obtain ⟨inner, ps, hb⟩ := h
    have hdepth := hc rfl
    rcases inner with _ | ⟨f, inner⟩
    · obtain ⟨-, henclosing⟩ := List.cons.inj hb
      simp [depth, henclosing] at hdepth
    · obtain ⟨-, henclosing⟩ := List.cons.inj hb
      obtain ⟨outer, rest, hout⟩ : ∃ outer rest, b.enclosing = outer :: rest :=
        List.exists_cons_of_ne_nil (by simp [henclosing])
      have hpop : a.Extends { b with current := outer, enclosing := rest } :=
        ⟨inner, ps, hout.symm.trans henclosing⟩
      simp only [Accumulator.apply, notice, settle, hout]
      split
      · exact hpop
      · exact hpop.push _

theorem run (h : a.Extends b) {cs : List Call} (hcs : a.depth + Call.deficit cs ≤ b.depth) :
    a.Extends (b.run cs) := by
  induction cs generalizing b with
  | nil => exact h
  | cons c cs ih =>
    rw [Call.deficit] at hcs
    refine ih (h.apply fun hc => ?_) ?_
    · rw [if_pos hc] at hcs
      omega
    · rw [depth_apply]
      cases c <;> simp only [Call.isStart, Call.isEnd, Bool.false_eq_true, if_true, if_false]
        at hcs ⊢ <;> omega

end Extends

/-- In any state, a well-bracketed sequence leaves all frames as they are but for the nodes that it
adds to the innermost one, the depth and the stray ends too. These nodes, the order terms and the
need for the document store are what it leaves when it is run from the start. -/
theorem run_local (a : Accumulator) {w : List Call} (h : Call.WellBracketed w) :
    (a.run w).depth = a.depth ∧ (a.run w).strayEnds = a.strayEnds ∧
      (a.run w).enclosing = a.enclosing ∧ (a.run w).current.kind = a.current.kind ∧
      (a.run w).current.nodes = a.current.nodes ++ (ofCalls w).predicates ∧
      (a.run w).order = a.order ++ (ofCalls w).order ∧
      ((a.run w).route = .docStore ↔ a.route = .docStore ∨ (ofCalls w).route = .docStore) ∧
      ∀ n, a.Extends (a.run (w.take n)) := by
  obtain ⟨body, rfl, -⟩ := existsUnique_callsAll_eq h
  have hfresh : ofCalls (callsAll body) = ({} : Accumulator).graft (nodesAll body) (termsAll body) :=
    run_callsAll {} body
  have hextends : ∀ n, a.Extends (a.run ((callsAll body).take n)) := by
    intro n
    have hw := ((Call.wellBracketed_iff _).mp h).1
    have hn := Call.deficit_take_le (callsAll body) n
    exact (Extends.refl a).run (by omega)
  rw [predicates_callsAll, hfresh, run_callsAll a body]
  refine ⟨rfl, rfl, rfl, rfl, rfl, rfl, ?_, hextends⟩
  simp only [graft]
  split <;> simp

/-- A group with a search and an empty group, run within a negation after a stray end. -/
theorem run_local_of_open_negation :
    let a := ofCalls [.endJunction, .startJunction .not, .append (.compare "code" .eq "NYC")]
    let w : List Call := [.startJunction .or, .append (.textMatch "notes" "late"),
      .startJunction .and, .endJunction, .orderBy ⟨"email", .desc⟩, .endJunction]
    Call.WellBracketed w ∧ (a.run w).depth = 1 ∧ (a.run w).strayEnds = 1 ∧
      (a.run w).current.nodes =
        [.compare "code" .eq "NYC", .junction .or [.textMatch "notes" "late"]] ∧
      (a.run w).route = .docStore ∧ a.Extends (a.run (w.take 3)) := by
  intro a w
  have hw : Call.WellBracketed w := by decide
  obtain ⟨hdepth, hstray, -, -, hnodes, -, hroute, hextends⟩ := run_local a hw
  exact ⟨hw, hdepth, hstray, hnodes, hroute.mpr (Or.inr rfl), hextends 3⟩

end Accumulator

end Criteria
