import Criteria.Accumulator.Views
import Criteria.Proofs.Bracketing

/-! # Running an outline

In whatever state it starts, the run of an outline grafts the nodes that the outline yields onto the
innermost frame. A fresh accumulator is thus finished with the reading of the outline.
-/

namespace Criteria

open Predicate Clause

namespace Accumulator

/-- Adds nodes to the innermost frame, and order terms. Nothing else changes but the route. -/
def graft (a : Accumulator) (ps : List Predicate) (ts : List OrderTerm) : Accumulator :=
  { a with
    current := ⟨a.current.kind, a.current.nodes ++ ps⟩
    order := a.order ++ ts
    route := if containsMatchAny ps then .docStore else a.route }

variable (a : Accumulator)

@[simp] theorem graft_nil : a.graft [] [] = a := by
  simp [graft, containsMatchAny]

theorem graft_graft (ps qs : List Predicate) (ts us : List OrderTerm) :
    (a.graft ps ts).graft qs us = a.graft (ps ++ qs) (ts ++ us) := by
  simp only [graft, containsMatchAny_eq_any, List.any_append, List.append_assoc]
  cases ps.any containsMatch <;> cases qs.any containsMatch <;> rfl

theorem apply_append (p : Predicate) : a.apply (.append p) = a.graft [p] [] := by
  simp only [apply, notice, settle, push, Frame.push, graft, containsMatchAny, Bool.or_false,
    List.append_nil]
  split <;> rfl

theorem apply_orderBy (t : OrderTerm) : a.apply (.orderBy t) = a.graft [] [t] := by
  simp [apply, notice, settle, graft, containsMatchAny]

theorem apply_endJunction_graft (kind : JunctionKind) (ps : List Predicate)
    (ts : List OrderTerm) :
    ((a.apply (.startJunction kind)).graft ps ts).apply .endJunction =
      a.graft (enclose kind ps) ts := by
  cases ps with
  | nil => simp [apply, notice, settle, graft, Frame.close, enclose, containsMatchAny]
  | cons p ps =>
    simp [apply, notice, settle, graft, Frame.close, Frame.push, enclose, containsMatchAny,
      containsMatch]

mutual

theorem run_calls (a : Accumulator) : ∀ c : Clause, a.run c.calls = a.graft c.nodes c.terms
  | .test p => apply_append a p
  | .order t => apply_orderBy a t
  | .group kind body => by
    -- the body starts in the frame that the group opens, so the state has to be arbitrary
    rw [calls, List.cons_append, run_cons, run_append, run_callsAll _ body]
    exact apply_endJunction_graft a kind _ _

theorem run_callsAll (a : Accumulator) :
    ∀ body : List Clause, a.run (callsAll body) = a.graft (nodesAll body) (termsAll body)
  | [] => (graft_nil a).symm
  | c :: body => by
    rw [callsAll, run_append, run_calls a c, run_callsAll _ body, graft_graft]
    rfl

end

theorem conjoin_nodesAll (body : List Clause) : conjoin (nodesAll body) = reading body := by
  unfold reading
  rcases nodesAll body with _ | ⟨p, _ | ⟨q, ps⟩⟩ <;> rfl

theorem finish_graft (ps : List Predicate) (ts : List OrderTerm) :
    (({} : Accumulator).graft ps ts).finish none =
      .ok ⟨conjoin ps, ts, if containsMatchAny ps then .docStore else .primary,
        leafCountAll ps⟩ := by
  simp [finish, graft, depth, exceeds, predicates, rootFrame, size, Accumulator.nodes, frames]

/-- A well-bracketed sequence can be finished, with the reading of the one outline that it is made
from and with its order terms as they come. -/
theorem finish_ofCalls_of_wellBracketed {cs : List Call} (h : Call.WellBracketed cs) :
    (∃! body, callsAll body = cs) ∧
      ∀ body, callsAll body = cs →
        ∃ done, (ofCalls cs).finish none = .ok done ∧
          done.predicate = reading body ∧ done.order = cs.flatMap Call.terms := by
  refine ⟨existsUnique_callsAll_eq h, ?_⟩
  rintro body rfl
  have horder := order_ofCalls (callsAll body)
  rw [ofCalls, run_callsAll] at horder ⊢
  refine ⟨_, finish_graft _ _, conjoin_nodesAll body, ?_⟩
  simpa [graft] using horder

/-- A group of a search and an empty group, with an order term inside, beside a test. -/
theorem finish_ofCalls_of_nested_groups :
    let cs : List Call := [.startJunction .or, .append (textMatch "notes" "late"),
      .startJunction .not, .startJunction .and, .endJunction, .endJunction,
      .orderBy ⟨"email", .desc⟩, .endJunction, .append (compare "code" .eq "NYC")]
    Call.WellBracketed cs ∧
      ∃ done, (ofCalls cs).finish none = .ok done ∧
        done.predicate = some (.junction .and [.junction .or [textMatch "notes" "late"],
          compare "code" .eq "NYC"]) ∧
        done.order = [⟨"email", .desc⟩] := by
  intro cs
  have h : Call.WellBracketed cs := by decide
  exact ⟨h, (finish_ofCalls_of_wellBracketed h).2
    [.group .or [.test _, .group .not [.group .and []], .order _], .test _] rfl⟩

end Accumulator

end Criteria
