import Criteria.Accumulator.Replay
import Criteria.Proofs.Leaves
import Criteria.Proofs.Outline

/-! # Replayed predicates

The replay of a predicate is the run of an outline, and that outline yields the pruned predicate. So
it does not matter whether a predicate is made call by call or appended as a whole once it is pruned.
-/

namespace Criteria

open Clause

namespace Predicate

mutual

def outline : Predicate → Clause
  | leaf l => .test (leaf l)
  | junction kind nodes => .group kind (outlineAll nodes)

def outlineAll : List Predicate → List Clause
  | [] => []
  | p :: ps => outline p :: outlineAll ps

end

mutual

theorem calls_outline : ∀ p : Predicate, calls (outline p) = replay p
  | leaf _ => rfl
  | junction kind nodes => by rw [outline, calls, replay, callsAll_outlineAll nodes]

theorem callsAll_outlineAll : ∀ ps : List Predicate, callsAll (outlineAll ps) = replayAll ps
  | [] => rfl
  | p :: ps => by
    rw [outlineAll, callsAll, replayAll, calls_outline p, callsAll_outlineAll ps]

end

theorem toList_prune_junction (kind : JunctionKind) (ps : List Predicate) :
    (prune (junction kind ps)).toList = enclose kind (pruneAll ps) := by
  rw [prune]
  cases pruneAll ps <;> rfl

mutual

theorem nodes_outline : ∀ p : Predicate, nodes (outline p) = (prune p).toList
  | leaf _ => rfl
  | junction kind nodes => by
    rw [outline, Clause.nodes, nodesAll_outlineAll nodes, toList_prune_junction]

theorem nodesAll_outlineAll : ∀ ps : List Predicate, nodesAll (outlineAll ps) = pruneAll ps
  | [] => rfl
  | p :: ps => by
    rw [outlineAll, nodesAll, pruneAll, nodes_outline p, nodesAll_outlineAll ps]

end

mutual

theorem terms_outline : ∀ p : Predicate, terms (outline p) = []
  | leaf _ => rfl
  | junction _ nodes => by rw [outline, terms, termsAll_outlineAll nodes]

theorem termsAll_outlineAll : ∀ ps : List Predicate, termsAll (outlineAll ps) = []
  | [] => rfl
  | p :: ps => by
    rw [outlineAll, termsAll, terms_outline p, termsAll_outlineAll ps, List.nil_append]

end

end Predicate

open Predicate

namespace Query

theorem foldl_apply (q : Query) (cs : List Call) :
    cs.foldl apply q = { q with accumulator := q.accumulator.run cs } := by
  induction cs generalizing q with
  | nil => rfl
  | cons c cs ih => rw [List.foldl_cons, ih, apply, Accumulator.run_cons]

end Query

namespace Accumulator

theorem run_replay_eq_graft (a : Accumulator) (p : Predicate) :
    a.run (replay p) = a.graft (prune p).toList [] := by
  rw [← calls_outline, run_calls, nodes_outline, terms_outline]

/-- In any state, the replay of a predicate comes to the same as appending what is left of the
predicate when it is pruned. A predicate without empty junctions is thus built as it is. -/
theorem run_replay (p : Predicate) :
    (∀ (a : Accumulator) (q : Predicate), prune p = some q →
        a.run (replay p) = a.apply (.append q)) ∧
      (prune p = none → ∀ a : Accumulator, a.run (replay p) = a) ∧
      (isPruned p = true → ∀ (entity : String) (config : Config), config.maxPredicates = none →
        ((replay p).foldl Query.apply (Query.new entity config)).build =
          .ok ⟨entity, some p, [], if p.containsMatch then .docStore else .primary⟩) := by
  refine ⟨fun a q hq => ?_, fun hp a => ?_, fun hp entity config hm => ?_⟩
  · rw [run_replay_eq_graft, hq, apply_append, Option.toList_some]
  · rw [run_replay_eq_graft, hp, Option.toList_none, graft_nil]
  · rw [Query.foldl_apply, Query.build_eq_ok_iff, run_replay_eq_graft, prune_of_isPruned p hp]
    refine ⟨_, by rw [Query.new, hm]; exact finish_graft [p] [], ?_⟩
    simp [Query.new, conjoin, containsMatchAny]

/-- An empty junction within a junction that keeps another node, in a state with a stray end and an
open junction, and a predicate of nothing but empty junctions. -/
theorem run_replay_of_empty_junctions :
    let p : Predicate := .junction .or [textMatch "notes" "late", .junction .not [.junction .and []]]
    let q : Predicate := .junction .or [textMatch "notes" "late"]
    let a := ofCalls [.endJunction, .startJunction .not, .append (compare "code" .eq "NYC")]
    a.run (replay p) = a.apply (.append q) ∧
      a.run (replay (.junction .not [.junction .and []])) = a ∧
      ((replay q).foldl Query.apply (Query.new "Customer" {})).build =
        .ok ⟨"Customer", some q, [], .docStore⟩ := by
  intro p q a
  exact ⟨(run_replay p).1 a q (by decide),
    (run_replay (.junction .not [.junction .and []])).2.1 (by decide) a,
    (run_replay q).2.2 (by decide) "Customer" {} rfl⟩

end Accumulator

end Criteria
