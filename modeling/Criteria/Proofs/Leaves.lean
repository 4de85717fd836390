import Criteria.Proofs.Finish

/-! # Leaves

No call loses, alters or moves a leaf, so the leaves of the frames are those of the appended
predicates, and so are the leaves of what is built.
-/

namespace Criteria

namespace Predicate

theorem leavesAll_conjoin (ps : List Predicate) : leavesAll (conjoin ps).toList = leavesAll ps := by
  rcases ps with _ | ⟨p, _ | ⟨q, ps⟩⟩
  · rfl
  · rfl
  · simp [conjoin, leavesAll, leaves]

end Predicate

open Predicate

/-! ## What is built -/

theorem Accumulator.predicates_eq_nodes {a : Accumulator} (h : a.depth = 0) :
    a.predicates = a.nodes := by
  obtain h : a.enclosing = [] := List.length_eq_zero_iff.mp h
  simp [predicates, rootFrame, nodes, frames, h]

theorem Accumulator.leavesAll_finish {a : Accumulator} {limit : Option Nat} {done : Finished}
    (h : a.finish limit = .ok done) : leavesAll done.predicate.toList = a.leaves := by
  obtain ⟨-, hd, -, rfl⟩ := (finish_eq_ok_iff a limit done).mp h
  rw [leavesAll_conjoin, predicates_eq_nodes hd]
  rfl

theorem QuerySpec.predicateCount_eq_length (spec : QuerySpec) :
    spec.predicateCount = (leavesAll spec.predicate.toList).length := by
  unfold predicateCount
  cases spec.predicate with
  | none => rfl
  | some p => rw [Option.toList_some, leavesAll_singleton, length_leaves]

namespace Query

theorem build_eq_ok_iff (q : Query) (spec : QuerySpec) :
    q.build = .ok spec ↔ ∃ done, q.accumulator.finish q.config.maxPredicates = .ok done ∧
      spec = ⟨q.entity, done.predicate, done.order, done.route⟩ := by
  unfold build
  cases q.accumulator.finish q.config.maxPredicates with
  | error e => simp [bind, Except.bind]
  | ok done => simp [bind, Except.bind, pure, Except.pure, eq_comm]

theorem build_eq_error_iff (q : Query) (e : QueryError) :
    q.build = .error e ↔ q.accumulator.finish q.config.maxPredicates = .error e := by
  unfold build
  cases q.accumulator.finish q.config.maxPredicates with
  | error e => simp [bind, Except.bind]
  | ok done => simp [bind, Except.bind, pure, Except.pure]

theorem leavesAll_build {q : Query} {spec : QuerySpec} (h : q.build = .ok spec) :
    leavesAll spec.predicate.toList = q.accumulator.leaves := by
  obtain ⟨done, hf, rfl⟩ := (build_eq_ok_iff q spec).mp h
  exact Accumulator.leavesAll_finish hf

end Query

/-! ## After any calls -/

namespace Accumulator

theorem leaves_eq_frames (a : Accumulator) :
    a.leaves = a.frames.flatMap fun f => f.nodes.flatMap Predicate.leaves := by
  rw [leaves, nodes, leavesAll_eq_flatMap, List.flatMap_assoc]

section leaves

variable {a : Accumulator} {ls : List Leaf} (h : a.leaves = ls)
include h

theorem leaves_built {q : Query} {spec : QuerySpec} (hq : q.accumulator = a)
    (hb : q.build = .ok spec) :
    spec.predicate.toList.flatMap Predicate.leaves = ls ∧
      spec.predicateCount = q.accumulator.size ∧
      (∃ done, q.accumulator.finish q.config.maxPredicates = .ok done ∧
        done.count = q.accumulator.size) ∧
      ∀ m, q.config.maxPredicates = some m → q.accumulator.size ≤ m := by
  have hs := Query.leavesAll_build hb
  obtain ⟨done, hf, -⟩ := (Query.build_eq_ok_iff q spec).mp hb
  obtain ⟨-, -, hm, hdone⟩ := (finish_eq_ok_iff _ _ _).mp hf
  refine ⟨by rw [← leavesAll_eq_flatMap, hs, hq, h], ?_, ⟨done, hf, by rw [hdone]⟩, hm⟩
  rw [QuerySpec.predicateCount_eq_length, hs, size_eq_length_leaves]

end leaves

/-- The leaves in the frames are those of the appended predicates, each once and in call order, and
a query that can be built has just these and counts them. -/
theorem leaves_conserved (cs : List Call) :
    ((ofCalls cs).frames.flatMap fun f => f.nodes.flatMap Predicate.leaves) =
        (Call.appended cs).flatMap Predicate.leaves ∧
      (ofCalls cs).size = ((Call.appended cs).flatMap Predicate.leaves).length ∧
      ∀ (q : Query) (spec : QuerySpec), q.accumulator = ofCalls cs → q.build = .ok spec →
        spec.predicate.toList.flatMap Predicate.leaves =
            (Call.appended cs).flatMap Predicate.leaves ∧
          spec.predicateCount = q.accumulator.size ∧
          (∃ done, q.accumulator.finish q.config.maxPredicates = .ok done ∧
            done.count = q.accumulator.size) ∧
          ∀ m, q.config.maxPredicates = some m → q.accumulator.size ≤ m := by
  have hl : (ofCalls cs).leaves = (Call.appended cs).flatMap Predicate.leaves := by
    rw [leaves_ofCalls, leavesAll_eq_flatMap]
  refine ⟨?_, ?_, fun q spec hq hb => leaves_built hl hq hb⟩
  · rw [← leaves_eq_frames, hl]
  · rw [size_eq_length_leaves, hl]

theorem leaves_conserved_of_full_query :
    let cs : List Call := [.append (compare "code" .eq "NYC"), .startJunction .or,
      .append (.junction .not [.leaf (.isNull "name"), .junction .and []]), .startJunction .and,
      .endJunction, .append (textMatch "notes" "late"), .endJunction]
    let q : Query := { Query.new "Customer" { maxPredicates := some 3 } with accumulator := ofCalls cs }
    ∃ spec, q.build = .ok spec ∧
      spec.predicate.toList.flatMap Predicate.leaves =
        [.compare ⟨"code", .eq, "NYC", .sensitive⟩, .isNull "name", .textMatch "notes" "late"] ∧
      spec.predicateCount = 3 := by
  intro cs q
  obtain ⟨-, -, hb⟩ := leaves_conserved cs
  obtain ⟨hl, hn, -⟩ := hb q _ rfl rfl
  exact ⟨_, rfl, hl, hn⟩

end Accumulator

end Criteria
