import Criteria.Accumulator.Balance

/-! # Views of the accumulator, call by call

What each call does to the depth, the stray ends, the order, the route and the leaves. Leaves are
only ever added at the end, whichever frame they are in.
-/

namespace Criteria

namespace Predicate

theorem leavesAll_append (ps qs : List Predicate) :
    leavesAll (ps ++ qs) = leavesAll ps ++ leavesAll qs := by
  simp [leavesAll_eq_flatMap]

theorem leavesAll_singleton (p : Predicate) : leavesAll [p] = leaves p := by simp [leavesAll]

mutual

theorem containsMatch_eq_any : ∀ p : Predicate, p.containsMatch = p.leaves.any Leaf.isTextMatch
  | leaf _ => by simp [containsMatch, leaves]
  | junction _ nodes => containsMatchAny_eq_any_leaves nodes

theorem containsMatchAny_eq_any_leaves :
    ∀ ps : List Predicate, containsMatchAny ps = (leavesAll ps).any Leaf.isTextMatch
  | [] => rfl
  | p :: ps => by
    simp [containsMatchAny, leavesAll, containsMatch_eq_any p, containsMatchAny_eq_any_leaves ps]

end

end Predicate

theorem Frame.leaves_close (f : Frame) :
    Predicate.leavesAll f.close.toList = Predicate.leavesAll f.nodes := by
  unfold close
  split
  · simp_all [Predicate.leavesAll]
  · simp [Predicate.leavesAll, Predicate.leaves]

namespace Accumulator

open Predicate

@[simp] theorem run_nil (a : Accumulator) : a.run [] = a := rfl

@[simp] theorem run_cons (a : Accumulator) (c : Call) (cs : List Call) :
    a.run (c :: cs) = (a.apply c).run cs := rfl

theorem run_append (a : Accumulator) (cs ds : List Call) : a.run (cs ++ ds) = (a.run cs).run ds := by
  simp [run]

theorem size_eq_length_leaves (a : Accumulator) : a.size = a.leaves.length :=
  (length_leavesAll a.nodes).symm

/-- The leaves of a stack of frames, the innermost in front. -/
theorem leaves_eq (a : Accumulator) :
    a.leaves = leavesAll (a.enclosing.reverse.flatMap Frame.nodes) ++ leavesAll a.current.nodes := by
  simp [leaves, nodes, frames, leavesAll_append]

section apply

variable (a : Accumulator) (c : Call)

theorem order_apply : (a.apply c).order = a.order ++ c.terms := by
  cases c with
  | append p => simp only [apply, notice, settle, push, Call.terms]; split <;> simp
  | orderBy t => rfl
  | startJunction kind => simp [apply, notice, settle, Call.terms]
  | endJunction =>
    simp only [apply, notice, settle, Call.terms, List.append_nil]
    split
    · rfl
    · split <;> rfl

theorem depth_apply :
    (a.apply c).depth =
      if c.isStart then a.depth + 1 else if c.isEnd then a.depth - 1 else a.depth := by
  cases c with
  | append p => simp only [apply, notice, settle, push, depth, Call.isStart, Call.isEnd]; split <;> simp
  | orderBy t => rfl
  | startJunction kind => rfl
  | endJunction =>
    simp only [apply, notice, settle, depth, Call.isStart, Call.isEnd]
    split
    · simp_all
    · split <;> simp_all

theorem strayEnds_apply :
    (a.apply c).strayEnds = a.strayEnds + if c.isEnd && a.depth = 0 then 1 else 0 := by
  cases c with
  | append p => simp only [apply, notice, settle, push, Call.isEnd]; split <;> simp
  | orderBy t => simp [apply, notice, settle, Call.isEnd]
  | startJunction kind => simp [apply, notice, settle, Call.isEnd]
  | endJunction =>
    simp only [apply, notice, settle, depth, Call.isEnd]
    split
    · simp_all
    · split <;> simp_all

theorem route_notice :
    (a.notice c).route = if c.leaves.any Leaf.isTextMatch then .docStore else a.route := by
  cases c with
  | append p =>
    simp only [notice, Call.leaves, containsMatch_eq_any]
    split <;> simp_all
  | _ => rfl

theorem route_settle : (a.settle c).route = a.route := by
  cases c with
  | endJunction =>
    simp only [settle]
    split
    · rfl
    · split <;> rfl
  | _ => rfl

theorem route_apply :
    (a.apply c).route = if c.leaves.any Leaf.isTextMatch then .docStore else a.route := by
  rw [apply, route_settle, route_notice]

theorem leaves_apply : (a.apply c).leaves = a.leaves ++ c.leaves := by
  cases c with
  | append p =>
    have h : (a.apply (.append p)).current.nodes = a.current.nodes ++ [p] ∧
        (a.apply (.append p)).enclosing = a.enclosing := by
      simp only [apply, notice, settle, push, Frame.push]
      split <;> exact ⟨rfl, rfl⟩
    simp [leaves_eq, h.1, h.2, leavesAll_append, leavesAll_singleton, Call.leaves]
  | orderBy t => simp [apply, notice, settle, leaves_eq, Call.leaves]
  | startJunction kind =>
    simp [apply, notice, settle, leaves_eq, Call.leaves, leavesAll_append, leavesAll]
  | endJunction =>
    have hclose := Frame.leaves_close a.current
    simp only [apply, notice, settle, Call.leaves, List.append_nil]
    split
    · simp [leaves_eq]
    · rename_i outer rest henc
      split
      · rename_i h
        rw [h] at hclose
        simp_all [leaves_eq, leavesAll_append, leavesAll]
      · rename_i p h
        rw [h] at hclose
        simp_all [leaves_eq, Frame.push, leavesAll_append, leavesAll]

end apply

/-! ## Runs -/

theorem order_run (a : Accumulator) (cs : List Call) :
    (a.run cs).order = a.order ++ cs.flatMap Call.terms := by
  induction cs generalizing a with
  | nil => simp
  | cons c cs ih => simp [ih, order_apply]

theorem leaves_run (a : Accumulator) (cs : List Call) :
    (a.run cs).leaves = a.leaves ++ cs.flatMap Call.leaves := by
  induction cs generalizing a with
  | nil => simp
  | cons c cs ih => simp [ih, leaves_apply]

theorem strayEnds_run (a : Accumulator) (cs : List Call) :
    (a.run cs).strayEnds = a.strayEnds + (Call.deficit cs - a.depth) := by
  induction cs generalizing a with
  | nil => simp [Call.deficit]
  | cons c cs ih =>
    rw [run_cons, ih, depth_apply, strayEnds_apply, Call.deficit]
    cases c <;> simp [Call.isStart, Call.isEnd] <;> (try split) <;> omega

/-- A stray end opens no junction below the root, so it makes the later ones count for more. -/
theorem depth_run (a : Accumulator) (cs : List Call) :
    ((a.run cs).depth : Int) = a.depth + Call.balance cs + (Call.deficit cs - a.depth : Nat) := by
  induction cs generalizing a with
  | nil => simp [Call.deficit, Call.balance]
  | cons c cs ih =>
    rw [run_cons, ih, depth_apply, Call.deficit, Call.balance_cons]
    cases c <;> simp [Call.isStart, Call.isEnd] <;> omega

/-! ## From the start -/

theorem order_ofCalls (cs : List Call) : (ofCalls cs).order = cs.flatMap Call.terms := by
  rw [ofCalls, order_run]
  rfl

theorem leaves_ofCalls (cs : List Call) : (ofCalls cs).leaves = leavesAll (Call.appended cs) := by
  rw [ofCalls, leaves_run, Call.leavesAll_appended]
  rfl

theorem size_ofCalls (cs : List Call) : (ofCalls cs).size = leafCountAll (Call.appended cs) := by
  rw [size_eq_length_leaves, leaves_ofCalls, length_leavesAll]

theorem strayEnds_ofCalls (cs : List Call) : (ofCalls cs).strayEnds = Call.deficit cs := by
  simpa [ofCalls, depth] using strayEnds_run {} cs

theorem depth_ofCalls (cs : List Call) :
    ((ofCalls cs).depth : Int) = Call.balance cs + Call.deficit cs := by
  simpa [ofCalls, depth] using depth_run {} cs

end Accumulator

end Criteria
