import Criteria.Accumulator.Views

/-! # What calls add to

An accumulator only grows: what is at the root, the order terms and the leaves stay in front of what
comes later. The frame at the root is a conjunction that no call closes, so where the frames are kept
in one list none is ever looked for in vain.
-/

namespace Criteria

/-! ## The stack of frames

The accumulator with all its frames in one list, the root first. Here a frame that is looked for may
be missing, and a call that misses one has no outcome. The root is kept by the one test for a second
frame before an end closes the last.
-/

structure Stack where
  frames : List Frame := [⟨.and, []⟩]
  order : List OrderTerm := []
  route : Route := .primary
  strayEnds : Nat := 0
deriving DecidableEq

namespace Stack

def pushLast? (p : Predicate) (fs : List Frame) : Option (List Frame) := do
  let f ← fs.getLast?
  return fs.dropLast ++ [f.push p]

def pop? (fs : List Frame) : Option (Frame × List Frame) := do
  let f ← fs.getLast?
  return (f, fs.dropLast)

def step? (s : Stack) : Call → Option Stack
  | .append p => do
    let route := if p.containsMatch then .docStore else s.route
    return { s with frames := ← pushLast? p s.frames, route }
  | .orderBy t => some { s with order := s.order ++ [t] }
  | .startJunction kind => some { s with frames := s.frames ++ [⟨kind, []⟩] }
  | .endJunction =>
    if s.frames.length < 2 then some { s with strayEnds := s.strayEnds + 1 }
    else do
      let (f, rest) ← pop? s.frames
      match f.close with
      | none => return { s with frames := rest }
      | some p => return { s with frames := ← pushLast? p rest }

def run? (s : Stack) (cs : List Call) : Option Stack := cs.foldlM step? s

/-! ## Views -/

def predicates? (s : Stack) : Option (List Predicate) := s.frames.head?.map Frame.nodes

def depth? (s : Stack) : Option Nat :=
  match s.frames with
  | [] => none
  | _ :: inner => some inner.length

def size (s : Stack) : Nat := Predicate.leafCountAll (s.frames.flatMap Frame.nodes)

end Stack

def Accumulator.stack (a : Accumulator) : Stack :=
  { frames := a.frames, order := a.order, route := a.route, strayEnds := a.strayEnds }

/-! ## Frames that grow -/

/-- The frame `g` is `f` with nodes added behind its own. -/
structure Frame.Grows (f g : Frame) : Prop where
  kind : g.kind = f.kind
  nodes : f.nodes <+: g.nodes

namespace Frame.Grows

theorem refl (f : Frame) : f.Grows f := ⟨rfl, List.prefix_rfl⟩

theorem trans {f g h : Frame} (hfg : f.Grows g) (hgh : g.Grows h) : f.Grows h :=
  ⟨hgh.kind.trans hfg.kind, hfg.nodes.trans hgh.nodes⟩

theorem push (f : Frame) (p : Predicate) : f.Grows (f.push p) := ⟨rfl, List.prefix_append _ _⟩

theorem getLastD {f g : Frame} (h : f.Grows g) (fs : List Frame) :
    (fs.getLastD f).Grows (fs.getLastD g) := by
  cases fs with
  | nil => exact h
  | cons f' fs =>
    rw [List.getLastD_cons, List.getLastD_cons]
    exact refl _

end Frame.Grows

namespace Accumulator

variable (a : Accumulator)

/-! ## The root -/

theorem grows_rootFrame_apply (c : Call) : a.rootFrame.Grows (a.apply c).rootFrame := by
  cases c with
  | append p =>
    have hpush := (Frame.Grows.push a.current p).getLastD a.enclosing
    simp only [apply, notice, settle]
    split <;> exact hpush
  | orderBy t => exact .refl _
  | startJunction kind =>
    have hroot : (a.apply (.startJunction kind)).rootFrame = a.rootFrame :=
      List.getLastD_cons
    exact hroot ▸ .refl _
  | endJunction =>
    cases henc : a.enclosing with
    | nil =>
      have hroot : (a.apply .endJunction).rootFrame = a.rootFrame := by
        simp only [apply, notice, settle, henc, rootFrame]
      exact hroot ▸ .refl _
    | cons outer rest =>
      have hroot : a.rootFrame = rest.getLastD outer := by
        rw [rootFrame, henc, List.getLastD_cons]
      rw [hroot]
      simp only [apply, notice, settle, henc]
      cases a.current.close with
      | none => exact .refl _
      | some p => exact (Frame.Grows.push outer p).getLastD rest

theorem grows_rootFrame_run (cs : List Call) : a.rootFrame.Grows (a.run cs).rootFrame := by
  induction cs generalizing a with
  | nil => exact .refl _
  | cons c cs ih => exact (a.grows_rootFrame_apply c).trans (ih (a.apply c))

theorem kind_rootFrame_ofCalls (cs : List Call) : (ofCalls cs).rootFrame.kind = .and :=
  (grows_rootFrame_run {} cs).kind

theorem order_prefix_run (cs : List Call) : a.order <+: (a.run cs).order := by
  rw [order_run]
  exact List.prefix_append _ _

theorem size_le_run (cs : List Call) : a.size ≤ (a.run cs).size := by
  rw [size_eq_length_leaves, size_eq_length_leaves, leaves_run, List.length_append]
  exact Nat.le_add_right _ _

theorem depth_apply_near (c : Call) :
    (a.apply c).depth ≤ a.depth + 1 ∧ a.depth ≤ (a.apply c).depth + 1 := by
  rw [depth_apply]
  cases c <;> simp only [Call.isStart, Call.isEnd, if_true, Bool.false_eq_true, if_false] <;> omega

/-! ## All frames in one list -/

theorem frames_eq : a.frames = a.enclosing.reverse ++ [a.current] := List.reverse_cons

theorem head?_frames : a.frames.head? = some a.rootFrame := by
  rw [frames, List.head?_reverse, List.getLast?_cons, rootFrame, List.getLastD_eq_getLast?]

end Accumulator

namespace Stack

theorem pushLast?_concat (p : Predicate) (fs : List Frame) (f : Frame) :
    pushLast? p (fs ++ [f]) = some (fs ++ [f.push p]) := by
  simp [pushLast?]

theorem pop?_concat (fs : List Frame) (f : Frame) : pop? (fs ++ [f]) = some (f, fs) := by
  simp [pop?]

theorem frames_stack (a : Accumulator) : a.stack.frames = a.frames := rfl

theorem length_frames_stack (a : Accumulator) : a.stack.frames.length = a.depth + 1 := by
  rw [frames_stack, Accumulator.frames, List.length_reverse, List.length_cons, Accumulator.depth]

/-- Whatever the state, a call finds the frames that it looks for. -/
theorem step?_stack (a : Accumulator) (c : Call) :
    a.stack.step? c = some (a.apply c).stack := by
  cases c with
  | append p =>
    have hframes := pushLast?_concat p a.enclosing.reverse a.current
    rw [← a.frames_eq] at hframes
    simp only [step?, Accumulator.stack, hframes]
    simp only [Accumulator.apply, Accumulator.notice, Accumulator.settle]
    split <;> simp [Accumulator.push, Accumulator.frames_eq]
  | orderBy t => rfl
  | startJunction kind =>
    have hframes : (a.apply (.startJunction kind)).frames = a.frames ++ [⟨kind, []⟩] :=
      List.reverse_cons
    simp only [step?, Accumulator.stack, hframes]
    rfl
  | endJunction =>
    cases henc : a.enclosing with
    | nil =>
      have hlen : a.stack.frames.length < 2 := by
        rw [length_frames_stack, Accumulator.depth, henc]
        decide
      rw [step?, if_pos hlen]
      simp [Accumulator.apply, Accumulator.notice, Accumulator.settle, Accumulator.stack,
        Accumulator.frames_eq, henc]
    | cons outer rest =>
      have hlen : ¬ a.stack.frames.length < 2 := by
        rw [length_frames_stack, Accumulator.depth, henc, List.length_cons]
        omega
      have hframes : a.stack.frames = (rest.reverse ++ [outer]) ++ [a.current] := by
        rw [frames_stack, a.frames_eq, henc, List.reverse_cons]
      rw [step?, if_neg hlen, hframes, pop?_concat]
      simp only [Accumulator.apply, Accumulator.notice, Accumulator.settle, henc]
      cases hclose : a.current.close with
      | none => simp [Accumulator.stack, Accumulator.frames_eq, hclose]
      | some p => simp [Accumulator.stack, Accumulator.frames_eq, hclose, pushLast?_concat]

theorem run?_stack (a : Accumulator) (cs : List Call) :
    a.stack.run? cs = some (a.run cs).stack := by
  induction cs generalizing a with
  | nil => rfl
  | cons c cs ih =>
    rw [run?, List.foldlM_cons, step?_stack]
    exact ih (a.apply c)

theorem predicates?_stack (a : Accumulator) : a.stack.predicates? = some a.predicates := by
  rw [predicates?, Accumulator.stack, a.head?_frames]
  rfl

theorem depth?_stack (a : Accumulator) : a.stack.depth? = some a.depth := by
  have hlen := length_frames_stack a
  unfold depth?
  cases hframes : a.stack.frames with
  | nil =>
    rw [hframes] at hlen
    cases hlen
  | cons f inner =>
    rw [hframes] at hlen
    exact congrArg some (Nat.succ.inj hlen)

end Stack

/-! ## After any calls -/

namespace Accumulator

/-- Whatever is called afterwards, the nodes of the root, the order terms and the leaves stay in
front of what is added, and the root frame is a conjunction that stays at the bottom of the stack. No
call, and no view, misses a frame there, and the depth changes by one at most. -/
theorem grows_from_root (cs ds : List Call) :
    (ofCalls cs).predicates <+: ((ofCalls cs).run ds).predicates ∧
      (ofCalls cs).order <+: ((ofCalls cs).run ds).order ∧
      (ofCalls cs).size ≤ ((ofCalls cs).run ds).size ∧
      (ofCalls cs).frames.head? = some ⟨.and, (ofCalls cs).predicates⟩ ∧
      (∃ ps, ((ofCalls cs).run ds).frames.head? = some ⟨.and, (ofCalls cs).predicates ++ ps⟩) ∧
      ({} : Stack).run? cs = some (ofCalls cs).stack ∧
      (ofCalls cs).stack.run? ds = some ((ofCalls cs).run ds).stack ∧
      (ofCalls cs).stack.predicates? = some (ofCalls cs).predicates ∧
      (ofCalls cs).stack.depth? = some (ofCalls cs).depth ∧
      (ofCalls cs).stack.size = (ofCalls cs).size ∧
      ∀ c, ((ofCalls cs).apply c).depth ≤ (ofCalls cs).depth + 1 ∧
        (ofCalls cs).depth ≤ ((ofCalls cs).apply c).depth + 1 := by
  have hrun := grows_rootFrame_run (ofCalls cs) ds
  have hkind := kind_rootFrame_ofCalls cs
  obtain ⟨ps, hps⟩ := hrun.nodes
  refine ⟨hrun.nodes, order_prefix_run _ ds, size_le_run _ ds, ?_, ⟨ps, ?_⟩,
    Stack.run?_stack {} cs, Stack.run?_stack _ ds, Stack.predicates?_stack _,
    Stack.depth?_stack _, rfl, depth_apply_near _⟩
  · rw [head?_frames, ← hkind]
    rfl
  · rw [head?_frames, ← hkind, ← hrun.kind]
    exact congrArg (fun ns => some (Frame.mk _ ns)) hps.symm

end Accumulator

end Criteria
