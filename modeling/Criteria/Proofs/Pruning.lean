import Criteria.Accumulator.Replay
import Criteria.Proofs.Leaves

/-! # Empty junctions

A junction that is closed without a node is gone before the one around it is looked at. So an empty
junction only comes from outside: where none is appended none is held, and then there is a leaf
wherever there is a node.
-/

namespace Criteria

namespace Predicate

inductive Occurs (q : Predicate) : Predicate → Prop
  | self : Occurs q q
  | node {kind : JunctionKind} {nodes : List Predicate} {p : Predicate} (hp : p ∈ nodes)
      (h : Occurs q p) : Occurs q (junction kind nodes)

def HasEmptyJunction (p : Predicate) : Prop := ∃ kind, Occurs (junction kind []) p

theorem not_hasEmptyJunction_leaf (l : Leaf) : ¬ HasEmptyJunction (leaf l) := by
  rintro ⟨_, ⟨⟩⟩

theorem hasEmptyJunction_junction_iff (kind : JunctionKind) (nodes : List Predicate) :
    HasEmptyJunction (junction kind nodes) ↔ nodes = [] ∨ ∃ p ∈ nodes, p.HasEmptyJunction := by
  constructor
  · rintro ⟨kind', h⟩
    cases h with
    | self => exact Or.inl rfl
    | node hp h => exact Or.inr ⟨_, hp, kind', h⟩
  · rintro (rfl | ⟨p, hp, kind', h⟩)
    · exact ⟨kind, .self⟩
    · exact ⟨kind', .node hp h⟩

mutual

theorem isPruned_iff : ∀ p : Predicate, isPruned p = true ↔ ¬ p.HasEmptyJunction
  | leaf l => by simp [isPruned, not_hasEmptyJunction_leaf]
  | junction kind nodes => by
    rw [isPruned, Bool.and_eq_true, arePruned_iff nodes, hasEmptyJunction_junction_iff]
    simp

theorem arePruned_iff : ∀ ps : List Predicate, arePruned ps = true ↔ ∀ p ∈ ps, ¬ p.HasEmptyJunction
  | [] => by simp [arePruned]
  | p :: ps => by simp [arePruned, isPruned_iff p, arePruned_iff ps]

end

instance (p : Predicate) : Decidable p.HasEmptyJunction :=
  decidable_of_iff (¬ isPruned p = true) (by rw [isPruned_iff, not_not])

theorem leafCount_pos : ∀ p : Predicate, ¬ p.HasEmptyJunction → 0 < leafCount p
  | leaf _, _ => Nat.one_pos
  | junction kind [], h => absurd ⟨kind, .self⟩ h
  | junction kind (p :: ps), h => by
    rw [hasEmptyJunction_junction_iff] at h
    push Not at h
    have hp := leafCount_pos p (h.2 p List.mem_cons_self)
    rw [leafCount, leafCountAll]
    omega

theorem leafCountAll_eq_zero_iff {ps : List Predicate} (h : ∀ p ∈ ps, ¬ p.HasEmptyJunction) :
    leafCountAll ps = 0 ↔ ps = [] := by
  cases ps with
  | nil => simp [leafCountAll]
  | cons p ps =>
    have hp := leafCount_pos p (h p List.mem_cons_self)
    simp only [leafCountAll, reduceCtorEq, iff_false]
    omega

/-- The conjunction at the root is made of two nodes or more, so it is not empty itself. -/
theorem not_hasEmptyJunction_conjoin {ps : List Predicate} (h : ∀ p ∈ ps, ¬ p.HasEmptyJunction) :
    ∀ p ∈ conjoin ps, ¬ p.HasEmptyJunction := by
  rcases ps with _ | ⟨p, _ | ⟨q, ps⟩⟩
  · rintro _ ⟨⟩
  · rintro _ ⟨⟩
    exact h p List.mem_cons_self
  · rintro _ ⟨⟩
    rw [hasEmptyJunction_junction_iff]
    rintro (hnil | ⟨r, hr, hempty⟩)
    · cases hnil
    · exact h r hr hempty

theorem conjoin_eq_none_iff (ps : List Predicate) : conjoin ps = none ↔ ps = [] := by
  rcases ps with _ | ⟨p, _ | ⟨q, ps⟩⟩ <;> simp [conjoin]

end Predicate

open Predicate

theorem Frame.close_eq_some_iff (f : Frame) (p : Predicate) :
    f.close = some p ↔ f.nodes ≠ [] ∧ p = .junction f.kind f.nodes := by
  unfold close
  split
  · rename_i h
    simp [List.isEmpty_iff.mp h]
  · rename_i h
    rw [List.isEmpty_iff] at h
    simp [h, eq_comm]

namespace Accumulator

theorem mem_nodes_iff (a : Accumulator) (p : Predicate) :
    p ∈ a.nodes ↔ ∃ f ∈ a.frames, p ∈ f.nodes := List.mem_flatMap

theorem nodes_eq (a : Accumulator) :
    a.nodes = a.enclosing.reverse.flatMap Frame.nodes ++ a.current.nodes := by
  simp [nodes, frames]

theorem nodes_apply_append (a : Accumulator) (p : Predicate) :
    (a.apply (.append p)).nodes = a.nodes ++ [p] := by
  simp only [nodes_eq, apply, notice, settle, push, Frame.push]
  split <;> simp

theorem nodes_apply_startJunction (a : Accumulator) (kind : JunctionKind) :
    (a.apply (.startJunction kind)).nodes = a.nodes := by
  simp [nodes_eq, apply, notice, settle]

theorem nodes_apply_endJunction {a : Accumulator} {outer : Frame} {rest : List Frame}
    (h : a.enclosing = outer :: rest) :
    (a.apply .endJunction).nodes =
      rest.reverse.flatMap Frame.nodes ++ outer.nodes ++ a.current.close.toList := by
  simp only [apply, notice, settle, h]
  cases a.current.close <;> simp [nodes_eq, Frame.push]

/-- After a call each node is an old one, the appended predicate, or a junction of old nodes that
has been closed, and then it has a node. -/
theorem mem_nodes_apply {a : Accumulator} {c : Call} {p : Predicate} (h : p ∈ (a.apply c).nodes) :
    p ∈ a.nodes ∨ c = .append p ∨
      ∃ kind ps, p = .junction kind ps ∧ ps ≠ [] ∧ ∀ q ∈ ps, q ∈ a.nodes := by
  cases c with
  | append q =>
    rw [nodes_apply_append, List.mem_append, List.mem_singleton] at h
    exact h.imp id fun hq => Or.inl (congrArg Call.append hq.symm)
  | orderBy t => exact Or.inl h
  | startJunction kind => exact Or.inl (nodes_apply_startJunction a kind ▸ h)
  | endJunction =>
    cases henc : a.enclosing with
    | nil =>
      left
      simpa [nodes_eq, apply, notice, settle, henc] using h
    | cons outer rest =>
      have hold : a.nodes = rest.reverse.flatMap Frame.nodes ++ outer.nodes ++ a.current.nodes := by
        simp [nodes_eq, henc]
      rw [nodes_apply_endJunction henc, List.mem_append, Option.mem_toList] at h
      rcases h with h | h
      · exact Or.inl (hold ▸ List.mem_append_left _ h)
      · obtain ⟨hne, rfl⟩ := (Frame.close_eq_some_iff _ p).mp h
        exact Or.inr (Or.inr ⟨_, _, rfl, hne, fun q hq => hold ▸ List.mem_append_right _ hq⟩)

def Pruned (a : Accumulator) : Prop := ∀ p ∈ a.nodes, ¬ p.HasEmptyJunction

theorem Pruned.apply {a : Accumulator} (h : a.Pruned) {c : Call}
    (hc : ∀ p ∈ c.appended?, ¬ p.HasEmptyJunction) : (a.apply c).Pruned := by
  intro p hp
  rcases mem_nodes_apply hp with hold | rfl | ⟨kind, ps, rfl, hne, hps⟩
  · exact h p hold
  · exact hc p rfl
  · rw [hasEmptyJunction_junction_iff]
    rintro (hnil | ⟨q, hq, hempty⟩)
    · exact hne hnil
    · exact h q (hps q hq) hempty

theorem Pruned.run {a : Accumulator} (h : a.Pruned) {cs : List Call}
    (hcs : ∀ p ∈ Call.appended cs, ¬ p.HasEmptyJunction) : (a.run cs).Pruned := by
  induction cs generalizing a with
  | nil => exact h
  | cons c cs ih =>
    simp only [Call.appended, List.mem_filterMap, List.mem_cons] at hcs
    refine ih (h.apply fun p hp => hcs p ⟨c, Or.inl rfl, hp⟩) fun p hp => ?_
    obtain ⟨d, hd, hdp⟩ := List.mem_filterMap.mp hp
    exact hcs p ⟨d, Or.inr hd, hdp⟩

theorem pruned_ofCalls {cs : List Call} (h : ∀ p ∈ Call.appended cs, ¬ p.HasEmptyJunction) :
    (ofCalls cs).Pruned := by
  have hfresh : ({} : Accumulator).Pruned := by
    intro p hp
    cases hp
  exact hfresh.run h

section pruned

variable {a : Accumulator} (h : a.Pruned)
include h

theorem Pruned.size_eq_zero_iff : a.size = 0 ↔ ∀ f ∈ a.frames, f.nodes = [] := by
  rw [size, leafCountAll_eq_zero_iff h, nodes, List.flatMap_eq_nil_iff]

theorem Pruned.finish {limit : Option Nat} {done : Finished} (hf : a.finish limit = .ok done) :
    (∀ p, done.predicate = some p → ¬ p.HasEmptyJunction) ∧
      (done.predicate = none ↔ done.count = 0) := by
  obtain ⟨-, hd, -, rfl⟩ := (finish_eq_ok_iff a limit done).mp hf
  have hnodes := predicates_eq_nodes hd
  refine ⟨fun p hp => ?_, ?_⟩
  · exact not_hasEmptyJunction_conjoin (hnodes ▸ h) p hp
  · rw [conjoin_eq_none_iff, hnodes]
    exact (leafCountAll_eq_zero_iff h).symm

theorem Pruned.vanish :
    (∀ f ∈ a.frames, ∀ p ∈ f.nodes, ¬ p.HasEmptyJunction) ∧
      (a.size = 0 ↔ ∀ f ∈ a.frames, f.nodes = []) ∧
      (a.isEmpty = true ↔ a.size = 0) ∧
      ∀ limit done, a.finish limit = .ok done →
        (∀ p, done.predicate = some p → ¬ p.HasEmptyJunction) ∧
          (done.predicate = none ↔ done.count = 0) ∧ (done.count = 0 ↔ a.isEmpty = true) := by
  refine ⟨fun f hf p hpf => ?_, h.size_eq_zero_iff, decide_eq_true_iff, fun limit done hf => ?_⟩
  · exact h p ((mem_nodes_iff _ p).mpr ⟨f, hf, hpf⟩)
  · obtain ⟨hnone, hcount⟩ := h.finish hf
    obtain ⟨-, -, -, rfl⟩ := (finish_eq_ok_iff _ limit done).mp hf
    exact ⟨hnone, hcount, decide_eq_true_iff.symm⟩

end pruned

/-- Where no empty junction is appended none is ever held, in whichever frame. An accumulator
without leaves is then one without nodes, and what is finished tests nothing just where there is
nothing to count. -/
theorem empty_junctions_vanish {cs : List Call}
    (h : ∀ p ∈ Call.appended cs, ¬ p.HasEmptyJunction) {ds : List Call} (hds : ds <+: cs) :
    (∀ f ∈ (ofCalls ds).frames, ∀ p ∈ f.nodes, ¬ p.HasEmptyJunction) ∧
      ((ofCalls ds).size = 0 ↔ ∀ f ∈ (ofCalls ds).frames, f.nodes = []) ∧
      ((ofCalls ds).isEmpty = true ↔ (ofCalls ds).size = 0) ∧
      ∀ limit done, (ofCalls ds).finish limit = .ok done →
        (∀ p, done.predicate = some p → ¬ p.HasEmptyJunction) ∧
          (done.predicate = none ↔ done.count = 0) ∧
          (done.count = 0 ↔ (ofCalls ds).isEmpty = true) := by
  refine (pruned_ofCalls fun p hp => h p ?_).vanish
  exact (hds.filterMap _).subset hp

/-- A tower of empty junctions of all kinds, within a junction that has a search of its own. -/
theorem empty_junctions_vanish_of_tower :
    let tower : List Call := [.startJunction .not, .startJunction .or, .startJunction .and,
      .endJunction, .endJunction, .endJunction]
    let cs : List Call := .startJunction .or :: tower ++
      [.append (.junction .not [textMatch "notes" "late"]), .endJunction]
    (ofCalls (tower.take 4)).size = 0 ∧ (∀ f ∈ (ofCalls (tower.take 4)).frames, f.nodes = []) ∧
      ∃ done p, (ofCalls cs).finish none = .ok done ∧ done.predicate = some p ∧
        ¬ p.HasEmptyJunction ∧ (ofCalls cs).isEmpty = false := by
  intro tower cs
  have htower : ∀ p ∈ Call.appended tower, ¬ p.HasEmptyJunction := by decide
  have hcs : ∀ p ∈ Call.appended cs, ¬ p.HasEmptyJunction := by decide
  obtain ⟨-, hsize, -, -⟩ := empty_junctions_vanish htower (List.take_prefix 4 tower)
  obtain ⟨-, -, -, hfinish⟩ := empty_junctions_vanish hcs List.prefix_rfl
  obtain ⟨hp, -, hempty⟩ := hfinish none _ rfl
  refine ⟨rfl, hsize.mp rfl, _, _, rfl, rfl, hp _ rfl, ?_⟩
  exact Bool.eq_false_iff.mpr fun he => absurd (hempty.mpr he) (by decide)

/-- An empty junction that is appended as a whole stays, and is a node without a leaf. -/
example : (ofCalls [.append (.junction .or [])]).isEmpty = true ∧
    (ofCalls [.append (.junction .or [])]).predicates = [.junction .or []] := by
  decide

end Accumulator

end Criteria
