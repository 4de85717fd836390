import Criteria.Proofs.Outline

/-! # The meaning of junction calls

A well-bracketed sequence of calls builds the conjunction of the nodes it leaves at the root, whether
these are none, one or many. Enclosed in a junction it leaves one node or none, and none means that
nothing is tested.
-/

namespace Criteria

/-! ## Truth of a predicate

A predicate holds of an entity according to which of its leaves do. No predicate holds of all.
-/

namespace Predicate

mutual

def holds (v : Leaf → Bool) : Predicate → Bool
  | leaf l => v l
  | junction .and nodes => holdAll v nodes
  | junction .or nodes => holdsAny v nodes
  | junction .not nodes => !holdAll v nodes

def holdAll (v : Leaf → Bool) : List Predicate → Bool
  | [] => true
  | p :: ps => holds v p && holdAll v ps

def holdsAny (v : Leaf → Bool) : List Predicate → Bool
  | [] => false
  | p :: ps => holds v p || holdsAny v ps

end

def holdsIf (v : Leaf → Bool) : Option Predicate → Bool
  | none => true
  | some p => p.holds v

theorem holdAll_eq_all (v : Leaf → Bool) (ps : List Predicate) :
    holdAll v ps = ps.all (holds v) := by
  induction ps with
  | nil => rfl
  | cons p ps ih => simp [holdAll, ih]

theorem holdsAny_eq_any (v : Leaf → Bool) (ps : List Predicate) :
    holdsAny v ps = ps.any (holds v) := by
  induction ps with
  | nil => rfl
  | cons p ps ih => simp [holdsAny, ih]

end Predicate

/-! ## Sequences of calls -/

open Predicate Clause

namespace Predicate

variable (v : Leaf → Bool)

theorem holdsIf_conjoin (ps : List Predicate) : holdsIf v (conjoin ps) = ps.all (holds v) := by
  rcases ps with _ | ⟨p, _ | ⟨q, ps⟩⟩
  · rfl
  · simp [conjoin, holdsIf]
  · exact holdAll_eq_all v (p :: q :: ps)

theorem holds_not (ps : List Predicate) : holds v (.junction .not ps) = !ps.all (holds v) := by
  rw [holds, holdAll_eq_all]

theorem holds_or (ps : List Predicate) : holds v (.junction .or ps) = ps.any (holds v) := by
  rw [holds, holdsAny_eq_any]

theorem all_enclose_and (ps : List Predicate) :
    (enclose .and ps).all (holds v) = ps.all (holds v) := by
  cases ps with
  | nil => rfl
  | cons p ps => simp [enclose, holds, holdAll_eq_all]

theorem all_enclose_not {ps : List Predicate} (h : ps ≠ []) :
    (enclose .not ps).all (holds v) = !ps.all (holds v) := by
  obtain ⟨p, ps, rfl⟩ := List.exists_cons_of_ne_nil h
  rw [enclose, List.all_cons, List.all_nil, Bool.and_true, holds_not]

theorem all_enclose_or {ps : List Predicate} (h : ps ≠ []) :
    (enclose .or ps).all (holds v) = ps.any (holds v) := by
  obtain ⟨p, ps, rfl⟩ := List.exists_cons_of_ne_nil h
  rw [enclose, List.all_cons, List.all_nil, Bool.and_true, holds_or]

theorem all_enclose_not_not (ps : List Predicate) :
    (enclose .not (enclose .not ps)).all (holds v) = ps.all (holds v) := by
  cases ps with
  | nil => rfl
  | cons p ps =>
    rw [all_enclose_not v (by simp [enclose]), all_enclose_not v (by simp), Bool.not_not]

end Predicate

def Call.within (kind : JunctionKind) (cs : List Call) : List Call :=
  .opening kind :: cs ++ [.close]

theorem Clause.callsAll_group (kind : JunctionKind) (body : List Clause) :
    callsAll [.group kind body] = Call.within kind (callsAll body) := by
  simp [callsAll, calls, Call.within]

theorem Clause.callsAll_append (body body' : List Clause) :
    callsAll (body ++ body') = callsAll body ++ callsAll body' := by
  induction body with
  | nil => rfl
  | cons c body ih => simp [callsAll, ih]

theorem Clause.nodesAll_append (body body' : List Clause) :
    nodesAll (body ++ body') = nodesAll body ++ nodesAll body' := by
  induction body with
  | nil => rfl
  | cons c body ih => simp [nodesAll, ih]

theorem Clause.nodesAll_group (kind : JunctionKind) (body : List Clause) :
    nodesAll [.group kind body] = enclose kind (nodesAll body) := by
  simp [nodesAll, nodes]

namespace Accumulator

/-- The predicate that calls build, on their own and without a limit. -/
def built (cs : List Call) : Except QueryError (Option Predicate) :=
  Finished.predicate <$> (ofCalls cs).finish none

def truth (v : Leaf → Bool) (cs : List Call) : Except QueryError Bool :=
  holdsIf v <$> built cs

theorem predicates_callsAll (body : List Clause) :
    (ofCalls (callsAll body)).predicates = nodesAll body := by
  rw [ofCalls, run_callsAll]
  simp [predicates, rootFrame, graft]

theorem built_callsAll (body : List Clause) :
    built (callsAll body) = .ok (conjoin (nodesAll body)) := by
  rw [built, ofCalls, run_callsAll, finish_graft]
  rfl

theorem truth_callsAll (v : Leaf → Bool) (body : List Clause) :
    truth v (callsAll body) = .ok ((nodesAll body).all (holds v)) := by
  rw [truth, built_callsAll, ← holdsIf_conjoin]
  rfl

/-- Junction calls have their Boolean meaning. -/
theorem truth_of_wellBracketed (v : Leaf → Bool) {w w₁ w₂ : List Call} (h : Call.WellBracketed w)
    (h₁ : Call.WellBracketed w₁) (h₂ : Call.WellBracketed w₂) :
    (∃ b₁ b₂, truth v w₁ = .ok b₁ ∧ truth v w₂ = .ok b₂ ∧
        truth v (w₁ ++ w₂) = .ok (b₁ && b₂)) ∧
      ∃ b, truth v w = .ok b ∧
        truth v (Call.within .and w) = .ok b ∧
        truth v (Call.within .not (Call.within .not w)) = .ok b ∧
        ((ofCalls w).predicates ≠ [] →
          truth v (Call.within .not w) = .ok !b ∧
            truth v (Call.within .or w) = .ok ((ofCalls w).predicates.any (holds v))) ∧
        ((ofCalls w).predicates = [] → ∀ kind, built (Call.within kind w) = .ok none) := by
  obtain ⟨body, rfl, -⟩ := existsUnique_callsAll_eq h
  obtain ⟨body₁, rfl, -⟩ := existsUnique_callsAll_eq h₁
  obtain ⟨body₂, rfl, -⟩ := existsUnique_callsAll_eq h₂
  simp only [← callsAll_group, ← callsAll_append, truth_callsAll, built_callsAll, nodesAll_group,
    nodesAll_append, predicates_callsAll]
  refine ⟨⟨_, _, rfl, rfl, by rw [List.all_append]⟩, _, rfl, ?_, ?_, fun hn => ⟨?_, ?_⟩, ?_⟩
  · rw [all_enclose_and]
  · rw [all_enclose_not_not]
  · rw [all_enclose_not v hn]
  · rw [all_enclose_or v hn]
  · intro hn kind
    rw [hn]
    rfl

/-- A test that fails beside the negation of one that fails, and a group without any node. -/
theorem truth_of_failing_leaves :
    let w : List Call := [.append (compare "code" .eq "NYC"), .startJunction .not,
      .append (textMatch "notes" "late"), .endJunction]
    let v : Leaf → Bool := fun _ => false
    Call.WellBracketed w ∧ truth v (w ++ Call.within .or []) = .ok false ∧
      truth v (Call.within .not w) = .ok true ∧ truth v (Call.within .or w) = .ok true ∧
      built (Call.within .not (Call.within .or [])) = .ok none := by
  intro w v
  have hw : Call.WellBracketed w := by decide
  have he : Call.WellBracketed (Call.within .or []) := by decide
  obtain ⟨⟨_, _, h₁, h₂, happ⟩, b, hb, -, -, hn, -⟩ := truth_of_wellBracketed v hw hw he
  obtain ⟨-, _, -, -, -, -, hnone⟩ := truth_of_wellBracketed v he hw he
  cases h₁.symm.trans (rfl : truth v w = .ok false)
  cases h₂.symm.trans (rfl : truth v (Call.within .or []) = .ok true)
  cases hb.symm.trans (rfl : truth v w = .ok false)
  obtain ⟨hnot, hor⟩ := hn (by decide)
  exact ⟨hw, happ, hnot, hor, hnone rfl .not⟩

end Accumulator

end Criteria
