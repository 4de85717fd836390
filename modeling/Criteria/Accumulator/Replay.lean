import Criteria.Accumulator.Basic

/-! # Replaying predicates

A predicate can be made call by call instead of as a whole. What comes out lacks the junctions that
hold no leaf, so it is the pruned predicate.
-/

namespace Criteria.Predicate

mutual

def replay : Predicate → List Call
  | leaf l => [.append (leaf l)]
  | junction kind nodes => .startJunction kind :: replayAll nodes ++ [.endJunction]

def replayAll : List Predicate → List Call
  | [] => []
  | p :: ps => replay p ++ replayAll ps

end

mutual

/-- Leaves out the junctions without nodes, from the inside out. -/
def prune : Predicate → Option Predicate
  | leaf l => some (leaf l)
  | junction kind nodes =>
    match pruneAll nodes with
    | [] => none
    | p :: ps => some (junction kind (p :: ps))

def pruneAll : List Predicate → List Predicate
  | [] => []
  | p :: ps => (prune p).toList ++ pruneAll ps

end

mutual

def isPruned : Predicate → Bool
  | leaf _ => true
  | junction _ nodes => !nodes.isEmpty && arePruned nodes

def arePruned : List Predicate → Bool
  | [] => true
  | p :: ps => isPruned p && arePruned ps

end

mutual

theorem prune_of_isPruned : ∀ p : Predicate, isPruned p = true → prune p = some p
  | leaf _, _ => rfl
  | junction kind nodes, h => by
    simp only [isPruned, Bool.and_eq_true] at h
    have hn := pruneAll_of_arePruned nodes h.2
    cases nodes with
    | nil => simp at h
    | cons p ps => simp [prune, hn]

theorem pruneAll_of_arePruned : ∀ ps : List Predicate, arePruned ps = true → pruneAll ps = ps
  | [], _ => rfl
  | p :: ps, h => by
    simp only [arePruned, Bool.and_eq_true] at h
    simp [pruneAll, prune_of_isPruned p h.1, pruneAll_of_arePruned ps h.2]

end

end Criteria.Predicate
