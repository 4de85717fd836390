import Criteria.Json.Read

/-! # Predicates

The condition of a query: leaves that test one property each, and junctions over any number of
nodes. A negation is that of the conjunction of its nodes. Wildcards and casing are described here
and left to be applied where the query runs.
-/

namespace Criteria

inductive CompareOp
  | eq
  | ne
  | like
  | startsWith
  | endsWith
  | contains
deriving DecidableEq, Repr

namespace CompareOp

instance : Json.Variants CompareOp where
  all := [eq, ne, like, startsWith, endsWith, contains]
  name
    | eq => "Eq"
    | ne => "Ne"
    | like => "Like"
    | startsWith => "StartsWith"
    | endsWith => "EndsWith"
    | contains => "Contains"

def symbol : CompareOp → String
  | eq => "eq"
  | ne => "ne"
  | like => "like"
  | startsWith => "starts_with"
  | endsWith => "ends_with"
  | contains => "contains"

/-- A stable number from one. -/
def tag : CompareOp → Nat
  | eq => 1
  | ne => 2
  | like => 3
  | startsWith => 4
  | endsWith => 5
  | contains => 6

def isPattern : CompareOp → Bool
  | eq | ne => false
  | like | startsWith | endsWith | contains => true

end CompareOp

inductive Casing
  | sensitive
  | insensitive
deriving DecidableEq, Repr, Inhabited

namespace Casing

instance : Json.Variants Casing where
  all := [sensitive, insensitive]
  name
    | sensitive => "Sensitive"
    | insensitive => "Insensitive"

def isInsensitive : Casing → Bool
  | sensitive => false
  | insensitive => true

end Casing

inductive JunctionKind
  | and
  | or
  | not
deriving DecidableEq, Repr, Inhabited

namespace JunctionKind

instance : Json.Variants JunctionKind where
  all := [and, or, not]
  name
    | and => "And"
    | or => "Or"
    | not => "Not"

def symbol : JunctionKind → String
  | and => "and"
  | or => "or"
  | not => "not"

end JunctionKind

/-- A text comparison of one property with a bare value. -/
structure Comparison where
  path : String
  op : CompareOp
  value : String
  casing : Casing
deriving DecidableEq, Repr

inductive Leaf
  | compare (c : Comparison)
  /-- Full-text search. -/
  | textMatch (path value : String)
  | isNull (path : String)
  | isNotNull (path : String)
  | inList (path : String) (values : List String)
deriving DecidableEq, Repr

namespace Leaf

def path : Leaf → String
  | compare c => c.path
  | textMatch path _ => path
  | isNull path => path
  | isNotNull path => path
  | inList path _ => path

def isTextMatch : Leaf → Bool
  | textMatch .. => true
  | _ => false

end Leaf

inductive Predicate
  | leaf (l : Leaf)
  | junction (kind : JunctionKind) (nodes : List Predicate)

namespace Predicate

def compare (path : String) (op : CompareOp) (value : String) : Predicate :=
  leaf (.compare ⟨path, op, value, .sensitive⟩)

def compareInsensitive (path : String) (op : CompareOp) (value : String) : Predicate :=
  leaf (.compare ⟨path, op, value, .insensitive⟩)

def textMatch (path value : String) : Predicate := leaf (.textMatch path value)

def path? : Predicate → Option String
  | leaf l => some l.path
  | junction .. => none

mutual

def leaves : Predicate → List Leaf
  | leaf l => [l]
  | junction _ nodes => leavesAll nodes

def leavesAll : List Predicate → List Leaf
  | [] => []
  | p :: ps => leaves p ++ leavesAll ps

end

mutual

def containsMatch : Predicate → Bool
  | leaf l => l.isTextMatch
  | junction _ nodes => containsMatchAny nodes

def containsMatchAny : List Predicate → Bool
  | [] => false
  | p :: ps => containsMatch p || containsMatchAny ps

end

mutual

def leafCount : Predicate → Nat
  | leaf _ => 1
  | junction _ nodes => leafCountAll nodes

def leafCountAll : List Predicate → Nat
  | [] => 0
  | p :: ps => leafCount p + leafCountAll ps

end

/-! ## Equality is decidable -/

mutual

def same : Predicate → Predicate → Bool
  | leaf l, leaf m => l = m
  | junction k ps, junction l qs => k = l && sameAll ps qs
  | leaf _, junction .. => false
  | junction .., leaf _ => false

def sameAll : List Predicate → List Predicate → Bool
  | [], [] => true
  | p :: ps, q :: qs => same p q && sameAll ps qs
  | [], _ :: _ => false
  | _ :: _, [] => false

end

mutual

theorem same_iff : ∀ p q : Predicate, same p q = true ↔ p = q
  | leaf l, leaf m => by simp [same]
  | junction k ps, junction l qs => by simp [same, sameAll_iff ps qs]
  | leaf _, junction .. => by simp [same]
  | junction .., leaf _ => by simp [same]

theorem sameAll_iff : ∀ ps qs : List Predicate, sameAll ps qs = true ↔ ps = qs
  | [], [] => by simp [sameAll]
  | p :: ps, q :: qs => by simp [sameAll, same_iff p q, sameAll_iff ps qs]
  | [], _ :: _ => by simp [sameAll]
  | _ :: _, [] => by simp [sameAll]

end

instance : DecidableEq Predicate := fun p q => decidable_of_iff _ (same_iff p q)

/-! ## Lists of predicates -/

theorem leavesAll_eq_flatMap (ps : List Predicate) : leavesAll ps = ps.flatMap leaves := by
  induction ps with
  | nil => rfl
  | cons p ps ih => simp [leavesAll, ih]

theorem containsMatchAny_eq_any (ps : List Predicate) :
    containsMatchAny ps = ps.any containsMatch := by
  induction ps with
  | nil => rfl
  | cons p ps ih => simp [containsMatchAny, ih]

mutual

theorem length_leaves : ∀ p : Predicate, (leaves p).length = leafCount p
  | leaf _ => rfl
  | junction _ nodes => by simp [leaves, leafCount, length_leavesAll nodes]

theorem length_leavesAll : ∀ ps : List Predicate, (leavesAll ps).length = leafCountAll ps
  | [] => rfl
  | p :: ps => by simp [leavesAll, leafCountAll, length_leaves p, length_leavesAll ps]

end

end Predicate

end Criteria
