import Criteria.Accumulator.Balance

/-! # Outlines

A well-bracketed sequence of calls read as a tree. A clause yields the nodes it leaves in the frame
around it: a group yields one junction, or nothing when its body yields nothing.
-/

namespace Criteria

inductive Clause
  | test (p : Predicate)
  | order (t : OrderTerm)
  | group (kind : JunctionKind) (body : List Clause)

namespace Clause

mutual

def calls : Clause → List Call
  | test p => [.append p]
  | order t => [.orderBy t]
  | group kind body => .startJunction kind :: callsAll body ++ [.endJunction]

def callsAll : List Clause → List Call
  | [] => []
  | c :: cs => calls c ++ callsAll cs

end

/-- A junction of the nodes there are. -/
def enclose (kind : JunctionKind) : List Predicate → List Predicate
  | [] => []
  | p :: ps => [.junction kind (p :: ps)]

mutual

def nodes : Clause → List Predicate
  | test p => [p]
  | order _ => []
  | group kind body => enclose kind (nodesAll body)

def nodesAll : List Clause → List Predicate
  | [] => []
  | c :: cs => nodes c ++ nodesAll cs

end

mutual

def terms : Clause → List OrderTerm
  | test _ => []
  | order t => [t]
  | group _ body => termsAll body

def termsAll : List Clause → List OrderTerm
  | [] => []
  | c :: cs => terms c ++ termsAll cs

end

/-- What an outline reads as: nothing, its only node, or the conjunction of its nodes. -/
def reading (body : List Clause) : Option Predicate :=
  match nodesAll body with
  | [] => none
  | [p] => some p
  | p :: q :: ps => some (.junction .and (p :: q :: ps))

end Clause

end Criteria
