import Criteria.Predicate.Printer

/-! # Query specs

What a finished query hands over: the entity, the condition if there is one, the order terms, and
the store that has to run it.
-/

namespace Criteria

/-- A single full-text search anywhere sends the query to the document store. -/
inductive Route
  | primary
  | docStore
deriving DecidableEq, Repr, Inhabited

namespace Route

instance : Json.Variants Route where
  all := [primary, docStore]
  name
    | primary => "Primary"
    | docStore => "DocStore"

def symbol : Route → String
  | primary => "primary"
  | docStore => "doc_store"

end Route

inductive OrderDirection
  | asc
  | desc
deriving DecidableEq, Repr

namespace OrderDirection

instance : Json.Variants OrderDirection where
  all := [asc, desc]
  name
    | asc => "Asc"
    | desc => "Desc"

def symbol : OrderDirection → String
  | asc => "asc"
  | desc => "desc"

end OrderDirection

structure OrderTerm where
  path : String
  direction : OrderDirection
deriving DecidableEq, Repr

def OrderTerm.print (t : OrderTerm) : String := t.path ++ " " ++ t.direction.symbol

structure QuerySpec where
  entity : String
  predicate : Option Predicate
  order : List OrderTerm
  route : Route
deriving DecidableEq

namespace QuerySpec

def predicateCount (s : QuerySpec) : Nat :=
  match s.predicate with
  | none => 0
  | some p => p.leafCount

def isDocStore (s : QuerySpec) : Bool := s.route = .docStore

def explain (s : QuerySpec) : String :=
  "query " ++ s.entity ++ " route=" ++ s.route.symbol ++
    (match s.predicate with
      | none => ""
      | some p => " where " ++ p.print) ++
    (match s.order with
      | [] => ""
      | terms => " order by " ++ ", ".intercalate (terms.map OrderTerm.print))

end QuerySpec

end Criteria
