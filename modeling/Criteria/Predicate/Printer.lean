import Criteria.Predicate.Basic

/-! # Printed predicates

One line for a predicate: the path as it is, the operator, and the values quoted. A junction is a
bracket with its nodes, `not` in front of it for a negation.
-/

namespace Criteria

def Leaf.print : Leaf → String
  | .compare c =>
    c.path ++ " " ++ c.op.symbol ++ (if c.casing.isInsensitive then "_ci" else "") ++ " " ++
      Text.quote c.value
  | .textMatch path value => path ++ " match " ++ Text.quote value
  | .isNull path => path ++ " is_null"
  | .isNotNull path => path ++ " is_not_null"
  | .inList path values => path ++ " in " ++ Text.quoteList values

namespace JunctionKind

/-- What stands between the nodes: a negation is that of a conjunction. -/
def separator : JunctionKind → String
  | and => " and "
  | or => " or "
  | not => " and "

def opening : JunctionKind → String
  | and => ""
  | or => ""
  | not => "not "

end JunctionKind

namespace Predicate

mutual

def print : Predicate → String
  | leaf l => l.print
  | junction kind nodes => kind.opening ++ "(" ++ printAll kind.separator nodes ++ ")"

def printAll (separator : String) : List Predicate → String
  | [] => ""
  | p :: ps => print p ++ printRest separator ps

def printRest (separator : String) : List Predicate → String
  | [] => ""
  | p :: ps => separator ++ print p ++ printRest separator ps

end

instance : ToString Predicate := ⟨print⟩

end Predicate

end Criteria
