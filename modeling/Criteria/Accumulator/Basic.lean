import Criteria.Metrics.Event

/-! # The accumulator

A query is accumulated call by call. Every open junction has a frame with the nodes it holds so far;
the root frame is a conjunction and is never closed. A junction that is closed becomes one node of
the frame around it, or nothing when it is empty. An end with no open junction is only counted.
-/

namespace Criteria

inductive Call
  | append (p : Predicate)
  | orderBy (t : OrderTerm)
  | startJunction (kind : JunctionKind)
  | endJunction
deriving DecidableEq

namespace Call

/-! The junction methods of a query. Each is one call. -/

protected def or : Call := startJunction .or

protected def and : Call := startJunction .and

protected def not : Call := startJunction .not

def close : Call := endJunction

def opening : JunctionKind → Call
  | .or => Call.or
  | .and => Call.and
  | .not => Call.not

@[simp] theorem opening_eq (kind : JunctionKind) : opening kind = startJunction kind := by
  cases kind <;> rfl

@[simp] theorem close_eq : close = endJunction := rfl

end Call

/-- The event of a call. A junction appended as a whole has none. -/
def Call.event? : Call → Option Event
  | .append (.leaf l) => some (.predicateAppended l.kind)
  | .append (.junction ..) => none
  | .orderBy _ => none
  | .startJunction kind => some (.junctionOpened kind)
  | .endJunction => none

/-- A junction that is still open, with its nodes in call order. -/
structure Frame where
  kind : JunctionKind
  nodes : List Predicate := []
deriving DecidableEq

namespace Frame

def push (f : Frame) (p : Predicate) : Frame := { f with nodes := f.nodes ++ [p] }

def close (f : Frame) : Option Predicate :=
  if f.nodes.isEmpty then none else some (.junction f.kind f.nodes)

end Frame

structure Accumulator where
  /-- The innermost frame. -/
  current : Frame := ⟨.and, []⟩
  /-- The frames around it, innermost first. The last of all frames is the root. -/
  enclosing : List Frame := []
  order : List OrderTerm := []
  route : Route := .primary
  /-- Ends that had no junction to close. -/
  strayEnds : Nat := 0
deriving DecidableEq

namespace Accumulator

def push (a : Accumulator) (p : Predicate) : Accumulator := { a with current := a.current.push p }

/-! ## Calls

A call is noticed, then announced to whoever counts, and only then settled. -/

/-- A full-text search decides the route for good. -/
def notice (a : Accumulator) : Call → Accumulator
  | .append p => if p.containsMatch then { a with route := .docStore } else a
  | .orderBy _ | .startJunction _ | .endJunction => a

def settle (a : Accumulator) : Call → Accumulator
  | .append p => a.push p
  | .orderBy t => { a with order := a.order ++ [t] }
  | .startJunction kind => { a with current := ⟨kind, []⟩, enclosing := a.current :: a.enclosing }
  | .endJunction =>
    match a.enclosing with
    | [] => { a with strayEnds := a.strayEnds + 1 }
    | outer :: rest =>
      match a.current.close with
      | none => { a with current := outer, enclosing := rest }
      | some p => { a with current := outer.push p, enclosing := rest }

def apply (a : Accumulator) (c : Call) : Accumulator := (a.notice c).settle c

def run (a : Accumulator) (cs : List Call) : Accumulator := cs.foldl apply a

def ofCalls (cs : List Call) : Accumulator := run {} cs

end Accumulator

/-! ## Attempts

Whoever is told of a call may break it off. Then it is noticed, and never settled.
-/

structure Attempt where
  call : Call
  settled : Bool
deriving DecidableEq

namespace Attempt

def settledCalls (ts : List Attempt) : List Call := (ts.filter settled).map call

def brokenOff (ts : List Attempt) : List Call := (ts.filter (!·.settled)).map call

end Attempt

namespace Accumulator

def attempt (a : Accumulator) (t : Attempt) : Accumulator :=
  if t.settled then a.apply t.call else a.notice t.call

def attempts (a : Accumulator) (ts : List Attempt) : Accumulator := ts.foldl attempt a

def ofAttempts (ts : List Attempt) : Accumulator := attempts {} ts

/-! ## Views -/

/-- All frames, the root first. -/
def frames (a : Accumulator) : List Frame := (a.current :: a.enclosing).reverse

def nodes (a : Accumulator) : List Predicate := a.frames.flatMap Frame.nodes

def leaves (a : Accumulator) : List Leaf := Predicate.leavesAll a.nodes

/-- The number of leaves appended so far, those in open junctions included. -/
def size (a : Accumulator) : Nat := Predicate.leafCountAll a.nodes

def isEmpty (a : Accumulator) : Bool := a.size = 0

def depth (a : Accumulator) : Nat := a.enclosing.length

def rootFrame (a : Accumulator) : Frame := a.enclosing.getLastD a.current

def predicates (a : Accumulator) : List Predicate := a.rootFrame.nodes

end Accumulator

/-! ## Finishing

An accumulator is finished when its junctions are balanced and its leaves are within the limit.
Of several reasons to refuse, a stray end comes before an open junction, and that before the limit.
-/

inductive QueryError
  | unclosedJunction (depth : Nat)
  | unbalancedJunction
  | tooManyPredicates (limit count : Nat)
deriving DecidableEq, Repr

def QueryError.message : QueryError → String
  | .unclosedJunction depth =>
    String.join [toString depth, " junction(s) left open; call end_junction() before building"]
  | .unbalancedJunction => "end_junction() called with no open junction"
  | .tooManyPredicates limit count =>
    String.join ["query has ", toString count, " predicates; configured limit is ", toString limit]

structure Finished where
  predicate : Option Predicate
  order : List OrderTerm
  route : Route
  count : Nat
deriving DecidableEq

/-- The conjunction of the root nodes, with no junction around a single one. -/
def conjoin : List Predicate → Option Predicate
  | [] => none
  | [p] => some p
  | ps => some (.junction .and ps)

def exceeds (count : Nat) : (limit : Option Nat) → Bool
  | none => false
  | some limit => limit < count

/-- The accumulator is left as it is, so it may be finished again. -/
def Accumulator.finish (a : Accumulator) (limit : Option Nat) : Except QueryError Finished :=
  if 0 < a.strayEnds then .error .unbalancedJunction
  else if 0 < a.depth then .error (.unclosedJunction a.depth)
  else if exceeds a.size limit then .error (.tooManyPredicates (limit.getD 0) a.size)
  else .ok { predicate := conjoin a.predicates, order := a.order, route := a.route, count := a.size }

end Criteria
