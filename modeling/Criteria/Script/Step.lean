import Criteria.Metrics.Scope
import Criteria.Query.Dump

/-! # Scripts

A script is a list of steps on numbered roots, each a query or a recorder. Every step has a result,
and is answered by it together with the status of its root.
-/

namespace Criteria.Script

inductive Root
  | query (q : Query)
  | recorder (r : Recorder)

inductive Status
  | query (size depth nodes order : Nat) (isEmpty : Bool) (route : Route)
  | recorder (requests : Nat) (last : Option Request)

def accumulatorStatus (a : Accumulator) : Status :=
  .query a.size a.depth a.predicates.length a.order.length a.isEmpty a.route

def Root.status : Root → Status
  | .query q => accumulatorStatus q.accumulator
  | .recorder r => .recorder r.requests.length r.requests.getLast?

abbrev Pool := List Root

def Pool.status (roots : Pool) (i : Nat) : Option Status := (roots[i]?).map Root.status

inductive Act (α : Type)
  /-- A property is made, with a fault where it is malformed, and asked for an operation. -/
  | operate (p : Except Fault Property) (op : Operation α)
  | showPath (p : Except Fault Property)
  | dumpProperty (p : Except Fault Property)
  | ask (r : Request)
  /-- A request that could not be read. -/
  | unreadable (e : ReadError)
  | enableDebug
  | build
  | finish (limit : Option Nat)
  | snapshot
  | showConfig
  | dumpQuery
  | dumpAccumulator
  | report
  | reset
  /-- An accumulator of its own, finished after its requests. -/
  | standAlone (requests : List (Except ReadError Request)) (limit : Option Nat)

inductive Step (α : Type)
  | single (root : Nat) (act : Act α)
  /-- Runs its body again and again. A fault ends the step of the body that has it. -/
  | repeated (root : Nat) (times : Nat) (body : List (Step α))
  /-- Runs its body with a sink. Each event received is noted with the status of the root
  `watched`. A fault ends the step of the body that has it, or the whole body when that is
  `unwinding`. -/
  | scoped (root : Nat) (watched failsAt : Option Nat) (unwinding : Bool) (body : List (Step α))

/-- An event as a sink noted it. -/
structure Note where
  event : Event
  /-- The status of the watched root, if one is watched and there is one. -/
  status : Option (Option Status)

inductive Result
  | nothing
  | fault (f : Fault)
  | unreadable (e : ReadError)
  | path (p : PropertyPath)
  | text (s : String)
  | built (outcome : Except QueryError QuerySpec) (trace : Option String)
  | buildFault (f : Fault)
  | finished (outcome : Except QueryError Finished)
  | snapshot (predicates : List Predicate) (order : List OrderTerm)
  | config (c : Config)
  | report (r : Report)
  | standAlone (status : Status) (predicates : List Predicate) (outcome : Except QueryError Finished)
  | scoped (answers : List (Result × Option Status)) (notes : List Note)
  | broken (f : Fault) (notes : List Note)

abbrev Answer := Result × Option Status

end Criteria.Script
