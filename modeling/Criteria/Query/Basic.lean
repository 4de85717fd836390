import Criteria.Accumulator.Basic
import Criteria.Config.Basic

/-! # Queries

A query under construction: an accumulator for one entity, with its configuration. Building takes a
snapshot and leaves the query as it is.
-/

namespace Criteria

def version : String := "0.1.0"

structure Query where
  entity : String
  config : Config
  accumulator : Accumulator
  /-- Whether a build is traced. -/
  debug : Bool
  /-- Whether calls are reported. The accumulator has this from the configuration once and for all. -/
  reports : Bool
  reports_eq : reports = config.metrics
deriving DecidableEq

namespace Query

def new (entity : String) (config : Config) : Query :=
  { entity, config, accumulator := {}, debug := config.debug, reports := config.metrics,
    reports_eq := rfl }

/-- Traces every build from now on. The configuration stays as it was given. -/
def enableDebug (q : Query) : Query := { q with debug := true }

def apply (q : Query) (c : Call) : Query := { q with accumulator := q.accumulator.apply c }

def build (q : Query) : Except QueryError QuerySpec := do
  let done ← q.accumulator.finish q.config.maxPredicates
  return {
    entity := q.entity, predicate := done.predicate, order := done.order, route := done.route }

def buildEvent (q : Query) : Event :=
  match q.accumulator.finish q.config.maxPredicates with
  | .ok done => .queryBuilt q.entity done.count done.route
  | .error _ => .buildFailed q.entity

def explain (q : Query) : String :=
  match q.build with
  | .ok spec => spec.explain
  | .error e => "query " ++ q.entity ++ " rejected: " ++ e.message

def trace? (q : Query) : Option String :=
  if q.debug then some ("[debug] " ++ q.explain ++ "\n") else none

end Query

end Criteria
