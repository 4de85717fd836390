import Criteria.Script.Step

/-! # Running scripts

A call on a query is noticed, then its event is emitted, then it is settled: where the sink breaks
off, the call is noticed and no more. A step that faults has the fault as its result, and the script
goes on with the next one.
-/

namespace Criteria.Script

open Effect

variable {α : Type}

namespace Pool

def modifyQuery (i : Nat) (f : Query → Query) (roots : Pool) : Pool :=
  roots.modify i fun
    | .query q => .query (f q)
    | .recorder r => .recorder r

def query? (roots : Pool) (i : Nat) : Option Query :=
  match roots[i]? with
  | some (.query q) => some q
  | _ => none

end Pool

def announce {σ : Type} (metrics : Bool) (c : Call) : Effect σ Unit :=
  match c.event? with
  | some e => if metrics then emit e else return ()
  | none => return ()

/-- Makes requests of an accumulator outside the scene, up to the first that could not be read. -/
def askAll {σ : Type} (metrics : Bool) (a : Accumulator) :
    List (Except ReadError Request) → Effect σ (Except ReadError Accumulator)
  | [] => return .ok a
  | .error e :: _ => return .error e
  | .ok r :: rest => do
    let c := r.lower
    let noticed := a.notice c
    announce metrics c
    askAll metrics (noticed.settle c) rest

def call (i : Nat) (metrics : Bool) (c : Call) : Effect Pool Unit := do
  modifyState (Pool.modifyQuery i fun q => { q with accumulator := q.accumulator.notice c })
  announce metrics c
  modifyState (Pool.modifyQuery i fun q => { q with accumulator := q.accumulator.settle c })

def ask (i : Nat) (r : Request) : Effect Pool Unit := do
  match (← getState)[i]? with
  | some (.query q) => call i q.reports r.lower
  | some (.recorder _) =>
    modifyState (List.modify · i fun
      | .recorder rec => .recorder (rec.receive r)
      | .query q => .query q)
  | none => return ()

/-- Builds a query: the event comes first, then the trace. -/
def build (q : Query) : Effect Pool Result := do
  if q.config.metrics then emit q.buildEvent
  return .built q.build q.trace?

def ofQuery (i : Nat) (f : Query → Result) : Effect Pool Result := do
  match (← getState).query? i with
  | some q => return f q
  | none => return .nothing

def perform [TextValue α] (i : Nat) : Act α → Effect Pool Result
  | .operate p op => do
    let p ← MonadExcept.ofExcept p
    ask i (p.request op)
    return .nothing
  | .showPath p => return .path (← MonadExcept.ofExcept p).path
  | .dumpProperty p => return .text (← MonadExcept.ofExcept p).dump
  | .ask r => do
    ask i r
    return .nothing
  | .unreadable e => return .unreadable e
  | .enableDebug => do
    modifyState (Pool.modifyQuery i Query.enableDebug)
    return .nothing
  | .build => do
    match (← getState).query? i with
    | some q =>
      match ← attempt (build q) with
      | .ok r => return r
      | .error f => return .buildFault f
    | none => return .nothing
  | .finish limit => ofQuery i fun q => .finished (q.accumulator.finish limit)
  | .snapshot => ofQuery i fun q => .snapshot q.accumulator.predicates q.accumulator.order
  | .showConfig => ofQuery i fun q => .config q.config
  | .dumpQuery => ofQuery i fun q => .text q.dump
  | .dumpAccumulator => ofQuery i fun q => .text (q.accumulator.dump q.reports)
  | .report => return .report (← get).report
  | .reset => do
    resetReport
    return .nothing
  | .standAlone requests limit => do
    match ← askAll true {} requests with
    | .ok a => return .standAlone (accumulatorStatus a) a.predicates (a.finish limit)
    | .error e => return .unreadable e

/-- Runs a body again and again. The result is that of the last step of all. -/
def iterate (body : Effect Pool (List Answer)) : (times : Nat) → Result → Effect Pool Result
  | 0, last => return last
  | times + 1, last => do
    let answers ← body
    iterate body times ((answers.getLast?.map (·.1)).getD last)

def note (watched : Option Nat) (d : Delivery Pool) : Note :=
  { event := d.event, status := watched.map d.state.status }

mutual

/-- Runs a step of a body. The fault of a single act is its result, or breaks off the body when that
is `unwinding`. -/
def runStep [TextValue α] (unwinding : Bool) : Step α → Effect Pool Answer
  | .single i act => do
    let r ←
      if unwinding then perform i act
      else
        match ← attempt (perform i act) with
        | .ok r => pure r
        | .error f => pure (.fault f)
    return (r, (← getState).status i)
  | .repeated i times body => do
    let r ← iterate (runSteps false body) times .nothing
    return (r, (← getState).status i)
  | .scoped i watched failsAt unwindingBody body => do
    let place := (← get).sinks.length
    let outcome ← attempt (withSink { failsAt } (runSteps unwindingBody body))
    let notes := (← received place).map (note watched)
    let r : Result :=
      match outcome with
      | .ok answers => .scoped answers notes
      | .error f => .broken f notes
    return (r, (← getState).status i)

def runSteps [TextValue α] (unwinding : Bool) : List (Step α) → Effect Pool (List Answer)
  | [] => return []
  | s :: rest => do
    let answer ← runStep unwinding s
    let answers ← runSteps unwinding rest
    return answer :: answers

end

def run [TextValue α] (roots : Pool) (steps : List (Step α)) : List Answer :=
  match (runSteps false steps).run { state := roots } with
  | (.ok answers, _) => answers
  | (.error _, _) => []

end Criteria.Script
