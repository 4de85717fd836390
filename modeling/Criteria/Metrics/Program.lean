import Criteria.Metrics.Log

/-! # Programs of events

The ways in which events, scopes and faults can be nested and sequenced, with `n` sinks at hand. A
program can be run, with the one sink installed changed and put back by each scope. It can also be
read: then the innermost scope is handed down, so there is nothing to put back.
-/

namespace Criteria

inductive Program (n : Nat)
  | emit (e : Event)
  | raise (f : Fault)
  /-- Runs its body with the sink at a place. The same sink may be taken again. -/
  | scope (place : Fin n) (body : List (Program n))
  /-- Runs its body and goes on where it faults. -/
  | guarded (body : List (Program n))

namespace Program

variable {n : Nat} {σ : Type}

mutual

def run : Program n → Effect σ Unit
  | emit e => Effect.emit e
  | raise f => throw f
  | scope place body => Effect.within place (runAll body)
  | guarded body => do
    let _ ← Effect.attempt (runAll body)

def runAll : List (Program n) → Effect σ Unit
  | [] => return ()
  | p :: ps => do
    run p
    runAll ps

end

mutual

/-- Adds the events that are reached to a log. Every event is for the innermost scope around it, or
for `target` where there is none. Which sinks break off, and on which event, is up to `breaks`. -/
def read (breaks : Option Nat → Nat → Bool) (target : Option Nat) (log : Log) :
    Program n → Except Fault Unit × Log
  | emit e =>
    let log := log ++ [⟨target, e⟩]
    (if breaks target (log.events target).length then .error .sinkFailed else .ok (), log)
  | raise f => (.error f, log)
  | scope place body => readAll breaks (some place) log body
  | guarded body => (.ok (), (readAll breaks target log body).2)

def readAll (breaks : Option Nat → Nat → Bool) (target : Option Nat) (log : Log) :
    List (Program n) → Except Fault Unit × Log
  | [] => (.ok (), log)
  | p :: ps =>
    match read breaks target log p with
    | (.ok (), log) => readAll breaks target log ps
    | (.error f, log) => (.error f, log)

end

mutual

/-- While a program runs from the scene `s`, its part `q` is started in the scene `u`. The innermost
scope around the part is `inner`, where that around the whole program is `target`. -/
inductive Starts : (target : Option Nat) → Program n → (s : Scene σ) →
    (inner : Option Nat) → (q : Program n) → (u : Scene σ) → Prop
  | self {target p s} : Starts target p s target p s
  | scope {target body s inner q u} {place : Fin n} :
      StartsAll (some place) body { s with installed := some place } inner q u →
      Starts target (scope place body) s inner q u
  | guarded {target body s inner q u} :
      StartsAll target body s inner q u → Starts target (guarded body) s inner q u

inductive StartsAll : (target : Option Nat) → List (Program n) → (s : Scene σ) →
    (inner : Option Nat) → (q : Program n) → (u : Scene σ) → Prop
  | head {target p ps s inner q u} :
      Starts target p s inner q u → StartsAll target (p :: ps) s inner q u
  | tail {target p ps s t inner q u} : Effect.outcome (run p) s = (.ok (), t) →
      StartsAll target ps t inner q u → StartsAll target (p :: ps) s inner q u

end

end Program

end Criteria
