import Criteria.Path.Basic
import Criteria.Metrics.Event

/-! # Where events go

Events are counted in the totals, unless a sink is installed: then the sink alone receives them, for
the extent of a scope. A scope puts back the sink it found, however it is left. What is done may
break off with a fault; the state at that point stays.
-/

namespace Criteria

/-- What a sink received, with the state of what sent it at that moment. -/
structure Delivery (σ : Type) where
  event : Event
  state : σ

/-- A sink keeps what it receives. It may break off after an event of a given number, from one. -/
structure Sink (σ : Type) where
  failsAt : Option Nat := none
  received : List (Delivery σ) := []

namespace Sink

variable {σ : Type}

def receive (s : Sink σ) (d : Delivery σ) : Sink σ := { s with received := s.received ++ [d] }

def breaksOff (s : Sink σ) : Bool := s.failsAt = some s.received.length

end Sink

/-- A state `σ` with what its events have come to. -/
structure Scene (σ : Type) where
  state : σ
  report : Report := {}
  /-- All sinks there have been. -/
  sinks : List (Sink σ) := []
  /-- The sink that receives the events, by its place among all. -/
  installed : Option Nat := none

/-- What is done in a scene. A fault breaks it off and leaves the scene as it is then. -/
abbrev Effect (σ : Type) (α : Type) := ExceptT Fault (StateM (Scene σ)) α

namespace Effect

variable {σ α : Type}

def getState : Effect σ σ := return (← get).state

def modifyState (f : σ → σ) : Effect σ Unit := modify fun s => { s with state := f s.state }

def emit (e : Event) : Effect σ Unit := do
  let s ← get
  match s.installed with
  | none => set { s with report := s.report.tally e }
  | some i =>
    match s.sinks[i]? with
    | none => return ()
    | some sink =>
      let sink := sink.receive ⟨e, s.state⟩
      set { s with sinks := s.sinks.set i sink }
      if sink.breaksOff then throw .sinkFailed

def attempt (body : Effect σ α) : Effect σ (Except Fault α) :=
  tryCatch (.ok <$> body) (fun e => return .error e)

/-- Runs the body with the sink at a place installed. However the body ends, the sink installed before
is put back, and the body's end is that of the scope. -/
def within (place : Nat) (body : Effect σ α) : Effect σ α := do
  let before := (← get).installed
  modify fun s => { s with installed := some place }
  let outcome ← attempt body
  modify fun s => { s with installed := before }
  match outcome with
  | .ok a => return a
  | .error e => throw e

def withSink (sink : Sink σ) (body : Effect σ α) : Effect σ α := do
  let place := (← get).sinks.length
  modify fun s => { s with sinks := s.sinks ++ [sink] }
  within place body

def received (place : Nat) : Effect σ (List (Delivery σ)) := do
  return (((← get).sinks[place]?).map Sink.received).getD []

def resetReport : Effect σ Unit := modify fun s => { s with report := {} }

/-! ## Outcomes -/

def outcome (x : Effect σ α) (s : Scene σ) : Except Fault α × Scene σ := StateT.run x.run s

section outcome

variable {β : Type} (s : Scene σ)

@[simp] theorem outcome_pure (a : α) : outcome (pure a) s = (.ok a, s) := rfl

@[simp] theorem outcome_get : outcome (get : Effect σ (Scene σ)) s = (.ok s, s) := rfl

@[simp] theorem outcome_set (t : Scene σ) : outcome (set t : Effect σ PUnit) s = (.ok ⟨⟩, t) := rfl

@[simp] theorem outcome_modify (f : Scene σ → Scene σ) :
    outcome (modify f : Effect σ PUnit) s = (.ok ⟨⟩, f s) := rfl

@[simp] theorem outcome_getState : outcome getState s = (.ok s.state, s) := rfl

@[simp] theorem outcome_modifyState (f : σ → σ) :
    outcome (modifyState f) s = (.ok (), { s with state := f s.state }) := rfl

theorem outcome_bind (x : Effect σ α) (k : α → Effect σ β) :
    outcome (x >>= k) s =
      match outcome x s with
      | (.ok a, t) => outcome (k a) t
      | (.error f, t) => (.error f, t) := by
  simp only [outcome, ExceptT.run_bind, StateT.run_bind]
  rcases StateT.run x.run s with ⟨a | f, t⟩ <;> rfl

theorem outcome_bind_of_ok {x : Effect σ α} {a : α} {t : Scene σ} (h : outcome x s = (.ok a, t))
    (k : α → Effect σ β) : outcome (x >>= k) s = outcome (k a) t := by
  rw [outcome_bind, h]

theorem outcome_bind_of_error {x : Effect σ α} {f : Fault} {t : Scene σ}
    (h : outcome x s = (.error f, t)) (k : α → Effect σ β) :
    outcome (x >>= k) s = (.error f, t) := by
  rw [outcome_bind, h]

theorem outcome_attempt (x : Effect σ α) :
    outcome (attempt x) s = (.ok (outcome x s).1, (outcome x s).2) := by
  simp only [attempt, outcome, ExceptT.run, tryCatch, tryCatchThe, MonadExceptOf.tryCatch,
    ExceptT.tryCatch, ExceptT.mk, Functor.map, ExceptT.map, StateT.run, bind, StateT.bind]
  rcases x s with ⟨a | f, t⟩ <;> rfl

theorem outcome_emit_of_none (e : Event) (h : s.installed = none) :
    outcome (emit e) s = (.ok (), { s with report := s.report.tally e }) := by
  simp [emit, outcome_bind, h]

theorem outcome_within (place : Nat) (body : Effect σ α) :
    outcome (within place body) s =
      let inner := outcome body { s with installed := some place }
      (inner.1, { inner.2 with installed := s.installed }) := by
  simp only [within, outcome_bind, outcome_get, outcome_modify, outcome_attempt]
  cases (outcome body { s with installed := some place }).1 <;> rfl

end outcome

end Effect

end Criteria
