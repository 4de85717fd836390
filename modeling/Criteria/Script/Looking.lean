import Criteria.Script.Asking

/-! # Looking

Of all that can be done with a query, only a request reaches its accumulator. The rest looks at it,
or traces it from then on. What a sink does to a request is told apart: it is settled, or broken off
once it is noticed.
-/

namespace Criteria

namespace Effect

variable {σ α β : Type}

/-- Whatever comes of the effect, the state stays as it is, and a calm scene stays calm. -/
def Looks (x : Effect σ α) : Prop :=
  ∀ s, (outcome x s).2.state = s.state ∧ (s.Calm → (outcome x s).2.Calm)

namespace Looks

protected theorem pure (a : α) : Looks (pure a : Effect σ α) := fun _ => ⟨rfl, id⟩

protected theorem get : Looks (get : Effect σ (Scene σ)) := fun _ => ⟨rfl, id⟩

theorem getState : Looks (getState : Effect σ σ) := fun _ => ⟨rfl, id⟩

theorem resetReport : Looks (resetReport : Effect σ Unit) := fun _ => ⟨rfl, id⟩

theorem ofExcept (x : Except Fault α) : Looks (MonadExcept.ofExcept x : Effect σ α) := by
  cases x with
  | error f => exact fun _ => ⟨rfl, id⟩
  | ok a => exact .pure a

protected theorem bind {x : Effect σ α} {k : α → Effect σ β} (hx : Looks x)
    (hk : ∀ a, Looks (k a)) : Looks (x >>= k) := by
  intro s
  obtain ⟨hst, hc⟩ := hx s
  rw [outcome_bind]
  rcases h : outcome x s with ⟨f | a, t⟩ <;> rw [h] at hst hc
  · exact ⟨hst, hc⟩
  · obtain ⟨hst', hc'⟩ := hk a t
    exact ⟨hst'.trans hst, fun h => hc' (hc h)⟩

theorem attempt {x : Effect σ α} (hx : Looks x) : Looks (attempt x) := by
  intro s
  rw [outcome_attempt]
  exact hx s

theorem emit (e : Event) : Looks (emit e : Effect σ Unit) := by
  intro s
  obtain ⟨t, ht, hh, hi, hst⟩ := outcome_emit s e
  have hs : s.Sends t [e] := ⟨hh, hi⟩
  rw [ht]
  exact ⟨hst, hs.calm⟩

end Looks

end Effect

namespace Script

open Effect

variable {α : Type} [TextValue α]

theorem looks_announce {σ : Type} (metrics : Bool) (c : Call) :
    Looks (announce metrics c : Effect σ Unit) := by
  unfold announce
  cases c.event? with
  | none => exact .pure ()
  | some e =>
    cases metrics with
    | false => exact .pure ()
    | true => exact .emit e

theorem looks_askAll {σ : Type} (metrics : Bool) (a : Accumulator)
    (rs : List (Except ReadError Request)) : Looks (askAll metrics a rs : Effect σ _) := by
  induction rs generalizing a with
  | nil => exact .pure _
  | cons r rs ih =>
    cases r with
    | error e => exact .pure _
    | ok r => exact .bind (looks_announce metrics r.lower) fun _ => ih _

theorem looks_build (q : Query) : Looks (build q) := by
  unfold build
  cases q.config.metrics with
  | false => exact .pure _
  | true => exact .bind (.emit q.buildEvent) fun _ => .pure _

theorem looks_ofQuery (i : Nat) (f : Query → Result) : Looks (ofQuery i f) := by
  refine .bind .getState fun roots => ?_
  cases roots.query? i <;> exact .pure _

/-- The request of an act. A property that could not be made asks for nothing. -/
def Act.request? : Act α → Option Request
  | operate (.ok p) op => some (p.request op)
  | ask r => some r
  | _ => none

theorem looks_perform (i : Nat) {act : Act α} (hr : act.request? = none)
    (hd : act ≠ .enableDebug) : Looks (perform i act) := by
  cases act with
  | operate p op =>
    cases p with
    | error f => exact fun _ => ⟨rfl, id⟩
    | ok p => cases hr
  | ask r => cases hr
  | enableDebug => exact absurd rfl hd
  | showPath p => exact .bind (.ofExcept p) fun _ => .pure _
  | dumpProperty p => exact .bind (.ofExcept p) fun _ => .pure _
  | unreadable e => exact .pure _
  | build =>
    refine .bind .getState fun roots => ?_
    cases roots.query? i with
    | none => exact .pure _
    | some q =>
      refine .bind (.attempt (looks_build q)) fun r => ?_
      cases r <;> exact .pure _
  | report => exact .bind .get fun _ => .pure _
  | reset => exact .bind .resetReport fun _ => .pure _
  | standAlone requests limit =>
    refine .bind (looks_askAll true {} requests) fun r => ?_
    cases r <;> exact .pure _
  | finish limit => exact looks_ofQuery i _
  | snapshot => exact looks_ofQuery i _
  | showConfig => exact looks_ofQuery i _
  | dumpQuery => exact looks_ofQuery i _
  | dumpAccumulator => exact looks_ofQuery i _

section build

variable (α) {s t : Scene Pool} {i : Nat} {q : Query}

theorem outcome_perform_build_of_ok (hq : s.state.query? i = some q) {r : Result}
    (h : outcome (build q) s = (.ok r, t)) :
    outcome (perform i (.build : Act α)) s = (.ok r, t) := by
  simp only [perform, outcome_bind, outcome_getState, hq, outcome_attempt, h, outcome_pure]

theorem outcome_perform_build_of_error (hq : s.state.query? i = some q) {f : Fault}
    (h : outcome (build q) s = (.error f, t)) :
    outcome (perform i (.build : Act α)) s = (.ok (.buildFault f), t) := by
  simp only [perform, outcome_bind, outcome_getState, hq, outcome_attempt, h, outcome_pure]

end build

/-! ## Requests made -/

def requests (acts : List (Act α)) : List Request := acts.filterMap Act.request?

def Result.isFault : Result → Bool
  | fault _ => true
  | _ => false

def Result.ofOutcome : Except Fault Result → Result
  | .ok r => r
  | .error f => fault f

theorem outcome_runStep_single {s t : Scene Pool} {i : Nat} {act : Act α} {x : Except Fault Result}
    (h : outcome (perform i act) s = (x, t)) :
    outcome (runStep false (.single i act)) s =
      (.ok (Result.ofOutcome x, t.state.status i), t) := by
  have hattempt : outcome (attempt (perform i act)) s = (.ok x, t) := by
    rw [outcome_attempt, h]
  simp only [runStep, Bool.false_eq_true, if_false, outcome_bind, hattempt]
  cases x <;> rfl

theorem outcome_runStep_of_ok {s t : Scene Pool} {i : Nat} {act : Act α} {r : Result}
    (h : outcome (perform i act) s = (.ok r, t)) :
    outcome (runStep false (.single i act)) s = (.ok (r, t.state.status i), t) :=
  outcome_runStep_single h

theorem outcome_runSteps_cons {s t u : Scene Pool} {unwinding : Bool} {step : Step α}
    {steps : List (Step α)} {answer : Answer} {answers : List Answer}
    (hstep : outcome (runStep unwinding step) s = (.ok answer, t))
    (hsteps : outcome (runSteps unwinding steps) t = (.ok answers, u)) :
    outcome (runSteps unwinding (step :: steps)) s = (.ok (answer :: answers), u) := by
  rw [runSteps, outcome_bind_of_ok s hstep, outcome_bind_of_ok t hsteps]
  rfl

/-- A request that was made of a query. It is not settled where a sink broke it off. -/
structure Made where
  request : Request
  settled : Bool
deriving DecidableEq

def Made.on (a : Accumulator) (m : Made) : Accumulator := a.attempt ⟨m.request.lower, m.settled⟩

def made (acts : List (Act α)) (answers : List Answer) : List Made :=
  (acts.zip answers).filterMap fun d => d.1.request?.map (⟨·, !d.2.1.isFault⟩)

end Script

/-! ## Twins -/

namespace Query

open Script

/-- Queries that differ at most in what they trace and report. -/
structure Twin (q q' : Query) : Prop where
  entity : q'.entity = q.entity
  maxPredicates : q'.config.maxPredicates = q.config.maxPredicates
  accumulator : q'.accumulator = q.accumulator

def after (q : Query) (ms : List Made) : Query :=
  { q with accumulator := ms.foldl Made.on q.accumulator }

namespace Twin

variable {q q' q'' : Query}

theorem refl (q : Query) : q.Twin q := ⟨rfl, rfl, rfl⟩

theorem symm (h : q.Twin q') : q'.Twin q :=
  ⟨h.entity.symm, h.maxPredicates.symm, h.accumulator.symm⟩

theorem trans (h : q.Twin q') (h' : q'.Twin q'') : q.Twin q'' :=
  ⟨h'.entity.trans h.entity, h'.maxPredicates.trans h.maxPredicates,
    h'.accumulator.trans h.accumulator⟩

theorem enableDebug (q : Query) : q.Twin q.enableDebug := ⟨rfl, rfl, rfl⟩

theorem after (h : q.Twin q') (ms : List Made) : (q.after ms).Twin (q'.after ms) :=
  ⟨h.entity, h.maxPredicates, congrArg (ms.foldl Made.on) h.accumulator⟩

theorem build_eq (h : q.Twin q') : q'.build = q.build := by
  rw [build, build, h.entity, h.maxPredicates, h.accumulator]

end Twin

end Query

end Criteria
