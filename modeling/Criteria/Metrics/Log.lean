import Criteria.Metrics.Scope

/-! # Logs

A log lists events in the order in which they are sent, each with the one sink that it is for.
Between two scenes a log is heard if every sink has received just the events for it, and the totals
count the others. Scenes are alike if all was heard alike in them, whatever their states.
-/

namespace Criteria

/-- An event with the place of the sink that it is for. Without one it is for the totals. -/
structure Dispatch where
  target : Option Nat
  event : Event
deriving DecidableEq

abbrev Log := List Dispatch

namespace Log

def events (target : Option Nat) (log : Log) : List Event :=
  (log.filter (·.target = target)).map Dispatch.event

def of (target : Option Nat) (es : List Event) : Log := es.map (⟨target, ·⟩)

def Placed (n : Nat) (log : Log) : Prop := ∀ d ∈ log, ∀ i ∈ d.target, i < n

theorem events_append (target : Option Nat) (log log' : Log) :
    events target (log ++ log') = events target log ++ events target log' := by
  simp [events]

theorem events_of (target target' : Option Nat) (es : List Event) :
    events target (of target' es) = if target' = target then es else [] := by
  unfold events of
  split <;> simp_all [List.filter_map, Function.comp_def]

end Log

namespace Sink

variable {σ : Type}

def events (s : Sink σ) : List Event := s.received.map Delivery.event

def summary (s : Sink σ) : Option Nat × List Event := (s.failsAt, s.events)

end Sink

namespace Scene

variable {σ : Type}

/-- Whether the sink at a place breaks off on the last of `count` further events. The totals never
do. -/
def breaksOff (s : Scene σ) (target : Option Nat) (count : Nat) : Bool :=
  match target.bind (s.sinks[·]?) with
  | none => false
  | some sink => sink.failsAt = some (sink.received.length + count)

theorem breaksOff_eq_any (s : Scene σ) (target : Option Nat) (count : Nat) :
    s.breaksOff target count = (target.bind fun i => (s.sinks[i]?).map Sink.summary).any fun k =>
      k.1 = some (k.2.length + count) := by
  unfold breaksOff
  cases target with
  | none => rfl
  | some i => cases hs : s.sinks[i]? <;> simp [hs, Sink.summary, Sink.events]

structure Hears (s t : Scene σ) (log : Log) : Prop where
  report : t.report = (log.events none).foldl Report.tally s.report
  size : t.sinks.length = s.sinks.length
  sink : ∀ i k, s.sinks[i]? = some k → ∃ k', t.sinks[i]? = some k' ∧ k'.failsAt = k.failsAt ∧
    k'.events = k.events ++ log.events (some i)

namespace Hears

theorem refl (s : Scene σ) : Hears s s [] :=
  ⟨rfl, rfl, fun _ k h => ⟨k, h, rfl, (List.append_nil _).symm⟩⟩

theorem trans {s t u : Scene σ} {log log' : Log} (h : Hears s t log) (h' : Hears t u log') :
    Hears s u (log ++ log') := by
  refine ⟨?_, h'.size.trans h.size, fun i k hk => ?_⟩
  · rw [h'.report, h.report, Log.events_append, List.foldl_append]
  · obtain ⟨k₁, h₁, hf₁, he₁⟩ := h.sink i k hk
    obtain ⟨k₂, h₂, hf₂, he₂⟩ := h'.sink i k₁ h₁
    refine ⟨k₂, h₂, hf₂.trans hf₁, ?_⟩
    rw [he₂, he₁, Log.events_append, List.append_assoc]

theorem install {s t : Scene σ} {log : Log} (h : Hears s t log) (target : Option Nat) :
    Hears s { t with installed := target } log := ⟨h.report, h.size, h.sink⟩

theorem summary {s t : Scene σ} {log : Log} (h : Hears s t log) (i : Nat) :
    (t.sinks[i]?).map Sink.summary =
      ((s.sinks[i]?).map Sink.summary).map fun k => (k.1, k.2 ++ log.events (some i)) := by
  cases hs : s.sinks[i]? with
  | none =>
    rw [List.getElem?_eq_none_iff, ← h.size, ← List.getElem?_eq_none_iff] at hs
    simp [hs]
  | some k =>
    obtain ⟨k', ht, hf, he⟩ := h.sink i k hs
    simp [ht, Sink.summary, hf, he]

theorem breaksOff_eq {s t : Scene σ} {log : Log} (h : Hears s t log) (target : Option Nat)
    (count : Nat) :
    t.breaksOff target count = s.breaksOff target ((log.events target).length + count) := by
  cases target with
  | none => rfl
  | some i =>
    simp only [breaksOff_eq_any, Option.bind_some, h.summary]
    cases s.sinks[i]? <;> simp [Nat.add_assoc]

end Hears

end Scene

namespace Effect

variable {σ : Type} (s : Scene σ) (e : Event)

theorem outcome_emit_of_absent {i : Nat} (hi : s.installed = some i) (hk : s.sinks[i]? = none) :
    outcome (emit e) s = (.ok (), s) := by
  simp [emit, outcome_bind, hi, hk]

theorem outcome_emit_of_sink {i : Nat} {k : Sink σ} (hi : s.installed = some i)
    (hk : s.sinks[i]? = some k) :
    outcome (emit e) s =
      (if (k.receive ⟨e, s.state⟩).breaksOff then .error .sinkFailed else .ok (),
        { s with sinks := s.sinks.set i (k.receive ⟨e, s.state⟩) }) := by
  simp only [emit, outcome_bind, outcome_get, hi, hk, outcome_set]
  split <;> rfl

theorem outcome_emit :
    ∃ t, outcome (emit e) s =
        (if s.breaksOff s.installed 1 then .error .sinkFailed else .ok (), t) ∧
      s.Hears t [⟨s.installed, e⟩] ∧ t.installed = s.installed ∧ t.state = s.state := by
  cases hi : s.installed with
  | none =>
    refine ⟨_, outcome_emit_of_none s e hi, ⟨rfl, rfl, fun j k hj => ?_⟩, hi, rfl⟩
    exact ⟨k, hj, rfl, (List.append_nil _).symm⟩
  | some i =>
    cases hk : s.sinks[i]? with
    | none =>
      have hb : s.breaksOff (some i) 1 = false := by simp [Scene.breaksOff, hk]
      refine ⟨s, ?_, ⟨rfl, rfl, fun j k hj => ⟨k, hj, rfl, ?_⟩⟩, hi, rfl⟩
      · rw [outcome_emit_of_absent s e hi hk, hb, if_neg Bool.false_ne_true]
      · have hij : i ≠ j := by
          rintro rfl
          cases hk.symm.trans hj
        simp [Log.events, hij]
    | some k =>
      have hb : s.breaksOff (some i) 1 = (k.receive ⟨e, s.state⟩).breaksOff := by
        simp [Scene.breaksOff, Sink.breaksOff, Sink.receive, hk]
      refine ⟨{ s with sinks := s.sinks.set i (k.receive ⟨e, s.state⟩) },
        by rw [outcome_emit_of_sink s e hi hk, hb], ⟨rfl, by simp, fun j k' hj => ?_⟩, hi, rfl⟩
      by_cases hij : i = j
      · subst hij
        obtain rfl : k = k' := Option.some.inj (hk.symm.trans hj)
        obtain ⟨hlt, -⟩ := List.getElem?_eq_some_iff.mp hk
        exact ⟨_, List.getElem?_set_self hlt, rfl, by simp [Sink.events, Sink.receive, Log.events]⟩
      · exact ⟨k', by rw [List.getElem?_set_ne hij, hj], rfl, by simp [Log.events, hij]⟩

end Effect

/-! ## Alike scenes -/

namespace Scene

variable {σ τ : Type}

structure Alike (s : Scene σ) (s' : Scene τ) : Prop where
  report : s'.report = s.report
  installed : s'.installed = s.installed
  sink : ∀ i : Nat, (s'.sinks[i]?).map Sink.summary = (s.sinks[i]?).map Sink.summary

namespace Alike

variable {s : Scene σ} {s' : Scene τ}

theorem breaksOff_eq (h : Alike s s') (target : Option Nat) (count : Nat) :
    s'.breaksOff target count = s.breaksOff target count := by
  simp only [breaksOff_eq_any, h.sink]

theorem hears (h : Alike s s') {t : Scene σ} {t' : Scene τ} {log : Log} (hs : Hears s t log)
    (hs' : Hears s' t' log) (hi : t'.installed = t.installed) : Alike t t' :=
  ⟨by rw [hs.report, hs'.report, h.report], hi, fun i => by rw [hs.summary, hs'.summary, h.sink]⟩

theorem withState (h : Alike s s') (x : σ) (y : τ) :
    Alike { s with state := x } { s' with state := y } := ⟨h.report, h.installed, h.sink⟩

theorem outcome_emit (h : Alike s s') (e : Event) :
    ∃ x t t', Effect.outcome (Effect.emit e) s = (x, t) ∧
      Effect.outcome (Effect.emit e) s' = (x, t') ∧ Alike t t' ∧ t.state = s.state := by
  obtain ⟨t, ht, hh, hi, hst⟩ := Effect.outcome_emit s e
  obtain ⟨t', ht', hh', hi', -⟩ := Effect.outcome_emit s' e
  rw [h.installed] at ht' hh'
  rw [h.breaksOff_eq] at ht'
  exact ⟨_, t, t', ht, ht', h.hears hh hh' (by rw [hi', hi, h.installed]), hst⟩

end Alike

end Scene

/-! ## Calm scenes -/

namespace Scene

variable {σ : Type}

def Calm (s : Scene σ) : Prop := ∀ i ∈ s.installed, ∀ k, s.sinks[i]? = some k → k.failsAt = none

/-- Between two scenes just these events were sent, all to the installed sink. -/
structure Sends (s t : Scene σ) (es : List Event) : Prop where
  hears : s.Hears t (Log.of s.installed es)
  installed : t.installed = s.installed

theorem Calm.breaksOff {s : Scene σ} (h : s.Calm) (count : Nat) :
    s.breaksOff s.installed count = false := by
  unfold Scene.breaksOff
  cases hi : s.installed with
  | none => rfl
  | some i =>
    cases hk : s.sinks[i]? with
    | none => simp [hk]
    | some k => simp [hk, h i hi k hk]

namespace Sends

theorem refl (s : Scene σ) : Sends s s [] := ⟨.refl s, rfl⟩

theorem trans {s t u : Scene σ} {es es' : List Event} (h : Sends s t es) (h' : Sends t u es') :
    Sends s u (es ++ es') := by
  refine ⟨?_, h'.installed.trans h.installed⟩
  have hh := h.hears.trans h'.hears
  rwa [h.installed, Log.of, Log.of, ← List.map_append] at hh

theorem calm {s t : Scene σ} {es : List Event} (h : Sends s t es) (hc : s.Calm) : t.Calm := by
  intro i hi k hk
  rw [h.installed] at hi
  have hlt : i < s.sinks.length := by
    rw [← h.hears.size]
    exact (List.getElem?_eq_some_iff.mp hk).1
  obtain ⟨k', hk', hf, -⟩ := h.hears.sink i _ (List.getElem?_eq_getElem hlt)
  obtain rfl : k' = k := Option.some.inj (hk'.symm.trans hk)
  exact hf.trans (hc i hi _ (List.getElem?_eq_getElem hlt))

theorem report {s t : Scene σ} {es : List Event} (h : Sends s t es) (hi : s.installed = none) :
    t.report = es.foldl Report.tally s.report := by
  rw [h.hears.report, hi, Log.events_of, if_pos rfl]

theorem withState {s t : Scene σ} {es : List Event} (h : Sends s t es) (x y : σ) :
    Sends { s with state := x } { t with state := y } es :=
  ⟨⟨h.hears.report, h.hears.size, h.hears.sink⟩, h.installed⟩

end Sends

theorem Calm.outcome_emit {s : Scene σ} (h : s.Calm) (e : Event) :
    ∃ t, Effect.outcome (Effect.emit e) s = (.ok (), t) ∧ s.Sends t [e] ∧ t.state = s.state := by
  obtain ⟨t, ht, hh, hi, hst⟩ := Effect.outcome_emit s e
  rw [h.breaksOff, if_neg Bool.false_ne_true] at ht
  exact ⟨t, ht, ⟨hh, hi⟩, hst⟩

end Scene

end Criteria
