import Criteria.Metrics.Log
import Criteria.Script.Run

/-! # Asking

What a request does to a pool of roots, and the events that it sends, where no sink breaks off: the
one root that is asked changes, and sends the event of the call if it is a query that reports.
-/

namespace Criteria

def Call.sent (metrics : Bool) (c : Call) : List Event := if metrics then c.event?.toList else []

namespace Script

open Effect

namespace Pool

def notice (i : Nat) (c : Call) (roots : Pool) : Pool :=
  roots.modifyQuery i fun q => { q with accumulator := q.accumulator.notice c }

def settle (i : Nat) (c : Call) (roots : Pool) : Pool :=
  roots.modifyQuery i fun q => { q with accumulator := q.accumulator.settle c }

/-- The root that is asked makes the call, or keeps the request. -/
def asked (i : Nat) (r : Request) (roots : Pool) : Pool :=
  roots.modify i fun
    | .query q => .query (q.apply r.lower)
    | .recorder rec => .recorder (rec.receive r)

def sent (i : Nat) (r : Request) (roots : Pool) : List Event :=
  match roots.query? i with
  | some q => r.lower.sent q.config.metrics
  | none => []

theorem query?_eq_some_iff (roots : Pool) (i : Nat) (q : Query) :
    roots.query? i = some q ↔ roots[i]? = some (.query q) := by
  unfold query?
  split <;> simp_all

theorem query?_eq_none {roots : Pool} {i : Nat} (h : ∀ q, roots[i]? ≠ some (.query q)) :
    roots.query? i = none := by
  unfold query?
  split
  · exact absurd ‹_› (h _)
  · rfl

theorem modify_eq_set {roots : Pool} {i : Nat} {root : Root} (h : roots[i]? = some root)
    (f : Root → Root) : List.modify roots i f = roots.set i (f root) := by
  have : Inhabited Root := ⟨root⟩
  rw [List.modify_eq_set, h, Option.getD_some]

theorem set_self {roots : Pool} {i : Nat} {root : Root} (h : roots[i]? = some root) :
    roots.set i root = roots := by
  obtain ⟨hi, rfl⟩ := List.getElem?_eq_some_iff.mp h
  exact List.set_getElem_self hi

theorem settle_notice (i : Nat) (c : Call) (roots : Pool) :
    (roots.notice i c).settle i c = roots.modifyQuery i (·.apply c) := by
  unfold settle notice modifyQuery
  rw [List.modify_modify_eq]
  congr
  funext root
  cases root <;> rfl

theorem query?_asked (i : Nat) (r : Request) (roots : Pool) (j : Nat) :
    (roots.asked i r).query? j =
      (roots.query? j).map fun q => if i = j then q.apply r.lower else q := by
  unfold query? asked
  rw [List.getElem?_modify]
  rcases roots[j]? with _ | ⟨q | rec⟩
  · rfl
  · by_cases h : i = j <;> simp [h]
  · by_cases h : i = j <;> simp [h]

end Pool

section outcome

variable {σ : Type} {s : Scene σ}

theorem outcome_announce (hc : s.Calm) (metrics : Bool) (c : Call) :
    ∃ t, outcome (announce metrics c) s = (.ok (), t) ∧ s.Sends t (c.sent metrics) ∧
      t.state = s.state := by
  unfold announce Call.sent
  cases c.event? with
  | none => exact ⟨s, rfl, by simpa using .refl s, rfl⟩
  | some e =>
    cases metrics with
    | false => exact ⟨s, rfl, .refl s, rfl⟩
    | true => exact hc.outcome_emit e

theorem outcome_announce_of_alike {τ : Type} {s' : Scene τ} (h : s.Alike s') (metrics : Bool)
    (c : Call) :
    ∃ x t t', outcome (announce metrics c) s = (x, t) ∧ outcome (announce metrics c) s' = (x, t') ∧
      t.Alike t' ∧ t.state = s.state := by
  unfold announce
  cases c.event? with
  | none => exact ⟨.ok (), s, s', rfl, rfl, h, rfl⟩
  | some e =>
    cases metrics with
    | false => exact ⟨.ok (), s, s', rfl, rfl, h, rfl⟩
    | true => exact h.outcome_emit e

end outcome

theorem outcome_call_eq (i : Nat) (metrics : Bool) (c : Call) (s : Scene Pool) :
    outcome (call i metrics c) s =
      match outcome (announce metrics c) { s with state := s.state.notice i c } with
      | (.ok (), t) => (.ok (), { t with state := t.state.settle i c })
      | (.error f, t) => (.error f, t) := by
  let noticed : Scene Pool := { s with state := s.state.notice i c }
  have hcall : call i metrics c = (do
      modifyState (Pool.notice i c)
      announce metrics c
      modifyState (Pool.settle i c)) := rfl
  have hn : outcome (modifyState (Pool.notice i c)) s = (.ok (), noticed) := rfl
  rw [hcall, outcome_bind_of_ok s hn, outcome_bind]
  rcases outcome (announce metrics c) noticed with ⟨f | ⟨⟩, t⟩ <;> rfl

theorem outcome_call {s : Scene Pool} (hc : s.Calm) (i : Nat) (metrics : Bool) (c : Call) :
    ∃ t, outcome (call i metrics c) s = (.ok (), t) ∧ s.Sends t (c.sent metrics) ∧
      t.state = s.state.modifyQuery i (·.apply c) := by
  let noticed : Scene Pool := { s with state := s.state.notice i c }
  have hn : noticed.Calm := ((Scene.Sends.refl s).withState s.state noticed.state).calm hc
  obtain ⟨t, ht, hs, hst⟩ := outcome_announce hn metrics c
  refine ⟨{ t with state := t.state.settle i c }, ?_, hs.withState s.state _, ?_⟩
  · rw [outcome_call_eq, ht]
  · rw [hst, Pool.settle_notice]

theorem outcome_ask_of_query {s : Scene Pool} {i : Nat} {q : Query}
    (h : s.state[i]? = some (.query q)) (r : Request) :
    outcome (ask i r) s = outcome (call i q.config.metrics r.lower) s := by
  rw [ask, outcome_bind_of_ok s (outcome_getState s)]
  simp only [h, q.reports_eq]

/-- A request of a query is broken off just where its event is, and then it is noticed but not
settled. -/
theorem outcome_ask_query {σ : Type} {s : Scene Pool} {s' : Scene σ} {i : Nat} {q : Query}
    (h : s.state[i]? = some (.query q)) (ha : s.Alike s') (r : Request) :
    ∃ x t t', outcome (ask i r) s = (x, t) ∧
      t.state = s.state.set i (.query { q with
        accumulator :=
          if x.isOk then q.accumulator.apply r.lower else q.accumulator.notice r.lower }) ∧
      outcome (announce q.config.metrics r.lower) s' = (x, t') ∧ t.Alike t' := by
  have hnoticed : s.state.notice i r.lower = s.state.set i
      (.query { q with accumulator := q.accumulator.notice r.lower }) := Pool.modify_eq_set h _
  obtain ⟨x, t, t', ht, ht', hat, hst⟩ := outcome_announce_of_alike
    (ha.withState (s.state.notice i r.lower) s'.state) q.config.metrics r.lower
  rw [outcome_ask_of_query h, outcome_call_eq, ht]
  cases x with
  | error e => exact ⟨.error e, t, t', rfl, hst.trans hnoticed, ht', hat⟩
  | ok u =>
    have hsettled : t.state.settle i r.lower = s.state.set i (.query (q.apply r.lower)) := by
      rw [hst, Pool.settle_notice]
      exact Pool.modify_eq_set h _
    exact ⟨.ok (), { t with state := t.state.settle i r.lower }, t', rfl, hsettled, ht',
      hat.withState _ t'.state⟩

theorem outcome_ask_of_recorder {s : Scene Pool} {i : Nat} {rec : Recorder}
    (h : s.state[i]? = some (.recorder rec)) (r : Request) :
    outcome (ask i r) s =
      (.ok (), { s with state := s.state.set i (.recorder (rec.receive r)) }) := by
  rw [ask, outcome_bind_of_ok s (outcome_getState s)]
  simp only [h, outcome_modifyState]
  rw [Pool.modify_eq_set h]

theorem outcome_ask_of_none {s : Scene Pool} {i : Nat} (h : s.state[i]? = none) (r : Request) :
    outcome (ask i r) s = (.ok (), s) := by
  rw [ask, outcome_bind_of_ok s (outcome_getState s)]
  simp only [h]
  rfl

theorem outcome_ask {s : Scene Pool} (hc : s.Calm) (i : Nat) (r : Request) :
    ∃ t, outcome (ask i r) s = (.ok (), t) ∧ s.Sends t (s.state.sent i r) ∧
      t.state = s.state.asked i r := by
  rcases hi : s.state[i]? with _ | ⟨q | rec⟩
  · have hsent : s.state.sent i r = [] := by rw [Pool.sent, Pool.query?_eq_none (by simp [hi])]
    have hasked : s.state.asked i r = s.state :=
      List.modify_eq_self (List.getElem?_eq_none_iff.mp hi)
    rw [hsent, hasked]
    exact ⟨s, outcome_ask_of_none hi r, .refl s, rfl⟩
  · have hsent : s.state.sent i r = r.lower.sent q.config.metrics := by
      rw [Pool.sent, (Pool.query?_eq_some_iff _ _ _).mpr hi]
    obtain ⟨t, ht, hs, hst⟩ := outcome_call hc i q.config.metrics r.lower
    refine ⟨t, (outcome_ask_of_query hi r).trans ht, hsent ▸ hs, hst.trans ?_⟩
    rw [Pool.modifyQuery, Pool.asked, Pool.modify_eq_set hi, Pool.modify_eq_set hi]
  · have hsent : s.state.sent i r = [] := by rw [Pool.sent, Pool.query?_eq_none (by simp [hi])]
    rw [hsent]
    refine ⟨_, outcome_ask_of_recorder hi r, (Scene.Sends.refl s).withState s.state _, ?_⟩
    rw [Pool.asked, Pool.modify_eq_set hi]

end Script

end Criteria
