import Mathlib.Data.List.Forall2
import Criteria.Script.Asking
import Criteria.Script.Chain

/-! # Recorded chains

Whichever methods are overridden, what is recorded of a chain comes down to the calls that the chain
makes on a query. So a replay on an accumulator of its own goes with the chain step by step, and the
two are heard alike.
-/

namespace Criteria

/-! ## Links and what is kept of them -/

theorem TextMethod.test?_leaf (m : TextMethod) (path value : String) :
    (m.leaf path value).test? = some ⟨.text m, path, [value]⟩ := by
  cases m <;> rfl

namespace Request

theorem method?_of_test? {r : Request} {t : Test} (h : r.test? = some t) :
    r.method? = some t.method := by
  cases r <;> cases h <;> rfl

theorem lower_of_test? {r : Request} {t : Test} (h : r.test? = some t) :
    ∃ l, r.lower = .append (.leaf l) ∧ l.test? = some t := by
  cases r with
  | call c => cases h
  | text m path value => exact ⟨m.leaf path value, rfl, (m.test?_leaf path value).trans h⟩
  | isNull path => exact ⟨.isNull path, rfl, h⟩
  | isNotNull path => exact ⟨.isNotNull path, rfl, h⟩
  | inList path values => exact ⟨.inList path values, rfl, h⟩

end Request

section operation

variable {α : Type} [TextValue α] (p : Property) {op : Operation α}

theorem Property.test?_request {m : Method} (h : op.method? = some m) :
    (p.request op).test? = some ⟨m, p.path.resolved, op.texts⟩ := by
  cases op <;> cases h <;> rfl

theorem Property.request_of_direction? {d : OrderDirection} (h : op.direction? = some d) :
    p.request op = .call (.orderBy ⟨p.path.resolved, d⟩) := by
  cases op <;> cases h <;> rfl

omit [TextValue α] in
theorem Operation.exists_method_or_direction (op : Operation α) :
    (∃ m, op.method? = some m) ∨ ∃ d, op.direction? = some d := by
  cases op <;> simp [Operation.method?, Operation.direction?]

end operation

namespace Recorder

variable (rec : Recorder)

theorem arrival_call (c : Call) : rec.arrival (.call c) = .call c := rfl

theorem arrival_of_method? {r : Request} {m : Method} (h : r.method? = some m) :
    rec.arrival r = if rec.overrides m then r else .call r.lower := by
  simp only [arrival, h]

theorem lower_arrival (r : Request) : (rec.arrival r).lower = r.lower := by
  unfold arrival
  split
  · rfl
  · split <;> rfl

end Recorder

namespace Script

open Effect

theorem Link.recorded_arrival (rec : Recorder) (l : Link) :
    l.Recorded rec.overrides (rec.arrival l.request) := by
  cases l with
  | start kind =>
    rw [Link.request, Call.opening_eq]
    exact .started kind
  | close => exact .closed
  | operate p op =>
    rw [Link.request]
    rcases op.exists_method_or_direction with ⟨m, hm⟩ | ⟨d, hd⟩
    · have ht := p.test?_request hm
      rw [rec.arrival_of_method? (Request.method?_of_test? ht)]
      cases ho : rec.overrides m with
      | true => exact .overridden hm ho ht
      | false =>
        obtain ⟨leaf, hl, htest⟩ := Request.lower_of_test? ht
        rw [if_neg Bool.false_ne_true, hl]
        exact .appended hm ho htest
    · rw [p.request_of_direction? hd, rec.arrival_call]
      exact .ordered hd

def arrivals (rec : Recorder) (ls : List Link) : List Request :=
  ls.map fun l => rec.arrival l.request

/-! ## A chain on a recorder -/

section outcome

variable {s : Scene Pool} {i : Nat}

theorem outcome_perform (l : Link) : outcome (l.perform i) s = outcome (ask i l.request) s := by
  cases l with
  | start kind => rfl
  | close => rfl
  | operate p op =>
    have hp : outcome (Script.perform i (.operate (.ok p) op)) s =
        outcome (ask i (p.request op) >>= fun _ => pure Result.nothing) s := rfl
    rw [Link.perform, Link.request, outcome_bind, hp, outcome_bind]
    rcases outcome (ask i (p.request op)) s with ⟨f | ⟨⟩, t⟩ <;> rfl

theorem outcome_runChain_cons (l : Link) (ls : List Link) :
    outcome (runChain i (l :: ls)) s =
      match outcome (ask i l.request) s with
      | (.ok (), t) => outcome (runChain i ls) t
      | (.error f, t) => (.error f, t) := by
  rw [runChain, outcome_bind, outcome_perform]
  rcases outcome (ask i l.request) s with ⟨f | ⟨⟩, t⟩ <;> rfl

theorem outcome_runChain_recorder {rec : Recorder} (h : s.state[i]? = some (.recorder rec))
    (ls : List Link) :
    outcome (runChain i ls) s =
      (.ok (), { s with
        state := s.state.set i
          (.recorder { rec with requests := rec.requests ++ arrivals rec ls }) }) := by
  induction ls generalizing s rec with
  | nil =>
    rw [arrivals, List.map_nil, List.append_nil, Pool.set_self h]
    rfl
  | cons l ls ih =>
    let t : Scene Pool := { s with state := s.state.set i (.recorder (rec.receive l.request)) }
    have ht : t.state[i]? = some (.recorder (rec.receive l.request)) :=
      List.getElem?_set_self (List.getElem?_eq_some_iff.mp h).1
    rw [outcome_runChain_cons, outcome_ask_of_recorder h]
    refine (ih ht).trans ?_
    simp only [t, List.set_set, Recorder.receive, List.append_assoc]
    rfl

/-! ## A chain on a query -/

theorem outcome_askAll_cons {σ : Type} {s : Scene σ} (metrics : Bool) (a : Accumulator)
    (r : Request) (rs : List (Except ReadError Request)) :
    outcome (askAll metrics a (.ok r :: rs)) s =
      match outcome (announce metrics r.lower) s with
      | (.ok (), t) => outcome (askAll metrics (a.apply r.lower) rs) t
      | (.error f, t) => (.error f, t) := by
  rw [askAll, outcome_bind]
  rcases outcome (announce metrics r.lower) s with ⟨f | ⟨⟩, t⟩ <;> rfl

/-- The replay ends as the chain does, with the same accumulator. -/
theorem outcome_runChain_of_alike {σ : Type} (rec : Recorder) (ls : List Link) {q : Query}
    {s' : Scene σ} (h : s.state[i]? = some (.query q)) (ha : s.Alike s') :
    ∃ x a t t', outcome (runChain i ls) s = (x, t) ∧
      t.state = s.state.set i (.query { q with accumulator := a }) ∧
      outcome (askAll q.config.metrics q.accumulator ((arrivals rec ls).map .ok)) s' =
        (x.map fun _ => .ok a, t') ∧ t.Alike t' := by
  induction ls generalizing s s' q with
  | nil => exact ⟨.ok (), q.accumulator, s, s', rfl, (Pool.set_self h).symm, rfl, ha⟩
  | cons l ls ih =>
    obtain ⟨x, t, t', ht, hst, ht', hat⟩ := outcome_ask_query h ha l.request
    rw [outcome_runChain_cons, ht, arrivals, List.map_cons, List.map_cons, outcome_askAll_cons,
      rec.lower_arrival, ht']
    cases x with
    | error f => exact ⟨.error f, _, t, t', rfl, hst, rfl, hat⟩
    | ok u =>
      have hq : t.state[i]? = some (.query (q.apply l.request.lower)) := by
        rw [hst]
        exact List.getElem?_set_self (List.getElem?_eq_some_iff.mp h).1
      obtain ⟨y, b, u, u', hu, hsu, hu', hau⟩ := ih hq hat
      refine ⟨y, b, u, u', hu, ?_, hu', hau⟩
      rw [hsu, hst, List.set_set]
      rfl

theorem outcome_runChain_of_calm (ls : List Link) {q : Query} (h : s.state[i]? = some (.query q))
    (hc : s.Calm) :
    ∃ t, outcome (runChain i ls) s = (.ok (), t) ∧
      s.Sends t (ls.flatMap fun l => l.request.lower.sent q.config.metrics) := by
  induction ls generalizing s q with
  | nil => exact ⟨s, rfl, .refl s⟩
  | cons l ls ih =>
    obtain ⟨t, ht, hs, hst⟩ := outcome_ask hc i l.request
    have hsent : s.state.sent i l.request = l.request.lower.sent q.config.metrics := by
      rw [Pool.sent, (Pool.query?_eq_some_iff _ _ _).mpr h]
    have hq : t.state[i]? = some (.query (q.apply l.request.lower)) := by
      rw [hst, Pool.asked, Pool.modify_eq_set h]
      exact List.getElem?_set_self (List.getElem?_eq_some_iff.mp h).1
    obtain ⟨u, hu, hsu⟩ := ih hq (hs.calm hc)
    rw [hsent] at hs
    refine ⟨u, ?_, hs.trans hsu⟩
    rw [outcome_runChain_cons, ht]
    exact hu

end outcome

/-- A chain leaves one request for each link, with the path and the texts of its operation. Replayed
on an accumulator of its own, these come to what the chain makes of a fresh query with the same
metrics, in whichever scene, and are heard alike. -/
theorem recorded_chain_replays (overrides : Method → Bool) (ls : List Link) :
    ∃ recorded, List.Forall₂ (Link.Recorded overrides) ls recorded ∧
      (∀ (i : Nat) (s : Scene Pool), s.state[i]? = some (.recorder { overrides }) →
        outcome (runChain i ls) s =
          (.ok (), { s with state := s.state.set i (.recorder ⟨overrides, recorded⟩) })) ∧
      ∀ (entity : String) (config : Config) (i : Nat) (s : Scene Pool),
        s.state[i]? = some (.query (.new entity config)) →
        ∀ {σ : Type} (s' : Scene σ), s.Alike s' →
        ∃ x a t t', outcome (runChain i ls) s = (x, t) ∧
          t.state = s.state.set i (.query { Query.new entity config with accumulator := a }) ∧
          outcome (askAll config.metrics {} (recorded.map .ok)) s' =
            (x.map fun _ => .ok a, t') ∧
          t.Alike t' ∧
          (s.Calm → x = .ok () ∧ s.Sends t (recorded.flatMap (·.lower.sent config.metrics))) := by
  let fresh : Recorder := { overrides }
  refine ⟨arrivals fresh ls, ?_, fun i s h => outcome_runChain_recorder h ls,
    fun entity config i s h σ s' ha => ?_⟩
  · exact List.forall₂_map_right_iff.mpr
      (List.forall₂_same.mpr fun l _ => l.recorded_arrival fresh)
  · obtain ⟨x, a, t, t', ht, hst, ht', hat⟩ := outcome_runChain_of_alike fresh ls h ha
    refine ⟨x, a, t, t', ht, hst, ht', hat, fun hc => ?_⟩
    obtain ⟨u, hu, hs⟩ := outcome_runChain_of_calm ls h hc
    obtain ⟨rfl, rfl⟩ := Prod.mk.inj (ht.symm.trans hu)
    refine ⟨rfl, ?_⟩
    simp only [arrivals, List.flatMap_map, fresh.lower_arrival]
    exact hs

/-- Values of two types under a qualifier, two methods that are overridden, a search within a
junction and an end too many. -/
theorem recorded_chain_replays_of_mixed_overrides :
    let p : Property :=
      ⟨⟨"code", some "address", ⟨by decide, by decide⟩, by decide⟩, "PostCode"⟩
    let overrides : Method → Bool := fun m => m = .text .eq ∨ m = .inList
    let ls : List Link := [.operate p (.equalToType 'n'), .start .or,
      .operate p (.inList ["a", "", "a"]), .operate p (.text .istartsWith "b" : Operation String),
      .operate p (.text .textMatch "c" : Operation String), .close, .close,
      .operate p (.desc : Operation Char)]
    let s : Scene Pool :=
      { state := [.recorder { overrides }, .query (.new "Customer" {})],
        sinks := [{}], installed := some 0 }
    let alone : Scene Unit := { state := (), sinks := [{}], installed := some 0 }
    let path := p.path.resolved
    let kept : List Request := [.text .eq path (toText 'n'), .call (.startJunction .or),
      .inList path ["a", "", "a"],
      .call (.append (.leaf (.compare ⟨path, .startsWith, "b", .insensitive⟩))),
      .call (.append (Predicate.textMatch path "c")), .call .endJunction, .call .endJunction,
      .call (.orderBy ⟨path, .desc⟩)]
    outcome (runChain 0 ls) s =
        (.ok (), { s with state := s.state.set 0 (.recorder ⟨overrides, kept⟩) }) ∧
      ∃ a t t', outcome (runChain 1 ls) s = (.ok (), t) ∧
        t.state = s.state.set 1 (.query { Query.new "Customer" {} with accumulator := a }) ∧
        outcome (askAll true {} (kept.map .ok)) alone = (.ok (.ok a), t') ∧ t.Alike t' := by
  intro p overrides ls s alone path kept
  obtain ⟨recorded, -, hr, hq⟩ := recorded_chain_replays overrides ls
  have hrun : outcome (runChain 0 ls) s =
      (.ok (), { s with state := s.state.set 0 (.recorder ⟨overrides, kept⟩) }) := rfl
  obtain rfl : recorded = kept := by
    simpa [s] using (hr 0 s rfl).symm.trans hrun
  obtain ⟨x, a, t, t', ht, hst, ht', hat, hc⟩ :=
    hq "Customer" {} 1 s rfl alone ⟨rfl, rfl, by rintro (_ | i) <;> rfl⟩
  obtain ⟨rfl, -⟩ := hc (by rintro i ⟨⟩ k ⟨⟩; rfl)
  exact ⟨hr 0 s rfl, a, t, t', ht, hst, ht', hat⟩

end Script

end Criteria
