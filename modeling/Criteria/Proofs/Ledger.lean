import Criteria.Proofs.Leaves
import Criteria.Proofs.Totals
import Criteria.Script.Looking

/-! # The ledger of a run

Where no sink is installed, the events of a run are those of its ledger, whichever queries they come
from and in whichever order. So the report is exact for what was done since it was cleared.
-/

namespace Criteria

theorem Accumulator.count_finish {a : Accumulator} {limit : Option Nat} {done : Finished}
    (h : a.finish limit = .ok done) :
    done.count = (Predicate.leavesAll done.predicate.toList).length := by
  rw [leavesAll_finish h]
  obtain ⟨-, -, -, rfl⟩ := (finish_eq_ok_iff a limit done).mp h
  exact size_eq_length_leaves a

theorem Query.event?_built (q : Query) :
    Happening.event? (.built q.entity q.build) = some q.buildEvent := by
  unfold buildEvent
  cases hf : q.accumulator.finish q.config.maxPredicates with
  | error e =>
    have hb : q.build = .error e := by
      rw [build, hf]
      rfl
    rw [hb, Happening.event?]
  | ok done =>
    have hb := (build_eq_ok_iff q _).mpr ⟨done, hf, rfl⟩
    rw [hb, Happening.event?, QuerySpec.predicateCount_eq_length, ← Accumulator.count_finish hf]

namespace Script

open Effect

variable {α : Type} [TextValue α] {s : Scene Pool}

theorem Pool.reporting?_asked (roots : Pool) (i : Nat) (r : Request) :
    (roots.asked i r).reporting? = roots.reporting? := by
  funext j
  rw [reporting?, query?_asked, reporting?]
  cases roots.query? j with
  | none => rfl
  | some q => by_cases h : i = j <;> simp [h, Query.apply]

theorem Pool.sent_eq (roots : Pool) (i : Nat) (r : Request) :
    roots.sent i r = ((roots.reporting? i).bind fun _ => r.lower.event?).toList := by
  unfold sent reporting?
  cases roots.query? i with
  | none => rfl
  | some q => cases hm : q.config.metrics <;> simp [Call.sent, hm]

theorem Pool.reporting?_eq {roots : Pool} {i : Nat} {q : Query} (h : roots.query? i = some q) :
    roots.reporting? i = if q.config.metrics then some q.entity else none := by
  rw [reporting?, h, Option.bind_some]

/-! ## One deed -/

variable (α)

theorem outcome_perform_ask (hc : s.Calm) (i : Nat) (r : Request) :
    ∃ t, outcome (perform i (.ask r : Act α)) s = (.ok .nothing, t) ∧
      s.Sends t (s.state.sent i r) ∧ t.state = s.state.asked i r := by
  obtain ⟨t, ht, hs, hst⟩ := outcome_ask hc i r
  exact ⟨t, outcome_bind_of_ok s ht _, hs, hst⟩

theorem outcome_build (hc : s.Calm) (q : Query) :
    ∃ t, outcome (build q) s = (.ok (.built q.build q.trace?), t) ∧
      s.Sends t (if q.config.metrics then [q.buildEvent] else []) ∧ t.state = s.state := by
  unfold build
  cases q.config.metrics with
  | false => exact ⟨s, rfl, .refl s, rfl⟩
  | true =>
    obtain ⟨t, ht, hs, hst⟩ := hc.outcome_emit q.buildEvent
    exact ⟨t, outcome_bind_of_ok s ht _, hs, hst⟩

theorem outcome_perform_build (hc : s.Calm) {i : Nat} {q : Query} (hq : s.state.query? i = some q) :
    ∃ t, outcome (perform i (.build : Act α)) s = (.ok (.built q.build q.trace?), t) ∧
      s.Sends t (if q.config.metrics then [q.buildEvent] else []) ∧ t.state = s.state := by
  obtain ⟨t, ht, hs, hst⟩ := outcome_build hc q
  exact ⟨t, outcome_perform_build_of_ok α hq ht, hs, hst⟩

theorem outcome_perform_build_of_none {i : Nat} (hq : s.state.query? i = none) :
    outcome (perform i (.build : Act α)) s = (.ok .nothing, s) := by
  simp only [perform, outcome_bind, outcome_getState, hq, outcome_pure]

theorem outcome_deed (hc : s.Calm) (d : Deed) :
    ∃ a t, outcome (runStep false (d.step : Step α)) s = (.ok a, t) ∧
      s.Sends t ((d.happening? s.state.reporting? a.1).bind Happening.event?).toList ∧
      t.state.reporting? = s.state.reporting? ∧
      (d.happening? s.state.reporting? a.1).bind Happening.call? = d.call? s.state.reporting? ∧
      (d.happening? s.state.reporting? a.1).bind Happening.entity? =
        d.entity? s.state.reporting? := by
  cases d with
  | ask i r =>
    obtain ⟨t, ht, hs, hst⟩ := outcome_perform_ask α hc i r
    rw [Pool.sent_eq] at hs
    refine ⟨_, t, outcome_runStep_of_ok ht, ?_, by rw [hst, Pool.reporting?_asked], ?_, ?_⟩
    · simpa [Deed.happening?, Option.bind_map, Function.comp_def, Happening.event?] using hs
    · cases hr : s.state.reporting? i <;> simp [Deed.happening?, Deed.call?, Happening.call?, hr]
    · cases hr : s.state.reporting? i <;>
        simp [Deed.happening?, Deed.entity?, Happening.entity?, hr]
  | build i =>
    cases hq : s.state.query? i with
    | none =>
      have hr : s.state.reporting? i = none := by rw [Pool.reporting?, hq, Option.bind_none]
      exact ⟨_, s, outcome_runStep_of_ok (outcome_perform_build_of_none α hq), .refl s, rfl, rfl,
        hr.symm⟩
    | some q =>
      have hr := Pool.reporting?_eq hq
      obtain ⟨t, ht, hs, hst⟩ := outcome_perform_build α hc hq
      refine ⟨_, t, outcome_runStep_of_ok ht, ?_, by rw [hst], ?_, ?_⟩
      all_goals simp only [Deed.happening?, Deed.call?, Deed.entity?, hr]
      · cases hm : q.config.metrics <;> simpa [hm, Query.event?_built] using hs
      · cases q.config.metrics <;> rfl
      · cases q.config.metrics <;> rfl

/-! ## A run -/

section ledger

variable {β : Type} (reporting : Nat → Option String) (d : Deed) (ds : List Deed)

theorem filterMap_ledger_cons (f : Happening → Option β) (r : Result) (rs : List Result) :
    (ledger reporting (d :: ds) (r :: rs)).filterMap f =
      ((d.happening? reporting r).bind f).toList ++ (ledger reporting ds rs).filterMap f := by
  rw [ledger, List.zip_cons_cons, List.filterMap_cons]
  cases d.happening? reporting r with
  | none => rfl
  | some x => cases hx : f x <;> simp [hx, ledger]

theorem filterMap_cons_toList (f : Deed → Option β) :
    (d :: ds).filterMap f = (f d).toList ++ ds.filterMap f := by
  cases h : f d <;> simp [h]

end ledger

/-- The events of a run are those of its ledger, which lists each call and each build of the queries
that report. -/
theorem outcome_deeds (reporting : Nat → Option String) (deeds : List Deed) (s : Scene Pool)
    (hc : s.Calm) (hr : s.state.reporting? = reporting) :
    ∃ answers t,
      outcome (runSteps false (deeds.map Deed.step : List (Step α))) s = (.ok answers, t) ∧
      s.Sends t ((ledger reporting deeds (answers.map Prod.fst)).filterMap Happening.event?) ∧
      answers.length = deeds.length ∧
      (ledger reporting deeds (answers.map Prod.fst)).filterMap Happening.call? =
        deeds.filterMap (Deed.call? reporting) ∧
      (ledger reporting deeds (answers.map Prod.fst)).filterMap Happening.entity? =
        deeds.filterMap (Deed.entity? reporting) := by
  induction deeds generalizing s with
  | nil => exact ⟨[], s, rfl, .refl s, rfl, rfl, rfl⟩
  | cons d ds ih =>
    obtain ⟨a, t, ht, hs, hst, hcall, hentity⟩ := outcome_deed α hc d
    obtain ⟨answers, u, hu, hs', hlen, hcalls, hentities⟩ := ih t (hs.calm hc) (hst.trans hr)
    subst hr
    refine ⟨a :: answers, u, ?_, ?_, ?_, ?_, ?_⟩
    · exact outcome_runSteps_cons ht hu
    · rw [List.map_cons, filterMap_ledger_cons]
      exact hs.trans hs'
    · rw [List.length_cons, List.length_cons, hlen]
    · rw [List.map_cons, filterMap_ledger_cons, filterMap_cons_toList, hcall, hcalls]
    · rw [List.map_cons, filterMap_ledger_cons, filterMap_cons_toList, hentity, hentities]

/-- After the totals are cleared, and with no sink installed, the report of any run of requests and
builds is exact for its ledger. That lists the calls on all queries that report, and their builds
with what each of them returned. -/
theorem report_exact (s : Scene Pool) (hi : s.installed = none) (deeds : List Deed) :
    ∃ answers t,
      outcome (do
        resetReport
        runSteps false (deeds.map Deed.step : List (Step α))) s = (.ok answers, t) ∧
      answers.length = deeds.length ∧
      let happenings := ledger s.state.reporting? deeds (answers.map Prod.fst)
      happenings.filterMap Happening.call? = deeds.filterMap (Deed.call? s.state.reporting?) ∧
      happenings.filterMap Happening.entity? = deeds.filterMap (Deed.entity? s.state.reporting?) ∧
      t.report.Exact happenings ∧
      (∀ e, (t.report.entities.get? e).isSome ↔
        ∃ i, .build i ∈ deeds ∧ s.state.reporting? i = some e) ∧
      (happenings.countP (·.builds fun _ => true) < UInt64.size →
        (t.report.entities.entries.map fun e => e.2.queriesBuilt.toNat).sum =
          t.report.ops.queriesBuilt.toNat) ∧
      (happenings.countP Happening.fails < UInt64.size →
        (t.report.entities.entries.map fun e => e.2.buildFailures.toNat).sum =
          t.report.ops.buildFailures.toNat) := by
  let cleared : Scene Pool := { s with report := {} }
  have hc : cleared.Calm := fun i h => by
    rw [hi] at h
    cases h
  obtain ⟨answers, t, ht, hs, hlen, hcalls, hentities⟩ :=
    outcome_deeds α s.state.reporting? deeds cleared hc rfl
  have hx : t.report.Exact (ledger s.state.reporting? deeds (answers.map Prod.fst)) := by
    rw [hs.report hi, Report.foldl_tally_filterMap]
    exact Report.exact_foldl_note _
  refine ⟨answers, t, ht, hlen, hcalls, hentities, hx, fun e => ?_, fun hlt => ?_, fun hlt => ?_⟩
  · rw [hx.entry_isSome, ofEntity_ne_nil_iff, hentities, List.mem_filterMap]
    constructor
    · rintro ⟨_ | i, hd, he⟩
      · cases he
      · exact ⟨i, hd, he⟩
    · rintro ⟨i, hd, he⟩
      exact ⟨_, hd, he⟩
  · rw [hx.ops.queriesBuilt.toNat_eq hlt]
    exact hx.sum_entries (fun c hs hc => hc.queriesBuilt) Happening.entity?_of_builds hlt
  · rw [hx.ops.buildFailures.toNat_eq hlt]
    exact hx.sum_entries (fun c hs hc => hc.buildFailures) Happening.entity?_of_fails hlt

/-- Three queries in turn, one of which does not report: a pattern without regard to case, a search
in a junction that is appended whole, and a build that is refused. -/
theorem report_exact_of_interleaved_queries :
    let s : Scene Pool := { state := [.query (.new "Customer" {}),
      .query (.new "Customer" { metrics := false }), .query (.new "Order" {})] }
    let deeds : List Deed := [.ask 0 (.text .istartsWith "email" "a"),
      .ask 1 (.text .eq "name" "b"),
      .ask 2 (.call (.append (.junction .or [Predicate.textMatch "notes" "c"]))),
      .build 2, .build 1, .ask 0 (.call (.startJunction .not)), .build 0]
    ∃ t, (∃ answers, outcome (do
        resetReport
        runSteps false (deeds.map Deed.step : List (Step String))) s = (.ok answers, t)) ∧
      t.report.ops.predicatesAppended.toNat = 1 ∧ t.report.ops.textMatches.toNat = 0 ∧
      t.report.ops.docStoreRoutes.toNat = 1 ∧ t.report.ops.buildFailures.toNat = 1 ∧
      (t.report.entities.get? "Customer").isSome ∧ (t.report.entities.get? "Order").isSome := by
  intro s deeds
  obtain ⟨answers, t, ht, -, -, -, hx, hentry, -⟩ := report_exact String s rfl deeds
  obtain rfl : _ = answers := Except.ok.inj (congrArg Prod.fst ht)
  refine ⟨t, ⟨_, ht⟩, ?_, ?_, ?_, ?_, ?_, ?_⟩
  · exact (hx.ops.predicatesAppended.toNat_eq (by decide)).trans (by decide)
  · exact (hx.ops.textMatches.toNat_eq (by decide)).trans (by decide)
  · exact (hx.ops.docStoreRoutes.toNat_eq (by decide)).trans (by decide)
  · exact (hx.ops.buildFailures.toNat_eq (by decide)).trans (by decide)
  · exact (hentry _).mpr ⟨0, by simp [deeds], rfl⟩
  · exact (hentry _).mpr ⟨2, by simp [deeds], rfl⟩

end Script

end Criteria
