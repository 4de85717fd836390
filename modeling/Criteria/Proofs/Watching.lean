import Criteria.Proofs.Replay
import Criteria.Script.Looking

/-! # Watched queries

A query may report or not, and may be traced, built and looked at on the way: at every point it is
like a twin that only gets the requests. So a build that fails leaves nothing to be undone.
-/

namespace Criteria

/-! ## Closing what is open -/

theorem Call.deficit_replicate_endJunction (d : Nat) :
    deficit (List.replicate d endJunction) = d := by
  induction d with
  | zero => rfl
  | succ d ih =>
    rw [List.replicate_succ, deficit, ih]
    rfl

theorem Call.balance_replicate_endJunction (d : Nat) :
    balance (List.replicate d endJunction) = -d := by
  simp [balance, List.countP_replicate, isStart, isEnd]

theorem Call.flatMap_leaves_replicate_endJunction (d : Nat) :
    (List.replicate d endJunction).flatMap leaves = [] := by
  simp [leaves]

theorem Accumulator.exists_finish_of_closed {a : Accumulator} {limit : Option Nat} {d : Nat}
    (h : a.finish limit = .error (.unclosedJunction d)) (hl : ∀ m, limit = some m → a.size ≤ m) :
    ∃ done, (a.run (List.replicate d .endJunction)).finish limit = .ok done := by
  obtain ⟨hs, -, rfl⟩ := (finish_eq_unclosed_iff a limit d).mp h
  have hstray := strayEnds_run a (List.replicate a.depth .endJunction)
  have hdepth := depth_run a (List.replicate a.depth .endJunction)
  have hleaves := leaves_run a (List.replicate a.depth .endJunction)
  rw [Call.deficit_replicate_endJunction] at hstray hdepth
  rw [Call.balance_replicate_endJunction] at hdepth
  rw [Call.flatMap_leaves_replicate_endJunction, List.append_nil] at hleaves
  refine ⟨_, (finish_eq_ok_iff _ _ _).mpr ⟨by omega, by omega, fun m hm => ?_, rfl⟩⟩
  rw [size_eq_length_leaves, hleaves, ← size_eq_length_leaves]
  exact hl m hm

namespace Query

theorem after_append (q : Query) (ms ns : List Script.Made) :
    q.after (ms ++ ns) = (q.after ms).after ns := by
  rw [after, List.foldl_append]
  rfl

theorem accumulator_after_ends (q : Query) (d : Nat) :
    (q.after (List.replicate d ⟨.call .endJunction, true⟩)).accumulator =
      q.accumulator.run (List.replicate d .endJunction) := by
  induction d generalizing q with
  | zero => rfl
  | succ d ih =>
    rw [List.replicate_succ, List.replicate_succ, Accumulator.run_cons]
    exact ih (q.apply .endJunction)

end Query

namespace Script

open Effect

variable {α : Type} [TextValue α]

/-! ## Requests made -/

theorem made_cons (act : Act α) (acts : List (Act α)) (a : Answer) (answers : List Answer) :
    made (act :: acts) (a :: answers) =
      (act.request?.map (⟨·, !a.1.isFault⟩)).toList ++ made acts answers := by
  rw [made, List.zip_cons_cons, List.filterMap_cons]
  cases act.request? <;> rfl

theorem requests_cons (act : Act α) (acts : List (Act α)) :
    requests (act :: acts) = act.request?.toList ++ requests acts := by
  rw [requests, List.filterMap_cons]
  cases act.request? <;> rfl

/-! ## One act -/

section act

variable {s : Scene Pool} {i : Nat} {q : Query}

theorem outcome_perform_of_request? {act : Act α} {r : Request} (h : act.request? = some r) :
    perform i act = (do ask i r; return .nothing) := by
  cases act with
  | ask r' =>
    cases h
    rfl
  | operate p op =>
    cases p with
    | error f => cases h
    | ok p =>
      cases h
      rfl
  | _ => cases h

/-- A request is settled or noticed, and which of them is told by the result. -/
theorem outcome_perform_request (hq : s.state[i]? = some (.query q)) {act : Act α} {r : Request}
    (h : act.request? = some r) :
    ∃ x t, outcome (perform i act) s = (x, t) ∧
      t.state[i]? = some (.query (q.after [⟨r, !(Result.ofOutcome x).isFault⟩])) ∧
      (s.Calm → t.Calm ∧ (Result.ofOutcome x).isFault = false) := by
  -- the scene is its own companion here: of interest is only what becomes of the query
  obtain ⟨x, t, -, ht, hst, -, -⟩ := outcome_ask_query hq ⟨rfl, rfl, fun _ => rfl⟩ r
  have hget (root : Root) : (s.state.set i root)[i]? = some root :=
    List.getElem?_set_self (List.getElem?_eq_some_iff.mp hq).1
  have hc : s.Calm → t.Calm ∧ x = .ok () := by
    intro hc
    obtain ⟨u, hu, hs, -⟩ := outcome_ask hc i r
    obtain ⟨rfl, rfl⟩ := Prod.mk.inj (ht.symm.trans hu)
    exact ⟨hs.calm hc, rfl⟩
  rw [outcome_perform_of_request? h, outcome_bind, ht]
  cases x with
  | error f => exact ⟨.error f, t, rfl, hst ▸ hget _, fun h => nomatch (hc h).2⟩
  | ok u => exact ⟨.ok .nothing, t, rfl, hst ▸ hget _, fun h => ⟨(hc h).1, rfl⟩⟩

theorem outcome_perform_look (hq : s.state[i]? = some (.query q)) {act : Act α}
    (h : act.request? = none) :
    ∃ x t p, outcome (perform i act) s = (x, t) ∧ t.state[i]? = some (.query p) ∧ q.Twin p ∧
      (s.Calm → t.Calm) := by
  by_cases hd : act = .enableDebug
  · subst hd
    refine ⟨.ok .nothing, { s with state := s.state.modifyQuery i Query.enableDebug },
      q.enableDebug, rfl, ?_, .enableDebug q, id⟩
    rw [Pool.modifyQuery, Pool.modify_eq_set hq]
    exact List.getElem?_set_self (List.getElem?_eq_some_iff.mp hq).1
  · obtain ⟨hst, hc⟩ := looks_perform i h hd s
    exact ⟨_, _, q, rfl, hst ▸ hq, .refl q, hc⟩

theorem outcome_act (hq : s.state[i]? = some (.query q)) (act : Act α) :
    ∃ a t p, outcome (runStep false (.single i act)) s = (.ok a, t) ∧
      t.state[i]? = some (.query p) ∧
      (q.after (act.request?.map (⟨·, !a.1.isFault⟩)).toList).Twin p ∧
      (s.Calm → t.Calm ∧ (act.request?.isSome = true → a.1.isFault = false)) := by
  cases hr : act.request? with
  | none =>
    obtain ⟨x, t, p, ht, hp, hw, hc⟩ := outcome_perform_look hq hr
    exact ⟨_, t, p, outcome_runStep_single ht, hp, hw, fun h => ⟨hc h, nofun⟩⟩
  | some r =>
    obtain ⟨x, t, ht, hp, hc⟩ := outcome_perform_request hq hr
    exact ⟨_, t, _, outcome_runStep_single ht, hp, .refl _, fun h => ⟨(hc h).1, fun _ => (hc h).2⟩⟩

end act

/-! ## A run -/

/-- Acts are done with the root `i`, from one scene to another, and these requests are made. -/
structure Visit (i : Nat) (acts : List (Act α)) (s : Scene Pool) (ms : List Made)
    (t : Scene Pool) : Prop where
  run : ∃ answers, outcome (runSteps false (acts.map (.single i))) s = (.ok answers, t) ∧
    made acts answers = ms
  asked : ms.map Made.request = requests acts
  calm : s.Calm → t.Calm ∧ ms = (requests acts).map (⟨·, true⟩)

/-- A run of acts always comes to its end, with a twin of the query that got the requests. -/
theorem exists_visit (acts : List (Act α)) {s : Scene Pool} {i : Nat} {q : Query}
    (hq : s.state[i]? = some (.query q)) :
    ∃ ms t p, Visit i acts s ms t ∧ t.state[i]? = some (.query p) ∧ (q.after ms).Twin p := by
  induction acts generalizing s q with
  | nil =>
    exact ⟨[], s, q, ⟨⟨[], rfl, rfl⟩, rfl, fun h => ⟨h, rfl⟩⟩, hq, .refl q⟩
  | cons act acts ih =>
    obtain ⟨a, t, p, ht, hp, hw, hc⟩ := outcome_act hq act
    obtain ⟨ms, u, p', ⟨⟨answers, hu, rfl⟩, hrs, hc'⟩, hp', hw'⟩ := ih hp
    refine ⟨_, u, p', ⟨⟨a :: answers, ?_, made_cons act acts a answers⟩, ?_, fun h => ?_⟩, hp', ?_⟩
    · exact outcome_runSteps_cons ht hu
    · rw [List.map_append, hrs, requests_cons]
      cases act.request? <;> rfl
    · obtain ⟨hct, hf⟩ := hc h
      obtain ⟨hcu, hms⟩ := hc' hct
      refine ⟨hcu, ?_⟩
      rw [hms, requests_cons, List.map_append]
      cases hr : act.request? with
      | none => rfl
      | some r =>
        rw [hf (by rw [hr]; rfl)]
        rfl
    · rw [Query.after_append]
      exact (hw.after _).trans hw'

/-! ## Builds -/

/-- Building the root gives this outcome, unless a sink breaks off on it. Either way the roots stay
as they are. -/
def Builds (α : Type) [TextValue α] (i : Nat) (s : Scene Pool)
    (o : Except QueryError QuerySpec) : Prop :=
  ∃ x t, outcome (perform i (.build : Act α)) s = (.ok x, t) ∧ t.state = s.state ∧
    ((∃ trace, x = .built o trace) ∨ ¬ s.Calm ∧ ∃ f, x = .buildFault f)

theorem outcome_build_cases (q : Query) (s : Scene Pool) :
    (∃ t, outcome (build q) s = (.ok (.built q.build q.trace?), t)) ∨
      ¬ s.Calm ∧ ∃ f t, outcome (build q) s = (.error f, t) := by
  unfold build
  cases q.config.metrics with
  | false => exact Or.inl ⟨s, rfl⟩
  | true =>
    obtain ⟨t, ht, -⟩ := outcome_emit s q.buildEvent
    cases hb : s.breaksOff s.installed 1 with
    | false =>
      rw [hb] at ht
      exact Or.inl ⟨t, outcome_bind_of_ok s ht _⟩
    | true =>
      rw [hb] at ht
      refine Or.inr ⟨fun hc => ?_, _, t, outcome_bind_of_error s ht _⟩
      cases (hc.breaksOff 1).symm.trans hb

variable (α)

theorem builds_build {s : Scene Pool} {i : Nat} {q : Query}
    (hq : s.state[i]? = some (.query q)) : Builds α i s q.build := by
  have hlooks : Looks (perform i (.build : Act α)) := looks_perform i rfl nofun
  have hst := (hlooks s).1
  have hq := (Pool.query?_eq_some_iff _ _ _).mpr hq
  rcases outcome_build_cases q s with ⟨t, ht⟩ | ⟨hc, f, t, ht⟩
  · have hb := outcome_perform_build_of_ok α hq ht
    rw [hb] at hst
    exact ⟨_, t, hb, hst, Or.inl ⟨_, rfl⟩⟩
  · have hb := outcome_perform_build_of_error α hq ht
    rw [hb] at hst
    exact ⟨_, t, hb, hst, Or.inr ⟨hc, f, rfl⟩⟩

variable {α}

/-- Any acts are done with two queries that differ at most in what they trace and report, each in a
scene of its own. Both runs come to their end. Where the same requests were made, the queries then
have the same accumulator and are built alike, whatever was done in between. So nothing remains of a
build that failed: once the junctions it complained of are closed, the spec is that of a query that
only got the calls. -/
theorem watched_twins_agree {s u : Scene Pool} {i j : Nat} {q r : Query}
    (hq : s.state[i]? = some (.query q)) (hr : u.state[j]? = some (.query r)) (hw : q.Twin r)
    (acts acts' : List (Act α)) :
    ∃ ms t p ns v p', Visit i acts s ms t ∧ Visit j acts' u ns v ∧
      t.state[i]? = some (.query p) ∧ v.state[j]? = some (.query p') ∧
      p.accumulator = ms.foldl Made.on q.accumulator ∧ Builds α i t p.build ∧
      (ms = ns → p'.accumulator = p.accumulator ∧ Builds α j v p.build) ∧
      ∀ d, q.build = .error (.unclosedJunction d) →
        (∀ m, q.config.maxPredicates = some m → q.accumulator.size ≤ m) →
        ms = List.replicate d ⟨.call .endJunction, true⟩ →
        ∃ spec, ((List.replicate d Call.endJunction).foldl Query.apply q).build = .ok spec ∧
          p.build = .ok spec := by
  obtain ⟨ms, t, p, hv, hp, hwp⟩ := exists_visit acts hq
  obtain ⟨ns, v, p', hv', hp', hwp'⟩ := exists_visit acts' hr
  have hb := builds_build α hp
  refine ⟨ms, t, p, ns, v, p', hv, hv', hp, hp', hwp.accumulator, hb, ?_, ?_⟩
  · rintro rfl
    have htwin : p.Twin p' := (hwp.symm.trans (hw.after ms)).trans hwp'
    exact ⟨htwin.accumulator, htwin.build_eq ▸ builds_build α hp'⟩
  · rintro d hd hl rfl
    obtain ⟨done, hdone⟩ := Accumulator.exists_finish_of_closed ((q.build_eq_error_iff _).mp hd) hl
    obtain ⟨spec, hspec⟩ : ∃ spec,
        ((List.replicate d Call.endJunction).foldl Query.apply q).build = .ok spec := by
      refine ⟨_, (Query.build_eq_ok_iff _ _).mpr ⟨done, ?_, rfl⟩⟩
      rw [Query.foldl_apply]
      exact hdone
    refine ⟨spec, hspec, ?_⟩
    rw [← hspec, Query.foldl_apply, ← q.accumulator_after_ends]
    exact hwp.build_eq

/-- A build of a query with an open junction, which a sink breaks off. Its twin, in a scene of its
own, only gets the end that is missing. -/
theorem watched_twins_agree_of_broken_build :
    let a := Accumulator.ofCalls [.append (Predicate.textMatch "notes" "late"), .startJunction .or,
      .append (Predicate.compare "code" .eq "NYC")]
    let q : Query := { Query.new "Customer" { debug := true } with accumulator := a }
    let r : Query := { Query.new "Customer" { metrics := false } with accumulator := a }
    let s : Scene Pool :=
      { state := [.query q], sinks := [{ failsAt := some 1 }], installed := some 0 }
    let u : Scene Pool := { state := [.recorder ⟨fun _ => false, []⟩, .query r] }
    let acts : List (Act String) := [.build, .snapshot, .ask (.call .endJunction), .enableDebug,
      .finish (some 1), .build]
    let acts' : List (Act String) := [.ask (.call .endJunction)]
    let ends : List Made := [⟨.call .endJunction, true⟩]
    ∃ t v spec, Visit 0 acts s ends t ∧ Visit 1 acts' u ends v ∧
      (q.apply .endJunction).build = .ok spec ∧ Builds String 0 t (.ok spec) ∧
      Builds String 1 v (.ok spec) := by
  intro a q r s u acts acts' ends
  obtain ⟨ms, t, p, ns, v, p', hv, hv', -, -, -, hb, hsame, hclosed⟩ :=
    watched_twins_agree (s := s) (u := u) (i := 0) (j := 1) (q := q) (r := r) rfl rfl
      ⟨rfl, rfl, rfl⟩ acts acts'
  obtain ⟨answers, ha, hms⟩ := hv.run
  obtain rfl : _ = answers := Except.ok.inj (congrArg Prod.fst ha)
  obtain rfl : ms = ends := hms.symm
  obtain rfl : ns = ends := (hv'.calm nofun).2
  obtain ⟨spec, hspec, hbuild⟩ := hclosed 1 rfl nofun rfl
  rw [hbuild] at hb hsame
  exact ⟨t, v, spec, hv, hv', hspec, hb, (hsame rfl).2⟩

end Script

end Criteria
