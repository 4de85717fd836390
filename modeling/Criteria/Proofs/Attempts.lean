import Criteria.Proofs.Growth
import Criteria.Proofs.Pruning
import Criteria.Proofs.Watching

/-! # Calls that are broken off

A call that is broken off may decide the route, and leaves all else as the settled calls have made it.
So the route tells what was searched for, and not only what is held.
-/

namespace Criteria

namespace Predicate

/-- A full-text search is among the leaves. -/
def HasMatch (p : Predicate) : Prop := ∃ path value, Leaf.textMatch path value ∈ p.leaves

theorem isTextMatch_iff (l : Leaf) :
    l.isTextMatch = true ↔ ∃ path value, l = .textMatch path value := by
  cases l <;> simp [Leaf.isTextMatch]

theorem containsMatch_iff (p : Predicate) : p.containsMatch = true ↔ p.HasMatch := by
  simp only [containsMatch_eq_any, List.any_eq_true, isTextMatch_iff, HasMatch]
  constructor
  · rintro ⟨_, hl, path, value, rfl⟩
    exact ⟨path, value, hl⟩
  · rintro ⟨path, value, hl⟩
    exact ⟨_, hl, path, value, rfl⟩

instance (p : Predicate) : Decidable p.HasMatch := decidable_of_iff _ p.containsMatch_iff

theorem any_isTextMatch_leavesAll_iff (ps : List Predicate) :
    (leavesAll ps).any Leaf.isTextMatch = true ↔ ∃ p ∈ ps, p.HasMatch := by
  simp only [← containsMatchAny_eq_any_leaves, containsMatchAny_eq_any, List.any_eq_true,
    containsMatch_iff]

end Predicate

open Predicate

namespace Query

theorem route_build {q : Query} {spec : QuerySpec} (h : q.build = .ok spec) :
    spec.route = q.accumulator.route := by
  obtain ⟨done, hf, rfl⟩ := (build_eq_ok_iff q spec).mp h
  obtain ⟨-, -, -, rfl⟩ := (Accumulator.finish_eq_ok_iff _ _ _).mp hf
  rfl

end Query

namespace Accumulator

def unrouted (a : Accumulator) : Accumulator := { a with route := .primary }

section unrouted

variable (a : Accumulator) (c : Call)

theorem unrouted_notice : (a.notice c).unrouted = a.unrouted := by
  cases c with
  | append p =>
    simp only [notice]
    split <;> rfl
  | _ => rfl

theorem unrouted_settle : (a.settle c).unrouted = a.unrouted.settle c := by
  cases c with
  | endJunction =>
    simp only [settle, unrouted]
    split
    · rfl
    · split <;> rfl
  | _ => rfl

theorem unrouted_apply : (a.apply c).unrouted = a.unrouted.settle c := by
  rw [apply, unrouted_settle, unrouted_notice]

end unrouted

/-- What does not look at the route is the same for both. -/
theorem eq_of_unrouted {β : Type} (view : Accumulator → β) (hview : ∀ a, view a.unrouted = view a)
    {a b : Accumulator} (h : a.unrouted = b.unrouted) : view a = view b := by
  rw [← hview a, h, hview b]

theorem route_attempts (a : Accumulator) (ts : List Attempt) :
    (a.attempts ts).route =
      if ((ts.map Attempt.call).flatMap Call.leaves).any Leaf.isTextMatch then .docStore
      else a.route := by
  induction ts generalizing a with
  | nil => rfl
  | cons t ts ih =>
    have ht : (a.attempt t).route =
        if t.call.leaves.any Leaf.isTextMatch then .docStore else a.route := by
      unfold attempt
      split
      · exact route_apply a t.call
      · exact route_notice a t.call
    rw [attempts, List.foldl_cons, ← attempts, ih, ht, List.map_cons, List.flatMap_cons,
      List.any_append]
    cases t.call.leaves.any Leaf.isTextMatch <;> simp

theorem unrouted_attempts {a b : Accumulator} (h : a.unrouted = b.unrouted) (ts : List Attempt) :
    (a.attempts ts).unrouted = (b.run (Attempt.settledCalls ts)).unrouted := by
  induction ts generalizing a b with
  | nil => exact h
  | cons t ts ih =>
    obtain ⟨c, settled⟩ := t
    cases settled with
    | true => exact ih (by rw [attempt, if_pos rfl, unrouted_apply, unrouted_apply, h])
    | false => exact ih ((unrouted_notice a c).trans h)

theorem unrouted_ofAttempts (ts : List Attempt) :
    (ofAttempts ts).unrouted = (ofCalls (Attempt.settledCalls ts)).unrouted :=
  unrouted_attempts rfl ts

end Accumulator

/-! ## After any attempts -/

theorem Attempt.mem_appended_iff (ts : List Attempt) (p : Predicate) :
    p ∈ Call.appended (ts.map call) ↔
      p ∈ Call.appended (settledCalls ts) ∨ p ∈ Call.appended (brokenOff ts) := by
  simp only [Call.appended, settledCalls, brokenOff, List.mem_filterMap, List.mem_map,
    List.mem_filter, Bool.not_eq_true']
  constructor
  · rintro ⟨_, ⟨t, ht, rfl⟩, hp⟩
    cases hs : t.settled with
    | true => exact Or.inl ⟨_, ⟨t, ⟨ht, hs⟩, rfl⟩, hp⟩
    | false => exact Or.inr ⟨_, ⟨t, ⟨ht, hs⟩, rfl⟩, hp⟩
  · rintro (⟨_, ⟨t, ⟨ht, -⟩, rfl⟩, hp⟩ | ⟨_, ⟨t, ⟨ht, -⟩, rfl⟩, hp⟩)
    · exact ⟨_, ⟨t, ht, rfl⟩, hp⟩
    · exact ⟨_, ⟨t, ht, rfl⟩, hp⟩

namespace Accumulator

section attempts

variable (ts : List Attempt)

theorem leaves_ofAttempts :
    (ofAttempts ts).leaves = leavesAll (Call.appended (Attempt.settledCalls ts)) := by
  rw [eq_of_unrouted leaves (fun _ => rfl) (unrouted_ofAttempts ts), leaves_ofCalls]

theorem route_ofAttempts_iff :
    (ofAttempts ts).route = .docStore ↔
      ∃ p ∈ Call.appended (ts.map Attempt.call), p.HasMatch := by
  rw [← any_isTextMatch_leavesAll_iff, Call.leavesAll_appended, ofAttempts, route_attempts]
  cases ((ts.map Attempt.call).flatMap Call.leaves).any Leaf.isTextMatch <;> simp

theorem held_match_iff :
    (∃ f ∈ (ofAttempts ts).frames, ∃ p ∈ f.nodes, p.HasMatch) ↔
      ∃ p ∈ Call.appended (Attempt.settledCalls ts), p.HasMatch := by
  rw [← any_isTextMatch_leavesAll_iff, ← leaves_ofAttempts, leaves, any_isTextMatch_leavesAll_iff]
  simp only [nodes, List.mem_flatMap]
  tauto

theorem built_match_iff {q : Query} {spec : QuerySpec} (hq : q.accumulator = ofAttempts ts)
    (h : q.build = .ok spec) :
    (∃ p, spec.predicate = some p ∧ p.containsMatch = true) ↔
      ∃ p ∈ Call.appended (Attempt.settledCalls ts), p.HasMatch := by
  rw [← any_isTextMatch_leavesAll_iff, ← leaves_ofAttempts, ← hq, ← Query.leavesAll_build h,
    any_isTextMatch_leavesAll_iff]
  simp [containsMatch_iff]

end attempts

/-- The route is the document store exactly where a full-text search is held or an append of one was
broken off, and stays it. As long as none was broken off, it is the document store exactly where one
is held or was appended, and a query that can be built says so. -/
theorem route_exact (ts : List Attempt) :
    ((ofAttempts ts).route = .docStore ↔
        (∃ f ∈ (ofAttempts ts).frames, ∃ p ∈ f.nodes, p.HasMatch) ∨
          ∃ p ∈ Call.appended (Attempt.brokenOff ts), p.HasMatch) ∧
      ((ofAttempts ts).route = .docStore ↔
        ∃ p ∈ Call.appended (ts.map Attempt.call), p.HasMatch) ∧
      ((ofAttempts ts).route = .docStore →
        ∀ us, ((ofAttempts ts).attempts us).route = .docStore) ∧
      (∀ (q : Query) (spec : QuerySpec), q.accumulator = ofAttempts ts → q.build = .ok spec →
        (spec.isDocStore = true ↔
          (∃ p, spec.predicate = some p ∧ p.containsMatch = true) ∨
            ∃ p ∈ Call.appended (Attempt.brokenOff ts), p.HasMatch)) ∧
      ((∀ p ∈ Call.appended (Attempt.brokenOff ts), ¬ p.HasMatch) →
        ((ofAttempts ts).route = .docStore ↔
            ∃ f ∈ (ofAttempts ts).frames, ∃ p ∈ f.nodes, p.HasMatch) ∧
          ((ofAttempts ts).route = .docStore ↔
            ∃ p ∈ Call.appended (Attempt.settledCalls ts), p.HasMatch) ∧
          ∀ (q : Query) (spec : QuerySpec), q.accumulator = ofAttempts ts → q.build = .ok spec →
            (spec.isDocStore = true ↔
              ∃ p, spec.predicate = some p ∧ p.containsMatch = true)) := by
  have happended := route_ofAttempts_iff ts
  have hsplit : (ofAttempts ts).route = .docStore ↔
      (∃ p ∈ Call.appended (Attempt.settledCalls ts), p.HasMatch) ∨
        ∃ p ∈ Call.appended (Attempt.brokenOff ts), p.HasMatch := by
    simp only [happended, Attempt.mem_appended_iff, or_and_right, exists_or]
  have hspec {q : Query} {spec : QuerySpec} (hq : q.accumulator = ofAttempts ts)
      (h : q.build = .ok spec) : spec.isDocStore = true ↔ (ofAttempts ts).route = .docStore := by
    rw [QuerySpec.isDocStore, decide_eq_true_eq, Query.route_build h, hq]
  refine ⟨?_, happended, ?_, ?_, ?_⟩
  · rw [held_match_iff, hsplit]
  · intro h us
    rw [route_attempts, h, ite_self]
  · intro q spec hq h
    rw [hspec hq h, built_match_iff ts hq h, hsplit]
  · intro hnone
    have hnot : ¬ ∃ p ∈ Call.appended (Attempt.brokenOff ts), p.HasMatch :=
      fun ⟨p, hp, hmatch⟩ => hnone p hp hmatch
    rw [or_iff_left hnot] at hsplit
    refine ⟨?_, hsplit, fun q spec hq h => ?_⟩
    · rw [held_match_iff, hsplit]
    · rw [hspec hq h, built_match_iff ts hq h, hsplit]

/-- A search within a prebuilt junction, after another append that was broken off. -/
theorem route_exact_of_buried_match :
    let ts : List Attempt := [⟨.startJunction .or, true⟩, ⟨.append (compare "code" .eq "NYC"), false⟩,
      ⟨.append (.junction .and [.junction .not [textMatch "notes" "late"]]), true⟩,
      ⟨.endJunction, true⟩]
    let q : Query := { Query.new "Customer" {} with accumulator := ofAttempts ts }
    (q.accumulator.attempts [⟨.endJunction, true⟩]).route = .docStore ∧
      ∃ spec, q.build = .ok spec ∧ spec.isDocStore = true := by
  intro ts q
  obtain ⟨-, happended, hstays, -, hwhole⟩ := route_exact ts
  have hnone : ∀ p ∈ Call.appended (Attempt.brokenOff ts), ¬ p.HasMatch := by decide
  obtain ⟨-, -, hbuilt⟩ := hwhole hnone
  have hroute : (ofAttempts ts).route = .docStore := happended.2 (by decide)
  exact ⟨hstays hroute _, _, rfl, (hbuilt q _ rfl rfl).2 ⟨_, rfl, rfl⟩⟩

/-! ## In a script -/

/-- Whatever is done with a fresh query, in whatever scene, its accumulator has come by attempts. -/
theorem exists_ofAttempts_of_acts {α : Type} [TextValue α] (acts : List (Script.Act α))
    {s : Scene Script.Pool} {i : Nat} {entity : String} {config : Config}
    (hs : s.state[i]? = some (.query (.new entity config))) :
    ∃ answers t q ts, Effect.outcome (Script.runSteps false (acts.map (.single i))) s =
        (.ok answers, t) ∧
      t.state[i]? = some (.query q) ∧ q.accumulator = ofAttempts ts ∧
      ts.map Attempt.call = (Script.requests acts).map Request.lower := by
  obtain ⟨ms, t, q, hvisit, hq, htwin⟩ := Script.exists_visit acts hs
  obtain ⟨answers, hrun, -⟩ := hvisit.run
  refine ⟨answers, t, q, ms.map fun m => ⟨m.request.lower, m.settled⟩, hrun, hq, ?_, ?_⟩
  · rw [htwin.accumulator, ofAttempts, attempts, List.foldl_map]
    rfl
  · rw [← hvisit.asked, List.map_map, List.map_map]
    rfl

/-- A search that its sink breaks off is held nowhere, and the query that is built then has none. -/
theorem not_route_exact_of_broken_off_search :
    let search : Request := .text .textMatch "notes" "late"
    let steps : List (Script.Step String) :=
      [.scoped 0 none (some 1) false [.single 0 (.ask search)], .single 0 .build]
    ∃ answers s q spec trace status,
      Effect.outcome (Script.runSteps false steps) { state := [.query (.new "Raw" {})] } =
        (.ok answers, s) ∧
      s.state.query? 0 = some q ∧ answers.getLast? = some (.built (.ok spec) trace, status) ∧
      ¬ (q.accumulator.route = .docStore ↔
        ∃ f ∈ q.accumulator.frames, ∃ p ∈ f.nodes, p.HasMatch) ∧
      ¬ (spec.isDocStore = true ↔ ∃ p, spec.predicate = some p ∧ p.containsMatch = true) := by
  intro search steps
  let q : Query := { Query.new "Raw" {} with accumulator := { route := .docStore } }
  obtain ⟨broken, t, hsearch, hstate, hnone⟩ : ∃ broken t,
      Effect.outcome (Script.runStep false (.scoped 0 none (some 1) false
        [.single 0 (.ask search)] : Script.Step String)) { state := [.query (.new "Raw" {})] } =
        (.ok broken, t) ∧ t.state = [.query q] ∧ t.installed = none := ⟨_, _, rfl, rfl, rfl⟩
  have hcalm : t.Calm := by simp [Scene.Calm, hnone]
  have hq : t.state.query? 0 = some q := by rw [hstate]; rfl
  obtain ⟨u, hbuild⟩ := (Script.outcome_build_cases q t).resolve_right fun h => h.1 hcalm
  have hu : u.state = t.state := by simpa only [hbuild] using (Script.looks_build q t).1
  have hstep := Script.outcome_runStep_of_ok (Script.outcome_perform_build_of_ok String hq hbuild)
  refine ⟨_, u, q, _, _, _, Script.outcome_runSteps_cons hsearch
    (Script.outcome_runSteps_cons hstep rfl), ?_, rfl, ?_, ?_⟩
  · rw [hu, hq]
  · intro h
    obtain ⟨f, hf, p, hp, -⟩ := h.1 rfl
    cases List.mem_singleton.1 hf
    cases hp
  · intro h
    obtain ⟨p, hp, -⟩ := h.1 rfl
    cases hp

/-! ## What the settled calls leave -/

theorem leaves_conserved_attempts (ts : List Attempt) :
    ((ofAttempts ts).frames.flatMap fun f => f.nodes.flatMap Predicate.leaves) =
        (Call.appended (Attempt.settledCalls ts)).flatMap Predicate.leaves ∧
      ∀ (q : Query) (spec : QuerySpec), q.accumulator = ofAttempts ts → q.build = .ok spec →
        spec.predicate.toList.flatMap Predicate.leaves =
            (Call.appended (Attempt.settledCalls ts)).flatMap Predicate.leaves ∧
          spec.predicateCount = q.accumulator.size := by
  have hl := (leaves_ofAttempts ts).trans (leavesAll_eq_flatMap _)
  refine ⟨(leaves_eq_frames _).symm.trans hl, fun q spec hq h => ?_⟩
  obtain ⟨hleaves, hcount, -⟩ := leaves_built hl hq h
  exact ⟨hleaves, hcount⟩

theorem pruned_ofAttempts {ts : List Attempt}
    (h : ∀ p ∈ Call.appended (Attempt.settledCalls ts), ¬ p.HasEmptyJunction) :
    (ofAttempts ts).Pruned := by
  rw [eq_of_unrouted Pruned (fun _ => rfl) (unrouted_ofAttempts ts)]
  exact pruned_ofCalls h

theorem grows_attempts (ts us : List Attempt) :
    (ofAttempts ts).rootFrame.Grows ((ofAttempts ts).attempts us).rootFrame ∧
      (ofAttempts ts).order <+: ((ofAttempts ts).attempts us).order ∧
      (ofAttempts ts).size ≤ ((ofAttempts ts).attempts us).size := by
  have hts := unrouted_ofAttempts ts
  have hus := unrouted_attempts hts us
  rw [eq_of_unrouted rootFrame (fun _ => rfl) hts, eq_of_unrouted rootFrame (fun _ => rfl) hus,
    eq_of_unrouted order (fun _ => rfl) hts, eq_of_unrouted order (fun _ => rfl) hus,
    eq_of_unrouted size (fun _ => rfl) hts, eq_of_unrouted size (fun _ => rfl) hus]
  exact ⟨grows_rootFrame_run _ _, order_prefix_run _ _, size_le_run _ _⟩

end Accumulator

end Criteria
