import Criteria.Metrics.Program

/-! # Scopes

A program puts back the installed sink, however it ends. So at each of its parts the sink of the
innermost scope is installed, and what is heard is what is read: every event once, by that sink.
-/

namespace Criteria.Program

open Effect Scene

variable {n : Nat} {σ : Type}

section outcome

variable (s : Scene σ) {t : Scene σ} {p : Program n} (ps : List (Program n))

theorem outcome_run_guarded :
    outcome (run (.guarded ps)) s = (.ok (), (outcome (runAll ps) s).2) := by
  rw [run, outcome_bind, outcome_attempt]
  rfl

theorem outcome_runAll_of_ok (h : outcome (run p) s = (.ok (), t)) :
    outcome (runAll (p :: ps)) s = outcome (runAll ps) t := outcome_bind_of_ok s h _

theorem outcome_runAll_of_error {f : Fault} (h : outcome (run p) s = (.error f, t)) :
    outcome (runAll (p :: ps)) s = (.error f, t) := outcome_bind_of_error s h _

end outcome

/-! ## The installed sink -/

mutual

theorem installed_run : ∀ (p : Program n) (s : Scene σ),
    (outcome (run p) s).2.installed = s.installed
  | .emit e, s => by
    obtain ⟨t, h, -, ht, -⟩ := outcome_emit s e
    rw [run, h, ht]
  | .raise f, s => rfl
  | .scope place body, s => by rw [run, outcome_within]
  | .guarded body, s => by rw [outcome_run_guarded, installed_runAll body s]

theorem installed_runAll : ∀ (ps : List (Program n)) (s : Scene σ),
    (outcome (runAll ps) s).2.installed = s.installed
  | [], s => rfl
  | p :: ps, s => by
    have hp := installed_run p s
    rcases h : outcome (run p) s with ⟨⟨⟩ | f, t⟩
    · rw [h] at hp
      rw [outcome_runAll_of_error s ps h, hp]
    · rw [h] at hp
      rw [outcome_runAll_of_ok s ps h, installed_runAll ps t, hp]

end

mutual

theorem Starts.installed {target inner : Option Nat} {p q : Program n} {s u : Scene σ} :
    Starts target p s inner q u → s.installed = target → u.installed = inner
  | .self, h => h
  | .scope hb, _ => hb.installed rfl
  | .guarded hb, h => hb.installed h

theorem StartsAll.installed {target inner : Option Nat} {ps : List (Program n)} {q : Program n}
    {s u : Scene σ} : StartsAll target ps s inner q u → s.installed = target → u.installed = inner
  | .head hp, h => hp.installed h
  | .tail (p := p) hp hps, h => hps.installed (by
    have ht := installed_run p s
    rw [hp] at ht
    exact ht.trans h)

end

/-! ## What is heard -/

mutual

/-- The invariant of a run: what has been sent so far is heard. -/
theorem run_heard (s₀ : Scene σ) : ∀ (p : Program n) (s : Scene σ) (log : Log),
    s₀.Hears s log → ∃ t,
      outcome (run p) s = ((read s₀.breaksOff s.installed log p).1, t) ∧
        s₀.Hears t (read s₀.breaksOff s.installed log p).2
  | .emit e, s, log, h => by
    obtain ⟨t, ht, hs, -⟩ := outcome_emit s e
    refine ⟨t, ?_, h.trans hs⟩
    rw [run, ht, h.breaksOff_eq, read, Log.events_append]
    simp [Log.events]
  | .raise f, s, log, h => ⟨s, rfl, h⟩
  | .scope place body, s, log, h => by
    obtain ⟨t, ht, hs⟩ := runAll_heard s₀ body _ log (h.install (some place))
    refine ⟨{ t with installed := s.installed }, ?_, hs.install _⟩
    rw [run, outcome_within, ht]
    rfl
  | .guarded body, s, log, h => by
    obtain ⟨t, ht, hs⟩ := runAll_heard s₀ body s log h
    refine ⟨t, ?_, hs⟩
    rw [outcome_run_guarded, ht]
    rfl

theorem runAll_heard (s₀ : Scene σ) : ∀ (ps : List (Program n)) (s : Scene σ) (log : Log),
    s₀.Hears s log → ∃ t,
      outcome (runAll ps) s = ((readAll s₀.breaksOff s.installed log ps).1, t) ∧
        s₀.Hears t (readAll s₀.breaksOff s.installed log ps).2
  | [], s, log, h => ⟨s, rfl, h⟩
  | p :: ps, s, log, h => by
    obtain ⟨t, ht, hs⟩ := run_heard s₀ p s log h
    have hi := installed_run p s
    rw [ht] at hi
    rw [readAll]
    rcases hr : read s₀.breaksOff s.installed log p with ⟨f | ⟨⟩, log'⟩
    · rw [hr] at ht hs
      exact ⟨t, outcome_runAll_of_error s ps ht, hs⟩
    · rw [hr] at ht hs
      obtain ⟨u, hu, hs'⟩ := runAll_heard s₀ ps t log' hs
      rw [hi] at hu hs'
      exact ⟨u, (outcome_runAll_of_ok s ps ht).trans hu, hs'⟩

end

/-! ## To whom it is sent -/

mutual

theorem placed_read (breaks : Option Nat → Nat → Bool) : ∀ (p : Program n) (target : Option Nat)
    (log : Log), (∀ i ∈ target, i < n) → log.Placed n → (read breaks target log p).2.Placed n
  | .emit e, target, log, ht, hl => by
    intro d hd
    rcases List.mem_append.mp hd with hd | hd
    · exact hl d hd
    · rwa [List.mem_singleton.mp hd]
  | .raise f, target, log, ht, hl => hl
  | .scope place body, target, log, ht, hl =>
    placed_readAll breaks body (some place) log (by rintro _ ⟨⟩; exact place.isLt) hl
  | .guarded body, target, log, ht, hl => placed_readAll breaks body target log ht hl

theorem placed_readAll (breaks : Option Nat → Nat → Bool) : ∀ (ps : List (Program n))
    (target : Option Nat) (log : Log), (∀ i ∈ target, i < n) → log.Placed n →
      (readAll breaks target log ps).2.Placed n
  | [], target, log, ht, hl => hl
  | p :: ps, target, log, ht, hl => by
    have hp := placed_read breaks p target log ht hl
    rw [readAll]
    rcases hr : read breaks target log p with ⟨f | ⟨⟩, log'⟩
    · rwa [hr] at hp
    · rw [hr] at hp
      exact placed_readAll breaks ps target log' ht hp

end

/-- A program ends as it is read, and what is read is heard: each event that is reached goes to the
one sink of the innermost scope around it, to that installed before the program where there is none,
or to the totals. The installed sink is put back after the program and after each of its parts,
where that of the innermost scope was installed before. -/
theorem events_reach_innermost_scope (s : Scene σ) (hn : s.sinks.length = n)
    (hs : ∀ i ∈ s.installed, i < n) (ps : List (Program n)) :
    let reading := readAll s.breaksOff s.installed [] ps
    ∃ t, outcome (runAll ps) s = (reading.1, t) ∧
      s.Hears t reading.2 ∧ reading.2.Placed t.sinks.length ∧
      t.installed = s.installed ∧
      ∀ inner q u, StartsAll s.installed ps s inner q u →
        u.installed = inner ∧ (outcome (run q) u).2.installed = inner := by
  intro reading
  obtain ⟨t, ht, hh⟩ := runAll_heard s ps s [] (.refl s)
  have hi := installed_runAll ps s
  rw [ht] at hi
  refine ⟨t, ht, hh, ?_, hi, fun inner q u hq => ?_⟩
  · rw [hh.size, hn]
    exact placed_readAll _ ps s.installed [] hs nofun
  · have hu := hq.installed rfl
    exact ⟨hu, (installed_run q u).trans hu⟩

/-- A sink that is taken twice, and one that breaks off in a scope within a scope. -/
theorem events_reach_innermost_scope_of_unwinding :
    let s : Scene Unit :=
      { state := (), sinks := [{}, {}, { failsAt := some 1 }], installed := some 0 }
    let body : List (Program 3) :=
      [.emit (.buildFailed "b"), .scope 2 [.scope 1 [.emit (.buildFailed "c")],
        .emit (.buildFailed "d"), .emit (.buildFailed "e")], .emit (.buildFailed "f")]
    ∃ t, outcome (runAll [.emit (.buildFailed "a"), .guarded [.scope 1 body],
          .emit (.buildFailed "g")]) s = (.ok (), t) ∧ t.installed = some 0 ∧ t.report = {} ∧
      (∃ k, t.sinks[0]? = some k ∧ k.events = [.buildFailed "a", .buildFailed "g"]) ∧
      (∃ k, t.sinks[1]? = some k ∧ k.events = [.buildFailed "b", .buildFailed "c"]) ∧
      ∃ k, t.sinks[2]? = some k ∧ k.events = [.buildFailed "d"] := by
  intro s body
  obtain ⟨t, ht, hh, -, hi, -⟩ := events_reach_innermost_scope s rfl (by decide)
    [.emit (.buildFailed "a"), .guarded [.scope 1 body], .emit (.buildFailed "g")]
  refine ⟨t, ht, hi, hh.report, ?_, ?_, ?_⟩
  · obtain ⟨k, hk, -, he⟩ := hh.sink 0 _ rfl
    exact ⟨k, hk, he⟩
  · obtain ⟨k, hk, -, he⟩ := hh.sink 1 _ rfl
    exact ⟨k, hk, he⟩
  · obtain ⟨k, hk, -, he⟩ := hh.sink 2 _ rfl
    exact ⟨k, hk, he⟩

end Criteria.Program
