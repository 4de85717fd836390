import Criteria.Proofs.Quoted
import Criteria.Proofs.Recording
import Criteria.Proofs.Resolution
import Criteria.Proofs.Watching

/-! # Traces on one line

No value can break a trace into lines. Paths are printed as they are, but no path holds a line
break; values may hold any character, but they are printed escaped.
-/

namespace Criteria

/-! ## Texts without line breaks -/

namespace Text

def OneLine (s : String) : Prop := ∀ c ∈ s.toList, c ≠ '\n' ∧ c ≠ '\r'

def IsLine (text : String) : Prop := ∃ line, text = line ++ "\n" ∧ OneLine line

theorem oneLine_append {s t : String} : OneLine (s ++ t) ↔ OneLine s ∧ OneLine t := by
  simp only [OneLine, String.toList_append, List.forall_mem_append]

theorem oneLine_join {xs : List String} (h : ∀ x ∈ xs, OneLine x) : OneLine (String.join xs) := by
  intro c hc
  rw [String.toList_join, List.mem_flatMap] at hc
  obtain ⟨x, hx, hc⟩ := hc
  exact h x hx c hc

theorem oneLine_intercalate {sep : String} (hsep : OneLine sep) {xs : List String}
    (h : ∀ x ∈ xs, OneLine x) : OneLine (sep.intercalate xs) := by
  intro c hc
  rw [String.toList_intercalate] at hc
  cases xs with
  | nil => simp at hc
  | cons x xs =>
    rw [List.map_cons, intercalate_cons, List.mem_append, List.mem_flatMap] at hc
    rcases hc with hc | ⟨y, hy, hc⟩
    · exact h x List.mem_cons_self c hc
    · obtain ⟨z, hz, rfl⟩ := List.mem_map.1 hy
      rcases List.mem_append.1 hc with hc | hc
      · exact hsep c hc
      · exact h z (List.mem_cons_of_mem _ hz) c hc

theorem oneLine_toString (n : Nat) : OneLine (toString n) := by
  intro c hc
  have hc : c ∈ Nat.toDigits 10 n := by simpa using hc
  have hdigit := Nat.isDigit_of_mem_toDigits (by decide) (by decide) hc
  constructor
  · rintro rfl
    exact absurd hdigit (by decide)
  · rintro rfl
    exact absurd hdigit (by decide)

theorem ne_break_of_mem_codePointEscape {c d : Char} (h : d ∈ codePointEscape c) :
    d ≠ '\n' ∧ d ≠ '\r' := by
  have hdigit : ∀ n < 16, Nat.digitChar n ≠ '\n' ∧ Nat.digitChar n ≠ '\r' := by decide
  simp only [codePointEscape, List.mem_append, List.mem_cons, List.not_mem_nil, or_false] at h
  rcases h with ((rfl | rfl | rfl) | h) | rfl
  · decide
  · decide
  · decide
  · obtain ⟨n, hn, rfl⟩ := exists_digit_of_mem_toDigits h
    exact hdigit n hn
  · decide

/-- The two breaks are written by their letters, whatever has a glyph. -/
theorem ne_break_of_mem_escapeChar {c d : Char} (h : d ∈ escapeChar '"' c) :
    d ≠ '\n' ∧ d ≠ '\r' := by
  have hpair {e : Char} (he : e ≠ '\n' ∧ e ≠ '\r') (h : d ∈ ['\\', e]) : d ≠ '\n' ∧ d ≠ '\r' := by
    rcases List.mem_pair.1 h with rfl | rfl
    · decide
    · exact he
  unfold escapeChar at h
  split_ifs at h with h0 ht hr hn hb hq hg
  · exact hpair (by decide) h
  · exact hpair (by decide) h
  · exact hpair (by decide) h
  · exact hpair (by decide) h
  · exact hpair (by decide) h
  · exact hpair (by decide) h
  · obtain rfl := List.mem_singleton.1 h
    exact ⟨hn, hr⟩
  · exact ne_break_of_mem_codePointEscape h

theorem oneLine_quote (s : String) : OneLine (quote s) := by
  intro c hc
  rw [quote, String.toList_ofList, List.mem_append, List.mem_cons, List.mem_singleton] at hc
  rcases hc with (rfl | hc) | rfl
  · decide
  · obtain ⟨d, -, hd⟩ := List.mem_flatMap.1 hc
    exact ne_break_of_mem_escapeChar hd
  · decide

theorem oneLine_quoteList (xs : List String) : OneLine (quoteList xs) := by
  simp only [quoteList, oneLine_append]
  have hxs : OneLine (", ".intercalate (xs.map quote)) := by
    refine oneLine_intercalate (by simp [OneLine]) fun x hx => ?_
    obtain ⟨y, -, rfl⟩ := List.mem_map.1 hx
    exact oneLine_quote y
  exact ⟨⟨by simp [OneLine], hxs⟩, by simp [OneLine]⟩

end Text

open Text

/-! ## Paths -/

theorem isPathSpace_of_scanSegments {before : Char} {cs : List Char}
    (h : scanSegments before cs = true) : ∀ c ∈ cs, isPathSpace c = false := by
  induction cs generalizing before with
  | nil => nofun
  | cons c cs ih =>
    rw [scanSegments] at h
    split_ifs at h with hbad hdots
    obtain ⟨-, hspace⟩ : c ≠ '#' ∧ isPathSpace c = false := by simpa using hbad
    exact List.forall_mem_cons.2 ⟨hspace, ih h⟩

theorem PropertyPath.oneLine_resolved (p : PropertyPath) : OneLine p.resolved := by
  have hspace : isPathSpace '\n' = true ∧ isPathSpace '\r' = true := by decide
  intro c hc
  have hc := isPathSpace_of_scanSegments p.isQualifier_resolved c hc
  constructor
  · rintro rfl
    cases hc.symm.trans hspace.1
  · rintro rfl
    cases hc.symm.trans hspace.2

/-! ## What is printed -/

theorem Leaf.oneLine_print {l : Leaf} (h : OneLine l.path) : OneLine l.print := by
  cases l with
  | compare c =>
    have hop : OneLine c.op.symbol := by cases c.op <;> simp [OneLine, CompareOp.symbol]
    have hcasing : OneLine (if c.casing.isInsensitive then "_ci" else "") := by
      split <;> simp [OneLine]
    simp only [print, oneLine_append]
    exact ⟨⟨⟨⟨⟨h, by simp [OneLine]⟩, hop⟩, hcasing⟩, by simp [OneLine]⟩, oneLine_quote c.value⟩
  | textMatch path value =>
    simp only [print, oneLine_append]
    exact ⟨⟨h, by simp [OneLine]⟩, oneLine_quote value⟩
  | isNull path => exact oneLine_append.2 ⟨h, by simp [OneLine]⟩
  | isNotNull path => exact oneLine_append.2 ⟨h, by simp [OneLine]⟩
  | inList path values =>
    simp only [print, oneLine_append]
    exact ⟨⟨h, by simp [OneLine]⟩, oneLine_quoteList values⟩

namespace Predicate

mutual

theorem oneLine_print : ∀ {p : Predicate}, (∀ l ∈ p.leaves, OneLine l.path) → OneLine p.print
  | leaf l, h => Leaf.oneLine_print (h l (List.mem_singleton_self l))
  | junction kind nodes, h => by
    have hopening : OneLine kind.opening := by cases kind <;> simp [OneLine, JunctionKind.opening]
    have hsep : OneLine kind.separator := by cases kind <;> simp [OneLine, JunctionKind.separator]
    have hnodes := oneLine_printAll hsep h
    simp only [print, oneLine_append]
    exact ⟨⟨⟨hopening, by simp [OneLine]⟩, hnodes⟩, by simp [OneLine]⟩

theorem oneLine_printAll {sep : String} (hsep : OneLine sep) :
    ∀ {ps : List Predicate}, (∀ l ∈ leavesAll ps, OneLine l.path) → OneLine (printAll sep ps)
  | [], _ => by simp [OneLine, printAll]
  | p :: ps, h => by
    rw [leavesAll, List.forall_mem_append] at h
    exact oneLine_append.2 ⟨oneLine_print h.1, oneLine_printRest hsep h.2⟩

theorem oneLine_printRest {sep : String} (hsep : OneLine sep) :
    ∀ {ps : List Predicate}, (∀ l ∈ leavesAll ps, OneLine l.path) → OneLine (printRest sep ps)
  | [], _ => by simp [OneLine, printRest]
  | p :: ps, h => by
    rw [leavesAll, List.forall_mem_append] at h
    simp only [printRest, oneLine_append]
    exact ⟨⟨hsep, oneLine_print h.1⟩, oneLine_printRest hsep h.2⟩

end

end Predicate

theorem OrderTerm.oneLine_print {t : OrderTerm} (h : OneLine t.path) : OneLine t.print := by
  have hdirection : OneLine t.direction.symbol := by
    cases t.direction <;> simp [OneLine, OrderDirection.symbol]
  simp only [print, oneLine_append]
  exact ⟨⟨h, by simp [OneLine]⟩, hdirection⟩

theorem QueryError.oneLine_message (e : QueryError) : OneLine e.message := by
  cases e with
  | unclosedJunction depth =>
    refine oneLine_join (List.forall_mem_cons.2 ⟨oneLine_toString depth, ?_⟩)
    simp [OneLine]
  | unbalancedJunction => simp [OneLine, message]
  | tooManyPredicates limit count =>
    refine oneLine_join ?_
    simp only [List.forall_mem_cons]
    exact ⟨by simp [OneLine], oneLine_toString count, by simp [OneLine], oneLine_toString limit,
      nofun⟩

theorem QuerySpec.oneLine_explain {s : QuerySpec} (hentity : OneLine s.entity)
    (hleaves : ∀ l ∈ Predicate.leavesAll s.predicate.toList, OneLine l.path)
    (horder : ∀ t ∈ s.order, OneLine t.path) : OneLine s.explain := by
  have hroute : OneLine s.route.symbol := by cases s.route <;> simp [OneLine, Route.symbol]
  simp only [explain, oneLine_append]
  refine ⟨⟨⟨⟨⟨by simp [OneLine], hentity⟩, by simp [OneLine]⟩, hroute⟩, ?_⟩, ?_⟩
  · cases hp : s.predicate with
    | none => simp [OneLine]
    | some p =>
      rw [hp, Option.toList_some, Predicate.leavesAll_singleton] at hleaves
      exact oneLine_append.2 ⟨by simp [OneLine], Predicate.oneLine_print hleaves⟩
  · cases ho : s.order with
    | nil => simp [OneLine]
    | cons t ts =>
      refine oneLine_append.2 ⟨by simp [OneLine], oneLine_intercalate (by simp [OneLine]) ?_⟩
      intro x hx
      obtain ⟨u, hu, rfl⟩ := List.mem_map.1 hx
      exact OrderTerm.oneLine_print (horder u (ho ▸ hu))

/-! ## Queries -/

/-- No text that a trace shows as it is has a line break. -/
structure Query.PlainNames (q : Query) : Prop where
  entity : OneLine q.entity
  leaves : ∀ l ∈ q.accumulator.leaves, OneLine l.path
  order : ∀ t ∈ q.accumulator.order, OneLine t.path

namespace Query.PlainNames

variable {q : Query}

theorem new {entity : String} (h : OneLine entity) (config : Config) :
    (Query.new entity config).PlainNames :=
  ⟨h, List.forall_mem_nil _, List.forall_mem_nil _⟩

theorem enableDebug (h : q.PlainNames) : q.enableDebug.PlainNames := ⟨h.entity, h.leaves, h.order⟩

/-- A call that is only noticed has left no name yet. -/
theorem notice (h : q.PlainNames) (c : Call) :
    { q with accumulator := q.accumulator.notice c }.PlainNames := by
  have hviews : (q.accumulator.notice c).leaves = q.accumulator.leaves ∧
      (q.accumulator.notice c).order = q.accumulator.order := by
    cases c with
    | append p =>
      simp only [Accumulator.notice]
      split <;> exact ⟨rfl, rfl⟩
    | _ => exact ⟨rfl, rfl⟩
  exact ⟨h.entity, hviews.1 ▸ h.leaves, hviews.2 ▸ h.order⟩

theorem apply (h : q.PlainNames) {c : Call} (hleaves : ∀ l ∈ c.leaves, OneLine l.path)
    (hterms : ∀ t ∈ c.terms, OneLine t.path) : (q.apply c).PlainNames := by
  refine ⟨h.entity, ?_, ?_⟩
  · rw [Query.apply, Accumulator.leaves_apply, List.forall_mem_append]
    exact ⟨h.leaves, hleaves⟩
  · rw [Query.apply, Accumulator.order_apply, List.forall_mem_append]
    exact ⟨h.order, hterms⟩

theorem explain (h : q.PlainNames) : OneLine q.explain := by
  unfold Query.explain
  cases hb : q.build with
  | error e =>
    simp only [oneLine_append]
    exact ⟨⟨⟨by simp [OneLine], h.entity⟩, by simp [OneLine]⟩, e.oneLine_message⟩
  | ok spec =>
    have hleaves := leavesAll_build hb
    obtain ⟨done, hf, rfl⟩ := (build_eq_ok_iff q spec).mp hb
    obtain ⟨-, -, -, rfl⟩ := (Accumulator.finish_eq_ok_iff _ _ _).mp hf
    exact QuerySpec.oneLine_explain h.entity (hleaves ▸ h.leaves) h.order

theorem isLine_trace (h : q.PlainNames) :
    ∃ text, IsLine text ∧ q.trace? = if q.debug then some text else none :=
  ⟨_, ⟨"[debug] " ++ q.explain, rfl, oneLine_append.2 ⟨by simp [OneLine], h.explain⟩⟩, rfl⟩

theorem isLine_of_mem_trace (h : q.PlainNames) {text : String} (ht : q.trace? = some text) :
    IsLine text := by
  obtain ⟨line, hline, htrace⟩ := h.isLine_trace
  rw [htrace] at ht
  split at ht
  · exact Option.some.inj ht ▸ hline
  · cases ht

end Query.PlainNames

/-! ## Sessions

What is done with a query from outside: properties are asked for operations, junctions are started
and ended, and the query is built at any time and as often as wanted. A move that faults is over,
and the session goes on with the next one.
-/

theorem Leaf.path_of_test? {l : Leaf} {t : Test} (h : l.test? = some t) : l.path = t.path := by
  cases l with
  | compare c =>
    obtain ⟨m, -, rfl⟩ := Option.map_eq_some_iff.1 h
    rfl
  | _ => cases h; rfl

namespace Script

open Effect

def Result.printed : Result → List String
  | built _ trace => trace.toList
  | _ => []

inductive Move : Type 1
  | link (l : Link)
  | enableDebug
  | build

def Move.perform (i : Nat) : Move → Effect Pool Result
  | link l => do
    l.perform i
    return .nothing
  | enableDebug => Script.perform i (.enableDebug : Act String)
  | build => Script.perform i (.build : Act String)

def Move.traces : Move → Bool
  | enableDebug => true
  | link _ | build => false

def runSession (i : Nat) : List Move → Effect Pool (List String)
  | [] => return []
  | m :: ms => do
    let printed := Result.printed (.ofOutcome (← attempt (m.perform i)))
    return printed ++ (← runSession i ms)

theorem Link.plainNames_apply (l : Link) {q : Query} (h : q.PlainNames) :
    (q.apply l.request.lower).PlainNames := by
  cases l with
  | start kind =>
    rw [Link.request, Call.opening_eq]
    exact h.apply (List.forall_mem_nil _) (List.forall_mem_nil _)
  | close => exact h.apply (List.forall_mem_nil _) (List.forall_mem_nil _)
  | operate p op =>
    have hpath := p.path.oneLine_resolved
    rcases op.exists_method_or_direction with ⟨m, hm⟩ | ⟨d, hd⟩
    · obtain ⟨leaf, hlower, htest⟩ := Request.lower_of_test? (p.test?_request hm)
      have hleaf := Leaf.path_of_test? htest
      rw [Link.request, hlower]
      refine h.apply ?_ (List.forall_mem_nil _)
      simp only [Call.leaves, Predicate.leaves, List.forall_mem_singleton, hleaf]
      exact hpath
    · rw [Link.request, p.request_of_direction? hd]
      refine h.apply (List.forall_mem_nil _) ?_
      simp only [Request.lower, Call.terms, List.forall_mem_singleton]
      exact hpath

variable {s : Scene Pool} {i : Nat} {q : Query}

structure Keeps (m : Move) (q : Query) (x : Except Fault Result) (p : Query) : Prop where
  names : p.PlainNames
  debug : q.debug = true ∨ m.traces = true → p.debug = true
  printed : ∀ text ∈ (Result.ofOutcome x).printed, IsLine text

theorem keeps_link (hq : s.state[i]? = some (.query q)) (h : q.PlainNames) (l : Link) :
    ∃ x t p, outcome ((Move.link l).perform i) s = (x, t) ∧ t.state[i]? = some (.query p) ∧
      Keeps (.link l) q x p := by
  obtain ⟨x, t, -, ht, hst, -, -⟩ := outcome_ask_query hq ⟨rfl, rfl, fun _ => rfl⟩ l.request
  have hlink : outcome (l.perform i) s = (x, t) := (outcome_perform l).trans ht
  have hget (root : Root) : (s.state.set i root)[i]? = some root :=
    List.getElem?_set_self (List.getElem?_eq_some_iff.mp hq).1
  have hperform : (Move.link l).perform i = (do
      l.perform i
      return .nothing) := rfl
  rw [hperform, outcome_bind, hlink]
  cases x with
  | error f =>
    exact ⟨.error f, t, _, rfl, hst ▸ hget _, h.notice _, (·.elim id nofun), nofun⟩
  | ok u =>
    exact ⟨.ok .nothing, t, _, rfl, hst ▸ hget _, l.plainNames_apply h, (·.elim id nofun), nofun⟩

theorem keeps_enableDebug (hq : s.state[i]? = some (.query q)) (h : q.PlainNames) :
    ∃ x t p, outcome (Move.enableDebug.perform i) s = (x, t) ∧ t.state[i]? = some (.query p) ∧
      Keeps .enableDebug q x p := by
  refine ⟨.ok .nothing, { s with state := s.state.modifyQuery i Query.enableDebug },
    q.enableDebug, rfl, ?_, h.enableDebug, fun _ => rfl, nofun⟩
  rw [Pool.modifyQuery, Pool.modify_eq_set hq]
  exact List.getElem?_set_self (List.getElem?_eq_some_iff.mp hq).1

theorem keeps_build (hq : s.state[i]? = some (.query q)) (h : q.PlainNames) :
    ∃ x t p, outcome (Move.build.perform i) s = (x, t) ∧ t.state[i]? = some (.query p) ∧
      Keeps .build q x p := by
  have hlooks : Looks (Script.perform i (.build : Act String)) := looks_perform i rfl nofun
  have hst := (hlooks s).1
  have hq' := (Pool.query?_eq_some_iff _ _ _).mpr hq
  rcases outcome_build_cases q s with ⟨t, ht⟩ | ⟨-, f, t, ht⟩
  · have hb := outcome_perform_build_of_ok String hq' ht
    rw [hb] at hst
    refine ⟨_, t, q, hb, hst ▸ hq, h, (·.elim id nofun), fun text htext => ?_⟩
    exact h.isLine_of_mem_trace (Option.mem_toList.1 htext)
  · have hb := outcome_perform_build_of_error String hq' ht
    rw [hb] at hst
    exact ⟨_, t, q, hb, hst ▸ hq, h, (·.elim id nofun), nofun⟩

theorem outcome_move (hq : s.state[i]? = some (.query q)) (h : q.PlainNames) (m : Move) :
    ∃ x t p, outcome (m.perform i) s = (x, t) ∧ t.state[i]? = some (.query p) ∧ Keeps m q x p := by
  cases m with
  | link l => exact keeps_link hq h l
  | enableDebug => exact keeps_enableDebug hq h
  | build => exact keeps_build hq h

theorem outcome_session (hq : s.state[i]? = some (.query q)) (h : q.PlainNames) (ms : List Move) :
    ∃ printed t p, outcome (runSession i ms) s = (.ok printed, t) ∧
      t.state[i]? = some (.query p) ∧ p.PlainNames ∧
      (q.debug = true ∨ ms.any Move.traces = true → p.debug = true) ∧
      ∀ text ∈ printed, IsLine text := by
  induction ms generalizing s q with
  | nil => exact ⟨[], s, q, rfl, hq, h, (·.elim id nofun), nofun⟩
  | cons m ms ih =>
    obtain ⟨x, t, p, ht, hp, hkeeps⟩ := outcome_move hq h m
    obtain ⟨printed, u, p', hu, hp', hnames, hdebug, hlines⟩ := ih hp hkeeps.names
    have hattempt : outcome (attempt (m.perform i)) s = (.ok x, t) := by rw [outcome_attempt, ht]
    refine ⟨(Result.ofOutcome x).printed ++ printed, u, p', ?_, hp', hnames, fun hd => ?_, ?_⟩
    · rw [runSession, outcome_bind_of_ok s hattempt, outcome_bind_of_ok t hu]
      rfl
    · rw [List.any_cons, Bool.or_eq_true, ← or_assoc] at hd
      exact hdebug (hd.imp_left hkeeps.debug)
    · rw [List.forall_mem_append]
      exact ⟨hkeeps.printed, hlines⟩

/-- Whatever properties are asked for, with any values, and however junctions are opened and closed,
each build of a query prints one line if it is traced, and nothing else is printed. It does not
matter whether the build succeeds. The name of the entity may not hold a line break of its own. -/
theorem traces_stay_on_one_line {entity : String} (hentity : OneLine entity) (config : Config)
    (hq : s.state[i]? = some (.query (.new entity config))) (ms : List Move) :
    ∃ printed t q, outcome (runSession i ms) s = (.ok printed, t) ∧
      (∀ text ∈ printed, IsLine text) ∧
      t.state[i]? = some (.query q) ∧
      (config.debug = true ∨ ms.any Move.traces = true → q.debug = true) ∧
      (q.debug = true → ∃ text, q.trace? = some text ∧ IsLine text) := by
  obtain ⟨printed, t, q, ht, hq', hnames, hdebug, hlines⟩ :=
    outcome_session hq (.new hentity config) ms
  refine ⟨printed, t, q, ht, hlines, hq', hdebug, fun hd => ?_⟩
  obtain ⟨text, htext, htrace⟩ := hnames.isLine_trace
  exact ⟨text, by rw [htrace, if_pos hd], htext⟩

/-- A value that looks like a line of its own, a build that fails on it and one that succeeds. -/
theorem traces_stay_on_one_line_of_forged_line :
    let path : PropertyPath := ⟨"note", some "meta", ⟨by decide, by decide⟩, by decide⟩
    let p : Property := ⟨path, "String"⟩
    let forged : Operation String := .text .like "x\r\n[debug] query Customer route=primary\n"
    let listed : Operation Char := .inList ['\n', '\r']
    let ms : List Move := [.link (.start .not), .link (.operate p forged), .build,
      .link (.operate p listed), .link .close, .enableDebug, .build, .build]
    let s : Scene Pool := { state := [.query (.new "Customer" { debug := true })] }
    ∃ printed t, outcome (runSession 0 ms) s = (.ok printed, t) ∧ printed.length = 3 ∧
      ∀ text ∈ printed, IsLine text := by
  intro path p forged listed ms s
  have hentity : OneLine "Customer" := by simp [OneLine]
  obtain ⟨printed, t, q, ht, hlines, -⟩ :=
    traces_stay_on_one_line (s := s) (i := 0) hentity { debug := true } rfl ms
  obtain rfl : _ = printed := Except.ok.inj (congrArg Prod.fst ht)
  exact ⟨_, t, ht, rfl, hlines⟩

end Script

end Criteria
