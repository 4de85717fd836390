import Mathlib
import Criteria.Path.Basic

/-! # Resolved paths

The segments of a resolved path are those of its qualifier and then its name. A resolved path thus
says which path it is, and the resolved paths are just the qualifiers of further properties.
-/

namespace Criteria

/-! ## Segments -/

section segments

variable {s : List Char}

theorem IsSegment.dot_notMem (h : IsSegment s) : '.' ∉ s := by
  intro hs
  have hf := h.2 '.' hs
  simp [isForbidden] at hf

theorem IsSegment.segments_eq (h : IsSegment s) : segments s = [s] :=
  List.splitOn_eq_singleton h.dot_notMem

theorem segments_append_dot (cs ds : List Char) :
    segments (cs ++ '.' :: ds) = segments cs ++ segments ds :=
  List.splitOn_append_cons_self cs ds

theorem segments_injective : Function.Injective segments :=
  Function.LeftInverse.injective (g := ['.'].intercalate) fun _ => List.intercalate_splitOn '.'

end segments

theorem ne_empty_of_isQualifier {q : String} (h : isQualifier q = true) : q ≠ "" := by
  rintro rfl
  cases h

namespace PropertyPath

/-! ## What is made -/

section made

variable {name q : String}

theorem qualify?_eq_ok (p : PropertyPath) (h : isQualifier q = true) :
    p.qualify? q = .ok ⟨p.name, some q, p.name_ok, by rintro _ ⟨⟩; exact h⟩ := by
  rw [qualify?, if_neg (ne_empty_of_isQualifier h), dif_pos h]

theorem ofQualified?_self (p : PropertyPath) :
    ofQualified? p.name (p.qualifier.getD "") = .ok p := by
  obtain ⟨n, q, hn, hq⟩ := p
  rw [ofQualified?, ofName?_eq_ok hn]
  cases q with
  | none => rfl
  | some q => exact qualify?_eq_ok _ (hq q rfl)

theorem name_eq_of_ofName? {p : PropertyPath} (h : ofName? name = .ok p) : p.name = name := by
  unfold ofName? at h
  split at h
  · cases h
  · split at h
    · cases h
    · obtain rfl := Except.ok.inj h
      rfl

theorem eq_of_qualify? {p p' : PropertyPath} (h : p.qualify? q = .ok p') :
    p'.name = p.name ∧ p'.qualifier.getD "" = q := by
  unfold qualify? at h
  split at h
  · rename_i hq
    obtain rfl := Except.ok.inj h
    exact ⟨rfl, hq.symm⟩
  · split at h
    · obtain rfl := Except.ok.inj h
      exact ⟨rfl, rfl⟩
    · cases h

theorem ofQualified?_eq_ok_iff (p : PropertyPath) :
    ofQualified? name q = .ok p ↔ p.name = name ∧ p.qualifier.getD "" = q := by
  constructor
  · intro h
    cases hn : ofName? name with
    | error e =>
      rw [ofQualified?, hn] at h
      cases h
    | ok p₀ =>
      rw [ofQualified?, hn] at h
      obtain ⟨h₁, h₂⟩ := eq_of_qualify? h
      exact ⟨h₁.trans (name_eq_of_ofName? hn), h₂⟩
  · rintro ⟨rfl, rfl⟩
    exact ofQualified?_self p

theorem declareUnder_self (p : PropertyPath) :
    declareUnder p.name (p.qualifier.getD "") = .ok p := by
  rw [declareUnder_eq, ofQualified?_self]
  rfl

theorem declaredQualifier_eq_ok_iff :
    declaredQualifier q = .ok q ↔ q = "" ∨ isQualifier q = true := by
  unfold declaredQualifier
  split <;> simp_all

end made

/-! ## The segments of a path -/

def outerSegments (p : PropertyPath) : List (List Char) :=
  p.qualifier.elim [] fun q => segments q.toList

theorem isSegment_name (p : PropertyPath) : IsSegment p.name.toList :=
  (isName_iff p.name).mp p.name_ok

theorem isSegment_of_mem_outerSegments {p : PropertyPath} {s : List Char}
    (h : s ∈ p.outerSegments) : IsSegment s := by
  obtain ⟨n, q, hn, hq⟩ := p
  cases q with
  | none => simp [outerSegments] at h
  | some q => exact (isQualifier_iff q).mp (hq q rfl) s h

theorem segments_resolved (p : PropertyPath) :
    segments p.resolved.toList = p.outerSegments ++ [p.name.toList] := by
  have hn := p.isSegment_name.segments_eq
  unfold resolved outerSegments
  cases p.qualifier with
  | none => exact hn
  | some q =>
    have hdot : (q ++ "." ++ p.name).toList = q.toList ++ '.' :: p.name.toList := by simp
    rw [hdot, segments_append_dot, hn]
    rfl

theorem isQualifier_resolved (p : PropertyPath) : isQualifier p.resolved = true := by
  rw [isQualifier_iff, segments_resolved]
  intro s hs
  rcases List.mem_append.mp hs with hs | hs
  · exact isSegment_of_mem_outerSegments hs
  · rw [List.mem_singleton.mp hs]
    exact p.isSegment_name

theorem qualifier_eq_of_outerSegments_eq {p p' : PropertyPath}
    (h : p.outerSegments = p'.outerSegments) : p.qualifier = p'.qualifier := by
  unfold outerSegments at h
  cases hp : p.qualifier with
  | none =>
    cases hp' : p'.qualifier with
    | none => rfl
    | some q' =>
      rw [hp, hp'] at h
      exact absurd h.symm (List.splitOn_ne_nil '.' _)
  | some q =>
    cases hp' : p'.qualifier with
    | none =>
      rw [hp, hp'] at h
      exact absurd h (List.splitOn_ne_nil '.' _)
    | some q' =>
      rw [hp, hp'] at h
      exact congrArg some (String.toList_inj.mp (segments_injective h))

theorem resolved_injective : Function.Injective resolved := by
  intro p p' h
  have hs : p.outerSegments ++ [p.name.toList] = p'.outerSegments ++ [p'.name.toList] := by
    rw [← segments_resolved, ← segments_resolved, h]
  obtain ⟨houter, hname⟩ := List.append_inj' hs rfl
  have hq := qualifier_eq_of_outerSegments_eq houter
  have hn : p.name = p'.name := String.toList_inj.mp (List.singleton_inj.mp hname)
  obtain ⟨n, q, _, _⟩ := p
  obtain ⟨n', q', _, _⟩ := p'
  obtain rfl : n = n' := hn
  obtain rfl : q = q' := hq
  rfl

theorem exists_isQualifier {outer : List (List Char)} (hne : outer ≠ [])
    (h : ∀ s ∈ outer, IsSegment s) : ∃ q, isQualifier q = true ∧ segments q.toList = outer := by
  have hs : segments (String.ofList (['.'].intercalate outer)).toList = outer := by
    rw [String.toList_ofList]
    exact List.splitOn_intercalate '.' (fun s hs => (h s hs).dot_notMem) hne
  refine ⟨_, (isQualifier_iff _).mpr ?_, hs⟩
  rwa [hs]

theorem exists_resolved_eq {t : String} (h : isQualifier t = true) : ∃ p, resolved p = t := by
  have hseg := (isQualifier_iff t).mp h
  obtain ⟨outer, s, hs⟩ : ∃ outer s, segments t.toList = outer ++ [s] :=
    List.eq_nil_or_concat' _ |>.resolve_left (List.splitOn_ne_nil '.' t.toList)
  rw [hs] at hseg
  have hname : IsName (String.ofList s) := by
    rw [isName_iff, String.toList_ofList]
    exact hseg s (by simp)
  -- it is enough to find the segments in front of the name
  suffices ∃ p : PropertyPath, p.name = String.ofList s ∧ p.outerSegments = outer by
    obtain ⟨p, hn, ho⟩ := this
    refine ⟨p, String.toList_inj.mp (segments_injective ?_)⟩
    rw [segments_resolved, hn, ho, String.toList_ofList, hs]
  rcases eq_or_ne outer [] with rfl | hne
  · exact ⟨⟨_, none, hname, by rintro _ ⟨⟩⟩, rfl, rfl⟩
  · obtain ⟨q, hq, hqs⟩ := exists_isQualifier hne fun u hu => hseg u (List.mem_append_left _ hu)
    exact ⟨⟨_, some q, hname, by rintro _ ⟨⟩; exact hq⟩, rfl, hqs⟩

theorem resolved_eq_iff (t : String) : (∃ p, resolved p = t) ↔ isQualifier t = true := by
  constructor
  · rintro ⟨p, rfl⟩
    exact isQualifier_resolved p
  · exact exists_resolved_eq

/-- A resolved path says which path it is: as many paths, as many texts. The texts are the qualifiers
that a property can be declared under, but for the empty one, so each path can be one in turn, and
each qualifier is made in one way of a name and, where it has several segments, a qualifier. -/
theorem resolved_identifies :
    (∀ p : PropertyPath, ofQualified? p.name (p.qualifier.getD "") = .ok p ∧
        declareUnder p.name (p.qualifier.getD "") = .ok p) ∧
      (∀ p p' : PropertyPath, p = p' ↔ p.resolved = p'.resolved) ∧
      (∀ s : Finset PropertyPath, s.card = (s.image resolved).card) ∧
      Set.range resolved = {t | t ≠ "" ∧ declaredQualifier t = .ok t} ∧
      (∀ t, t ≠ "" → declaredQualifier t = .ok t →
        (∃! p : PropertyPath, p.resolved = t) ∧
          ∃! m : String × String, ∃ p, ofQualified? m.1 m.2 = .ok p ∧ p.resolved = t) ∧
      ∀ (p : PropertyPath) (name : String), IsName name →
        ∃ p', ofQualified? name p.resolved = .ok p' ∧
          p'.resolved = p.resolved ++ "." ++ name := by
  have hrange : ∀ t, (∃ p, resolved p = t) ↔ t ≠ "" ∧ declaredQualifier t = .ok t := by
    intro t
    rw [resolved_eq_iff, declaredQualifier_eq_ok_iff]
    exact ⟨fun h => ⟨ne_empty_of_isQualifier h, Or.inr h⟩, fun ⟨hne, h⟩ => h.resolve_left hne⟩
  refine ⟨fun p => ⟨ofQualified?_self p, declareUnder_self p⟩,
    fun p p' => resolved_injective.eq_iff.symm,
    fun s => (Finset.card_image_of_injective s resolved_injective).symm,
    Set.ext hrange, fun t hne ht => ?_, fun p name hname => ?_⟩
  · obtain ⟨p, rfl⟩ := (hrange t).mpr ⟨hne, ht⟩
    refine ⟨⟨p, rfl, fun p' h => resolved_injective h⟩,
      (p.name, p.qualifier.getD ""), ⟨p, ofQualified?_self p, rfl⟩, ?_⟩
    rintro ⟨name, q⟩ ⟨p', hp', hr⟩
    obtain rfl := resolved_injective hr
    obtain ⟨rfl, rfl⟩ := (ofQualified?_eq_ok_iff p').mp hp'
    rfl
  · let p' : PropertyPath :=
      ⟨name, some p.resolved, hname, by rintro _ ⟨⟩; exact isQualifier_resolved p⟩
    exact ⟨p', ofQualified?_self p', rfl⟩

/-- A text with wide characters and a segment that is a vertical tab, and a path that qualifies
another one. -/
theorem resolved_identifies_of_wide_segments :
    (∃! m : String × String, ∃ p,
        ofQualified? m.1 m.2 = .ok p ∧ p.resolved = "größe.\u000b.東京") ∧
      ∃ p p' : PropertyPath, ofQualified? "address" "customer" = .ok p ∧
        ofQualified? "code" p.resolved = .ok p' ∧ p'.resolved = "customer.address.code" := by
  obtain ⟨-, -, -, -, hsplit, hqualify⟩ := resolved_identifies
  let p : PropertyPath := ⟨"address", some "customer", ⟨by decide, by decide⟩, by decide⟩
  obtain ⟨p', hp', hr⟩ := hqualify p "code" ⟨by decide, by decide⟩
  exact ⟨(hsplit _ (by decide) (by decide)).2, p, p', rfl, hp', hr.trans (by decide)⟩

end PropertyPath

end Criteria
