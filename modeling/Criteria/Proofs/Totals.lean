import Mathlib
import Criteria.Script.Ledger

/-! # Totals

A counter says how many happenings of its kind there were, up to the largest word. Every happening
keeps a report exact, so a report that starts cleared is exact for the whole ledger.
-/

namespace Criteria

/-! ## One counter -/

namespace Counter

/-- A counter says how many there are, or stays at the largest word when there are more. -/
def Shows (c : Counter) (n : Nat) : Prop := c.toNat = min n (UInt64.size - 1)

theorem toNat_add (c : Counter) (n : Nat) :
    (c.add n).toNat = min (c.toNat + n) (UInt64.size - 1) := by
  have hlt : min (c.toNat + n) (UInt64.size - 1) < UInt64.size := by
    have hpos : 0 < UInt64.size := by decide
    omega
  exact UInt64.toNat_ofNat_of_lt hlt

theorem add_zero (c : Counter) : c.add 0 = c := by
  have hlt := c.toNat_lt_size
  apply UInt64.toNat_inj.mp
  rw [toNat_add]
  omega

variable {c : Counter} {n : Nat}

theorem Shows.toNat_eq (h : c.Shows n) (hn : n < UInt64.size) : c.toNat = n := by
  unfold Shows at h
  omega

theorem Shows.add (h : c.Shows n) (m : Nat) : (c.add m).Shows (n + m) := by
  unfold Shows at h ⊢
  rw [toNat_add]
  omega

theorem Shows.countP_concat {hs : List Happening} {p : Happening → Bool}
    (h : c.Shows (hs.countP p)) (x : Happening) : (c.addIf (p x)).Shows ((hs ++ [x]).countP p) := by
  rw [List.countP_append, List.countP_singleton]
  cases p x with
  | false => exact h
  | true => exact h.add 1

theorem Shows.sum_concat {hs : List Happening} {size : Happening → Nat}
    (h : c.Shows (hs.map size).sum) (x : Happening) :
    (c.add (size x)).Shows ((hs ++ [x]).map size).sum := by
  rw [List.map_append, List.sum_append, List.map_singleton, List.sum_singleton]
  exact h.add (size x)

end Counter

open Happening

/-! ## What a happening adds -/

def EntityCounters.note (c : EntityCounters) (x : Happening) : EntityCounters :=
  { queriesBuilt := c.queriesBuilt.addIf (x.builds fun _ => true)
    predicatesBuilt := c.predicatesBuilt.add x.size
    buildFailures := c.buildFailures.addIf x.fails }

namespace Report

def note (r : Report) (x : Happening) : Report := x.event?.elim r r.tally

theorem ops_note (r : Report) (x : Happening) :
    (r.note x).ops =
      { predicatesAppended := r.ops.predicatesAppended.addIf (x.appends fun _ => true)
        patternPredicates := r.ops.patternPredicates.addIf (x.appends Leaf.isPattern)
        caseInsensitivePredicates :=
          r.ops.caseInsensitivePredicates.addIf (x.appends Leaf.isInsensitive)
        textMatches := r.ops.textMatches.addIf (x.appends Leaf.isTextMatch)
        junctionsOpened := r.ops.junctionsOpened.addIf x.opens
        queriesBuilt := r.ops.queriesBuilt.addIf (x.builds fun _ => true)
        docStoreRoutes := r.ops.docStoreRoutes.addIf (x.builds QuerySpec.isDocStore)
        buildFailures := r.ops.buildFailures.addIf x.fails } := by
  cases x with
  | called c =>
    cases c with
    | append p =>
      cases p with
      | leaf l => cases l <;> rfl
      | junction kind nodes => rfl
    | orderBy t => rfl
    | startJunction kind => rfl
    | endJunction => rfl
  | built entity outcome =>
    cases outcome <;> rfl

theorem entities_note (r : Report) (x : Happening) :
    (r.note x).entities = x.entity?.elim r.entities fun e => r.entities.update e (·.note x) := by
  cases x with
  | called c =>
    cases c with
    | append p => cases p <;> rfl
    | orderBy t => rfl
    | startJunction kind => rfl
    | endJunction => rfl
  | built entity outcome =>
    cases outcome with
    | ok spec => rfl
    | error e =>
      have hc : ∀ c : EntityCounters, c.note (.built entity (.error e)) =
          { c with buildFailures := c.buildFailures.add 1 } := fun c =>
        congrArg (EntityCounters.mk c.queriesBuilt · _) c.predicatesBuilt.add_zero
      simp only [entity?, Option.elim_some, hc]
      rfl

end Report

/-! ## Exact reports -/

structure EntityCounters.Exact (c : EntityCounters) (hs : List Happening) : Prop where
  queriesBuilt : c.queriesBuilt.Shows (hs.countP (·.builds fun _ => true))
  predicatesBuilt : c.predicatesBuilt.Shows (hs.map Happening.size).sum
  buildFailures : c.buildFailures.Shows (hs.countP Happening.fails)

structure OperationCounters.Exact (c : OperationCounters) (hs : List Happening) : Prop where
  predicatesAppended : c.predicatesAppended.Shows (hs.countP (·.appends fun _ => true))
  patternPredicates : c.patternPredicates.Shows (hs.countP (·.appends Leaf.isPattern))
  caseInsensitivePredicates :
    c.caseInsensitivePredicates.Shows (hs.countP (·.appends Leaf.isInsensitive))
  textMatches : c.textMatches.Shows (hs.countP (·.appends Leaf.isTextMatch))
  junctionsOpened : c.junctionsOpened.Shows (hs.countP Happening.opens)
  queriesBuilt : c.queriesBuilt.Shows (hs.countP (·.builds fun _ => true))
  docStoreRoutes : c.docStoreRoutes.Shows (hs.countP (·.builds QuerySpec.isDocStore))
  buildFailures : c.buildFailures.Shows (hs.countP Happening.fails)

/-- An entity has an entry exactly where it has builds, and the entry is about these. -/
structure Report.Exact (r : Report) (hs : List Happening) : Prop where
  ops : r.ops.Exact hs
  entry_isSome : ∀ e, (r.entities.get? e).isSome ↔ ofEntity e hs ≠ []
  entry : ∀ e c, r.entities.get? e = some c → c.Exact (ofEntity e hs)

theorem EntityCounters.exact_nil : Exact {} [] := ⟨rfl, rfl, rfl⟩

theorem EntityCounters.Exact.note {c : EntityCounters} {hs : List Happening} (h : c.Exact hs)
    (x : Happening) : (c.note x).Exact (hs ++ [x]) :=
  ⟨h.queriesBuilt.countP_concat x, h.predicatesBuilt.sum_concat x, h.buildFailures.countP_concat x⟩

theorem ofEntity_ne_nil_iff (e : String) (hs : List Happening) :
    ofEntity e hs ≠ [] ↔ e ∈ hs.filterMap Happening.entity? := by
  simp [ofEntity, List.filter_eq_nil_iff]

theorem Happening.entity?_of_builds {p : QuerySpec → Bool} :
    ∀ x : Happening, x.builds p = true → ∃ e, x.entity? = some e
  | called _, h => nomatch h
  | built e _, _ => ⟨e, rfl⟩

theorem Happening.entity?_of_fails : ∀ x : Happening, x.fails = true → ∃ e, x.entity? = some e
  | called _, h => nomatch h
  | built e _, _ => ⟨e, rfl⟩

theorem ofEntity_concat (e : String) (hs : List Happening) (x : Happening) :
    ofEntity e (hs ++ [x]) = ofEntity e hs ++ if x.entity? = some e then [x] else [] := by
  rw [ofEntity, List.filter_append, List.filter_singleton]
  simp [ofEntity]

namespace Report

theorem get?_note (r : Report) (x : Happening) (e : String) :
    (r.note x).entities.get? e =
      if x.entity? = some e then some (((r.entities.get? e).getD {}).note x)
      else r.entities.get? e := by
  rw [entities_note]
  cases x.entity? with
  | none => rfl
  | some e' =>
    refine (r.entities.sorted.lookup_update e).trans ?_
    by_cases he : e = e'
    · subst he
      rw [if_pos rfl, if_pos rfl]
      rfl
    · rw [if_neg he, if_neg fun h => he (Option.some.inj h).symm]
      rfl

theorem exact_nil : Exact {} [] :=
  ⟨⟨rfl, rfl, rfl, rfl, rfl, rfl, rfl, rfl⟩,
    fun _ => by simp [EntityTable.get?, EntityTable.empty, ofEntity], nofun⟩

theorem Exact.getD {r : Report} {hs : List Happening} (h : r.Exact hs) (e : String) :
    ((r.entities.get? e).getD {}).Exact (ofEntity e hs) := by
  cases hc : r.entities.get? e with
  | none =>
    have he : ofEntity e hs = [] := by
      by_contra hne
      have hsome := (h.entry_isSome e).mpr hne
      rw [hc] at hsome
      cases hsome
    rw [he]
    exact EntityCounters.exact_nil
  | some c => exact h.entry e c hc

theorem Exact.note {r : Report} {hs : List Happening} (h : r.Exact hs) (x : Happening) :
    (r.note x).Exact (hs ++ [x]) := by
  refine ⟨?_, fun e => ?_, fun e c hc => ?_⟩
  · rw [ops_note]
    exact ⟨h.ops.predicatesAppended.countP_concat x, h.ops.patternPredicates.countP_concat x,
      h.ops.caseInsensitivePredicates.countP_concat x, h.ops.textMatches.countP_concat x,
      h.ops.junctionsOpened.countP_concat x, h.ops.queriesBuilt.countP_concat x,
      h.ops.docStoreRoutes.countP_concat x, h.ops.buildFailures.countP_concat x⟩
  · rw [get?_note, ofEntity_concat]
    split
    · simp
    · rw [List.append_nil]
      exact h.entry_isSome e
  · rw [get?_note] at hc
    rw [ofEntity_concat]
    by_cases hx : x.entity? = some e
    · rw [if_pos hx] at hc ⊢
      rw [← Option.some.inj hc]
      exact (h.getD e).note x
    · rw [if_neg hx] at hc ⊢
      rw [List.append_nil]
      exact h.entry e c hc

theorem foldl_tally_filterMap (r : Report) (hs : List Happening) :
    (hs.filterMap Happening.event?).foldl tally r = hs.foldl note r := by
  rw [List.foldl_filterMap]
  congr
  funext r x
  unfold note
  cases x.event? <;> rfl

theorem exact_foldl_note (hs : List Happening) : (hs.foldl note {}).Exact hs := by
  induction hs using List.reverseRecOn with
  | nil => exact exact_nil
  | append_singleton hs x ih =>
    rw [List.foldl_append]
    exact ih.note x

/-! ## Sums over the entities -/

theorem countP_ofEntity_cons (p : Happening → Bool) (e : String) (x : Happening)
    (hs : List Happening) :
    (ofEntity e (x :: hs)).countP p =
      (ofEntity e hs).countP p + if x.entity? = some e ∧ p x = true then 1 else 0 := by
  by_cases hx : x.entity? = some e
  · simp [ofEntity, hx, List.countP_cons]
  · simp [ofEntity, hx]

theorem sum_countP_ofEntity {names : List String} (hn : names.Nodup) {p : Happening → Bool}
    {hs : List Happening} (h : ∀ x ∈ hs, p x = true → ∃ e ∈ names, x.entity? = some e) :
    (names.map fun e => (ofEntity e hs).countP p).sum = hs.countP p := by
  induction hs with
  | nil => simp [ofEntity]
  | cons x hs ih =>
    have hone : (names.map fun e => if x.entity? = some e ∧ p x = true then 1 else 0).sum =
        if p x = true then 1 else 0 := by
      split
      · rename_i hp
        obtain ⟨e, he, hx⟩ := h x List.mem_cons_self hp
        rw [List.sum_map_eq_nsmul_single e, List.count_eq_one_of_mem hn he]
        · simp [hx, hp]
        · intro e' hne _
          rw [if_neg]
          rintro ⟨hx', -⟩
          exact hne (Option.some.inj (hx'.symm.trans hx))
      · simp_all
    simp only [countP_ofEntity_cons, List.sum_map_add, List.countP_cons, hone,
      ih fun y hy => h y (List.mem_cons_of_mem _ hy)]

theorem nodup_names (r : Report) : (r.entities.entries.map Prod.fst).Nodup := by
  rw [List.Nodup, List.pairwise_map]
  refine r.entities.sorted.imp fun {a b} hlt he => ?_
  rw [he] at hlt
  exact String.lt_irrefl b.1 hlt

theorem Exact.mem_names {r : Report} {hs : List Happening} (h : r.Exact hs) {x : Happening}
    {e : String} (hx : x ∈ hs) (he : x.entity? = some e) :
    e ∈ r.entities.entries.map Prod.fst := by
  have hne : ofEntity e hs ≠ [] := List.ne_nil_of_mem (List.mem_filter.mpr ⟨hx, by simpa using he⟩)
  have hsome := (h.entry_isSome e).mpr hne
  rw [EntityTable.get?, List.lookup_isSome_iff] at hsome
  obtain ⟨p, hp, hpe⟩ := hsome
  exact List.mem_map.mpr ⟨p, hp, (beq_iff_eq.mp hpe).symm⟩

/-- As long as a word holds the total, the counters of the entities add up to it. -/
theorem Exact.sum_entries {r : Report} {hs : List Happening} (h : r.Exact hs)
    {read : EntityCounters → Counter} {p : Happening → Bool}
    (hread : ∀ c hs, c.Exact hs → (read c).Shows (hs.countP p))
    (hp : ∀ x, p x = true → ∃ e, x.entity? = some e) (hlt : hs.countP p < UInt64.size) :
    (r.entities.entries.map fun e => (read e.2).toNat).sum = hs.countP p := by
  have hcount : ∀ e ∈ r.entities.entries, (read e.2).toNat = (ofEntity e.1 hs).countP p := by
    intro e he
    have hle : (ofEntity e.1 hs).countP p ≤ hs.countP p := List.filter_sublist.countP_le
    have hget : r.entities.get? e.1 = some e.2 := r.entities.sorted.lookup_of_mem he
    exact (hread _ _ (h.entry _ _ hget)).toNat_eq (by omega)
  rw [List.map_congr_left hcount, ← sum_countP_ofEntity r.nodup_names, List.map_map]
  · rfl
  · intro x hx hpx
    obtain ⟨e, he⟩ := hp x hpx
    exact ⟨e, h.mem_names hx he, he⟩

end Report

end Criteria
