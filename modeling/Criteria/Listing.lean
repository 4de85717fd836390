/-! # Named entries

Lists of named entries by ascending name, each name once. Names are ordered by code points.
-/

namespace Criteria

abbrev Listing (α : Type) := List (String × α)

namespace Listing

variable {α : Type}

/-- Replaces the entry of that name by `f` of it, or of the default where there is none. -/
def update (name : String) (f : α → α) (default : α) : Listing α → Listing α
  | [] => [(name, f default)]
  | (n, a) :: rest =>
    if name < n then (name, f default) :: (n, a) :: rest
    else if name = n then (n, f a) :: rest
    else (n, a) :: update name f default rest

/-- Adds an entry in its place. The last entry of a name stands. -/
def insert (name : String) (a : α) (es : Listing α) : Listing α := update name (fun _ => a) a es

def ofList (es : List (String × α)) : Listing α := es.foldl (fun t e => t.insert e.1 e.2) []

abbrev Sorted (es : Listing α) : Prop := es.Pairwise (·.1 < ·.1)

variable {name : String} {f : α → α} {default : α}

theorem name_of_mem_update {e : String × α} {es : Listing α}
    (h : e ∈ update name f default es) : e.1 = name ∨ ∃ e' ∈ es, e'.1 = e.1 := by
  induction es with
  | nil => left; simp_all [update]
  | cons e' rest ih =>
    simp only [update] at h
    split at h
    · rcases List.mem_cons.1 h with rfl | h
      · exact .inl rfl
      · exact .inr ⟨e, h, rfl⟩
    · split at h
      · rcases List.mem_cons.1 h with rfl | h
        · exact .inr ⟨e', by simp, rfl⟩
        · exact .inr ⟨e, by simp [h], rfl⟩
      · rcases List.mem_cons.1 h with rfl | h
        · exact .inr ⟨_, by simp, rfl⟩
        · rcases ih h with h | ⟨e'', h, h'⟩
          · exact .inl h
          · exact .inr ⟨e'', by simp [h], h'⟩

theorem update_of_forall_lt {es : Listing α} (h : ∀ e ∈ es, e.1 < name) :
    es.update name f default = es ++ [(name, f default)] := by
  induction es with
  | nil => rfl
  | cons e es ih =>
    have he : e.1 < name := h e List.mem_cons_self
    have hne : name ≠ e.1 := fun hn => String.lt_irrefl name (hn ▸ he)
    have hes : ∀ e' ∈ es, e'.1 < name := fun e' he' => h e' (List.mem_cons_of_mem _ he')
    rw [update, if_neg (String.lt_asymm he), if_neg hne, ih hes, List.cons_append]

theorem Sorted.update {es : Listing α} (h : es.Sorted) : (es.update name f default).Sorted := by
  induction es with
  | nil => simp [Listing.update]
  | cons e rest ih =>
    obtain ⟨hlt, hrest⟩ := List.pairwise_cons.1 h
    simp only [Listing.update]
    split
    · rename_i hn
      refine List.pairwise_cons.2 ⟨fun e' he' => ?_, h⟩
      rcases List.mem_cons.1 he' with rfl | he'
      · exact hn
      · exact String.lt_trans hn (hlt e' he')
    · rename_i hn
      split
      · exact List.pairwise_cons.2 ⟨fun e' he' => hlt e' he', hrest⟩
      · rename_i hne
        refine List.pairwise_cons.2 ⟨fun e' he' => ?_, ih hrest⟩
        rcases name_of_mem_update he' with he' | ⟨e'', he'', he'⟩
        · rw [he']
          exact Std.lt_of_le_of_ne (String.not_lt.1 hn) (Ne.symm hne)
        · exact he' ▸ hlt e'' he''

/-! ## Looking up -/

theorem lookup_cons (n : String) (e : String × α) (es : Listing α) :
    List.lookup n (e :: es) = if n = e.1 then some e.2 else es.lookup n := by
  rw [List.lookup_cons]
  by_cases hn : n = e.1
  · rw [if_pos hn, beq_iff_eq.2 hn]
  · rw [if_neg hn, beq_false_of_ne hn]

theorem lookup_eq_none_of_forall_lt {es : Listing α} (h : ∀ e ∈ es, name < e.1) :
    es.lookup name = none := by
  rw [List.lookup_eq_none_iff]
  intro e he
  exact bne_iff_ne.2 fun hn : name = e.1 => String.lt_irrefl e.1 (hn ▸ h e he)

abbrev Distinct (es : List (String × α)) : Prop := (es.map (·.1)).Nodup

theorem Sorted.distinct {es : Listing α} (h : es.Sorted) : Distinct es := by
  refine List.Pairwise.map _ (fun e e' hlt hn => ?_) h
  exact String.lt_irrefl e'.1 (hn ▸ hlt)

theorem Distinct.lookup_eq_some_iff {es : List (String × α)} (h : Distinct es) {n : String}
    {a : α} : es.lookup n = some a ↔ (n, a) ∈ es := by
  induction es with
  | nil => simp
  | cons e rest ih =>
    obtain ⟨m, b⟩ := e
    obtain ⟨hnot, hrest⟩ := List.nodup_cons.1 h
    rw [lookup_cons, List.mem_cons, Prod.mk.injEq]
    split
    · rename_i hn
      have hout : (m, a) ∉ rest := fun hm => hnot (List.mem_map.2 ⟨_, hm, rfl⟩)
      simp [hn, hout, eq_comm]
    · rename_i hn
      simp [ih hrest, hn]

theorem Sorted.lookup_of_mem {es : Listing α} (h : es.Sorted) {e : String × α} (he : e ∈ es) :
    es.lookup e.1 = some e.2 := h.distinct.lookup_eq_some_iff.2 he

theorem Sorted.lookup_update {es : Listing α} (h : es.Sorted) (n : String) :
    (es.update name f default).lookup n =
      if n = name then some (f ((es.lookup name).getD default)) else es.lookup n := by
  induction es with
  | nil => exact lookup_cons n (name, f default) []
  | cons e rest ih =>
    obtain ⟨hlt, hrest⟩ := List.pairwise_cons.1 h
    simp only [Listing.update]
    split
    · rename_i hn
      have hnone : List.lookup name (e :: rest) = none := by
        refine lookup_eq_none_of_forall_lt fun e' he' => ?_
        rcases List.mem_cons.1 he' with rfl | he'
        · exact hn
        · exact String.lt_trans hn (hlt e' he')
      rw [lookup_cons, hnone]
      rfl
    · split
      · rename_i hn
        rw [lookup_cons, lookup_cons, lookup_cons, if_pos hn, hn]
        split <;> rfl
      · rename_i hn
        rw [lookup_cons, lookup_cons, lookup_cons, if_neg hn, ih hrest]
        by_cases he : n = e.1
        · rw [if_pos he, if_pos he, if_neg (he ▸ Ne.symm hn)]
        · rw [if_neg he, if_neg he]

theorem sorted_ofList (es : List (String × α)) : (ofList es).Sorted := by
  suffices ∀ t : Listing α, t.Sorted → (es.foldl (fun t e => t.insert e.1 e.2) t).Sorted from
    this [] .nil
  induction es with
  | nil => exact fun t h => h
  | cons e es ih => exact fun t h => ih _ h.update

/-! ## Entries in any order -/

theorem Distinct.lookup_perm {es fs : List (String × α)} (h : Distinct es) (hp : es.Perm fs)
    (n : String) : es.lookup n = fs.lookup n := by
  have hfs : Distinct fs := (hp.map _).nodup_iff.1 h
  exact Option.ext fun a => by
    rw [h.lookup_eq_some_iff, hfs.lookup_eq_some_iff, hp.mem_iff]

end Listing

end Criteria
