import Mathlib
import Criteria.Text.Quoted

/-! # Reading quoted text

A text that is cut off at a fixed character, or made of pieces that each show their end, is known in
front of any rest. This holds of escaped characters, of quoted texts and of lists of them, whichever
characters are shown as they are.
-/

namespace Criteria.Text

/-! ## Cutting a text in front of its rest -/

/-- The rest of a text is empty or starts with a character that stops what is before it. -/
def Stops (stop : Char → Bool) : List Char → Prop
  | [] => True
  | c :: _ => stop c = true

theorem append_inj_of_stops {stop : Char → Bool} {r s : List Char} (hr : Stops stop r)
    (hs : Stops stop s) : ∀ {a b : List Char}, (∀ c ∈ a, stop c = false) →
      (∀ c ∈ b, stop c = false) → a ++ r = b ++ s → a = b ∧ r = s
  | [], [], _, _, h => ⟨rfl, h⟩
  | [], c :: b, _, hb, h => by
    rw [List.nil_append, List.cons_append] at h
    have hc := hb c List.mem_cons_self
    rw [h, Stops, hc] at hr
    exact absurd hr Bool.false_ne_true
  | c :: a, [], ha, _, h => by
    rw [List.nil_append, List.cons_append] at h
    have hc := ha c List.mem_cons_self
    rw [← h, Stops, hc] at hs
    exact absurd hs Bool.false_ne_true
  | c :: a, d :: b, ha, hb, h => by
    obtain ⟨rfl, h'⟩ := List.cons.inj h
    obtain ⟨rfl, rfl⟩ := append_inj_of_stops hr hs (fun x hx => ha x (List.mem_cons_of_mem _ hx))
      (fun x hx => hb x (List.mem_cons_of_mem _ hx)) h'
    exact ⟨rfl, rfl⟩

theorem append_cons_inj {c : Char} {a b r s : List Char} (ha : c ∉ a) (hb : c ∉ b)
    (h : a ++ c :: r = b ++ c :: s) : a = b ∧ r = s := by
  have hstop : ∀ {l : List Char}, c ∉ l → ∀ d ∈ l, (d == c) = false := fun hl d hd =>
    beq_false_of_ne (ne_of_mem_of_not_mem hd hl)
  have hrest : ∀ l : List Char, Stops (· == c) (c :: l) := fun _ => beq_self_eq_true c
  obtain ⟨rfl, h'⟩ := append_inj_of_stops (hrest r) (hrest s) (hstop ha) (hstop hb) h
  exact ⟨rfl, (List.cons.inj h').2⟩

section pieces

variable {α : Type} {f : α → List Char} {r s : List Char}

/-- Pieces that each show their end, in front of rests that start with no piece. -/
theorem flatMap_append_inj : ∀ {xs ys : List α},
    (∀ x ∈ xs, ∀ y ∈ ys, ∀ t u, f x ++ t = f y ++ u → x = y ∧ t = u) →
    (∀ x t, r ≠ f x ++ t) → (∀ x t, s ≠ f x ++ t) →
    xs.flatMap f ++ r = ys.flatMap f ++ s → xs = ys ∧ r = s
  | [], [], _, _, _, h => ⟨rfl, h⟩
  | [], y :: ys, _, hr, _, h => by
    rw [List.flatMap_nil, List.nil_append, List.flatMap_cons, List.append_assoc] at h
    exact absurd h (hr y _)
  | x :: xs, [], _, _, hs, h => by
    rw [List.flatMap_nil, List.nil_append, List.flatMap_cons, List.append_assoc] at h
    exact absurd h.symm (hs x _)
  | x :: xs, y :: ys, hf, hr, hs, h => by
    simp only [List.flatMap_cons, List.append_assoc] at h
    obtain ⟨rfl, h'⟩ := hf x List.mem_cons_self y List.mem_cons_self _ _ h
    obtain ⟨rfl, rfl⟩ := flatMap_append_inj
      (fun a ha b hb => hf a (List.mem_cons_of_mem _ ha) b (List.mem_cons_of_mem _ hb)) hr hs h'
    exact ⟨rfl, rfl⟩

theorem intercalate_cons (sep x : List Char) (xs : List (List Char)) :
    sep.intercalate (x :: xs) = x ++ xs.flatMap (sep ++ ·) := by
  induction xs generalizing x with
  | nil => simp
  | cons y ys ih =>
    rw [List.intercalate_cons_cons, ih, List.flatMap_cons, List.append_assoc, List.append_assoc]

theorem intercalate_append_inj {sep : List Char} {xs ys : List α}
    (hf : ∀ x ∈ xs, ∀ y ∈ ys, ∀ t u, f x ++ t = f y ++ u → x = y ∧ t = u)
    (hr : ∀ t, r ≠ sep ++ t) (hs : ∀ t, s ≠ sep ++ t) (hr' : ∀ x t, r ≠ f x ++ t)
    (hs' : ∀ x t, s ≠ f x ++ t)
    (h : sep.intercalate (xs.map f) ++ r = sep.intercalate (ys.map f) ++ s) : xs = ys ∧ r = s := by
  cases xs with
  | nil =>
    cases ys with
    | nil => exact ⟨rfl, h⟩
    | cons y ys =>
      rw [List.map_cons, intercalate_cons, List.append_assoc] at h
      exact absurd h (hr' y _)
  | cons x xs =>
    cases ys with
    | nil =>
      rw [List.map_cons, intercalate_cons, List.append_assoc] at h
      exact absurd h.symm (hs' x _)
    | cons y ys =>
      simp only [List.map_cons, intercalate_cons, List.append_assoc, List.flatMap_map] at h
      obtain ⟨rfl, h₁⟩ := hf x List.mem_cons_self y List.mem_cons_self _ _ h
      have hsep : ∀ a ∈ xs, ∀ b ∈ ys, ∀ t u,
          (sep ++ f a) ++ t = (sep ++ f b) ++ u → a = b ∧ t = u := by
        intro a ha b hb t u he
        rw [List.append_assoc, List.append_assoc] at he
        exact hf a (List.mem_cons_of_mem _ ha) b (List.mem_cons_of_mem _ hb) t u
          (List.append_cancel_left he)
      obtain ⟨rfl, rfl⟩ := flatMap_append_inj hsep
        (fun x t he => hr (f x ++ t) (by rw [he, List.append_assoc]))
        (fun x t he => hs (f x ++ t) (by rw [he, List.append_assoc])) h₁
      exact ⟨rfl, rfl⟩

end pieces

/-! ## Code points -/

theorem toDigits_eq_append (n : Nat) :
    Nat.toDigits 16 n =
      (if n < 16 then [] else Nat.toDigits 16 (n / 16)) ++ [Nat.digitChar (n % 16)] := by
  rw [Nat.toDigits_eq_if (by decide)]
  split
  · rename_i h
    rw [Nat.mod_eq_of_lt h, List.nil_append]
  · rfl

theorem toDigits_injective : Function.Injective (Nat.toDigits 16) := by
  have hd : ∀ d < 16, ∀ e < 16, Nat.digitChar d = Nat.digitChar e → d = e := by decide
  intro m n h
  induction m using Nat.strong_induction_on generalizing n with
  | _ m ih =>
    rw [toDigits_eq_append m, toDigits_eq_append n] at h
    obtain ⟨hinit, hlast⟩ := List.append_inj' h rfl
    have hmod : m % 16 = n % 16 :=
      hd _ (Nat.mod_lt _ (by decide)) _ (Nat.mod_lt _ (by decide)) (List.cons.inj hlast).1
    have hdiv : m / 16 = n / 16 := by
      split at hinit <;> split at hinit
      · omega
      · exact absurd hinit.symm Nat.toDigits_ne_nil
      · exact absurd hinit Nat.toDigits_ne_nil
      · exact ih (m / 16) (by omega) hinit
    omega

theorem exists_digit_of_mem_toDigits {n : Nat} {c : Char} (h : c ∈ Nat.toDigits 16 n) :
    ∃ d < 16, c = Nat.digitChar d := by
  induction n using Nat.strong_induction_on with
  | _ n ih =>
    rw [toDigits_eq_append, List.mem_append, List.mem_singleton] at h
    rcases h with h | h
    · split at h
      · cases h
      · exact ih (n / 16) (by omega) h
    · exact ⟨n % 16, Nat.mod_lt _ (by decide), h⟩

theorem brace_notMem_toDigits (n : Nat) : '}' ∉ Nat.toDigits 16 n := by
  have hd : ∀ d < 16, '}' ≠ Nat.digitChar d := by decide
  intro h
  obtain ⟨d, hlt, he⟩ := exists_digit_of_mem_toDigits h
  exact hd d hlt he

/-! ## Escaped characters -/

def named (e : Char) : Char :=
  if e = '0' then '\x00'
  else if e = 't' then '\t'
  else if e = 'r' then '\r'
  else if e = 'n' then '\n'
  else e

/-- How a character may be written between double quotes: as it is, by a letter that names it, or by
its code point. -/
inductive Escape (c : Char) : List Char → Prop
  | plain (hb : c ≠ '\\') (hq : c ≠ '"') : Escape c [c]
  | letter {e : Char} (he : e ≠ 'u') (hn : named e = c) : Escape c ['\\', e]
  | codePoint : Escape c (codePointEscape c)

/-- What has a glyph only decides between a character as it is and its code point. -/
theorem escape_escapeChar (c : Char) : Escape c (escapeChar '"' c) := by
  unfold escapeChar
  split_ifs with h0 ht hr hn hb hq hg
  · exact .letter (by decide) h0.symm
  · exact .letter (by decide) ht.symm
  · exact .letter (by decide) hr.symm
  · exact .letter (by decide) hn.symm
  · exact .letter (by decide) hb.symm
  · exact .letter (by decide) hq.symm
  · exact .plain hb hq
  · exact .codePoint

theorem codePointEscape_append_inj {c d : Char} {r s : List Char}
    (h : codePointEscape c ++ r = codePointEscape d ++ s) : c = d ∧ r = s := by
  simp only [codePointEscape, List.cons_append, List.nil_append, List.append_assoc, List.cons.injEq,
    true_and] at h
  obtain ⟨hdigits, rfl⟩ :=
    append_cons_inj (brace_notMem_toDigits _) (brace_notMem_toDigits _) h
  exact ⟨Char.toNat_inj.mp (toDigits_injective hdigits), rfl⟩

theorem Escape.append_inj {c d : Char} {a b r s : List Char} (hc : Escape c a) (hd : Escape d b)
    (h : a ++ r = b ++ s) : c = d ∧ r = s := by
  cases hc with
  | plain hb _ =>
    cases hd with
    | plain => exact List.cons.inj h
    | letter _ _ => exact absurd (List.cons.inj h).1 hb
    | codePoint => exact absurd (List.cons.inj h).1 hb
  | @letter e he hn =>
    cases hd with
    | plain hb _ => exact absurd (List.cons.inj h).1.symm hb
    | letter _ hn' =>
      obtain ⟨rfl, h'⟩ := List.cons.inj (List.cons.inj h).2
      exact ⟨hn.symm.trans hn', h'⟩
    | codePoint => exact absurd (List.cons.inj (List.cons.inj h).2).1 he
  | codePoint =>
    cases hd with
    | plain hb _ => exact absurd (List.cons.inj h).1.symm hb
    | letter he _ => exact absurd (List.cons.inj (List.cons.inj h).2).1.symm he
    | codePoint => exact codePointEscape_append_inj h

theorem Escape.ne_quote {c : Char} {a r t : List Char} (h : Escape c a) : '"' :: r ≠ a ++ t := by
  intro he
  cases h with
  | plain _ hq => exact hq (List.cons.inj he).1.symm
  | letter _ _ => exact absurd (List.cons.inj he).1 (by decide)
  | codePoint => exact absurd (List.cons.inj he).1 (by decide)

/-! ## Quoted texts -/

theorem escape_append_inj {cs ds r s : List Char}
    (h : escape '"' cs ++ '"' :: r = escape '"' ds ++ '"' :: s) : cs = ds ∧ r = s := by
  obtain ⟨rfl, h'⟩ := flatMap_append_inj
    (fun c _ d _ _ _ => (escape_escapeChar c).append_inj (escape_escapeChar d))
    (fun c _ => (escape_escapeChar c).ne_quote) (fun c _ => (escape_escapeChar c).ne_quote) h
  exact ⟨rfl, (List.cons.inj h').2⟩

theorem quote_append_inj {x y : String} {r s : List Char}
    (h : (quote x).toList ++ r = (quote y).toList ++ s) : x = y ∧ r = s := by
  simp only [quote, String.toList_ofList, List.cons_append, List.append_assoc, List.nil_append,
    List.cons.injEq, true_and] at h
  obtain ⟨hxy, rfl⟩ := escape_append_inj h
  exact ⟨String.toList_inj.mp hxy, rfl⟩

theorem toList_quoteList (xs : List String) :
    (quoteList xs).toList =
      '[' :: ([',', ' '].intercalate (xs.map fun x => (quote x).toList) ++ [']']) := by
  simp [quoteList, String.toList_intercalate, Function.comp_def]

theorem quoteList_append_inj {xs ys : List String} {r s : List Char}
    (h : (quoteList xs).toList ++ r = (quoteList ys).toList ++ s) : xs = ys ∧ r = s := by
  simp only [toList_quoteList, List.cons_append, List.append_assoc, List.nil_append, List.cons.injEq,
    true_and] at h
  have hbracket : ∀ t u : List Char, ']' :: t ≠ [',', ' '] ++ u := by simp
  have hquote : ∀ (t : List Char) (x : String) (u : List Char), ']' :: t ≠ (quote x).toList ++ u := by
    simp [quote]
  obtain ⟨rfl, h'⟩ := intercalate_append_inj (fun _ _ _ _ _ _ => quote_append_inj) (hbracket r)
    (hbracket s) (hquote r) (hquote s) h
  exact ⟨rfl, (List.cons.inj h').2⟩

end Criteria.Text
