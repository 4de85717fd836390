import Criteria.Proofs.Quoted
import Criteria.Spec.Basic

/-! # Unique readability

A printed predicate shows where it ends, so its junctions and values can be told from one another
whatever the values hold. The line that explains a query shows in the same way where its condition
and its order terms begin.
-/

namespace Criteria

open Text

/-- A path that ends at the first blank and is not taken for a bracket. -/
def PlainPath (path : String) : Prop :=
  path ≠ "" ∧ ' ' ∉ path.toList ∧ '(' ∉ path.toList ∧ ')' ∉ path.toList

instance (path : String) : Decidable (PlainPath path) := inferInstanceAs (Decidable (_ ∧ _))

theorem PlainPath.exists_cons {path : String} (h : PlainPath path) :
    ∃ c cs, path.toList = c :: cs ∧ c ≠ '(' ∧ c ≠ ')' := by
  obtain ⟨hne, -, hopen, hclose⟩ := h
  cases hp : path.toList with
  | nil => exact absurd (String.toList_eq_nil_iff.mp hp) hne
  | cons c cs =>
    rw [hp] at hopen hclose
    exact ⟨c, cs, rfl, (ne_of_mem_of_not_mem List.mem_cons_self hopen),
      (ne_of_mem_of_not_mem List.mem_cons_self hclose)⟩

def breaks (c : Char) : Bool := c == ' ' || c == ')'

variable {r s : List Char}

/-! ## Leaves -/

namespace Leaf

def word : Leaf → String
  | compare c => c.op.symbol ++ if c.casing.isInsensitive then "_ci" else ""
  | textMatch .. => "match"
  | isNull _ => "is_null"
  | isNotNull _ => "is_not_null"
  | inList .. => "in"

def operand : Leaf → String
  | compare c => " " ++ quote c.value
  | textMatch _ value => " " ++ quote value
  | isNull _ | isNotNull _ => ""
  | inList _ values => " " ++ quoteList values

theorem toList_print (l : Leaf) :
    l.print.toList = l.path.toList ++ ' ' :: (l.word.toList ++ l.operand.toList) := by
  cases l <;> simp [print, path, word, operand]

theorem word_compare (c : Comparison) :
    word (compare c) ∉ ["match", "is_null", "is_not_null", "in"] := by
  obtain ⟨_, op, _, casing⟩ := c
  cases op <;> cases casing <;> simp [word, CompareOp.symbol, Casing.isInsensitive]

theorem word_compare_inj {c d : Comparison} (h : word (compare c) = word (compare d)) :
    c.op = d.op ∧ c.casing = d.casing := by
  obtain ⟨_, op, _, casing⟩ := c
  obtain ⟨_, op', _, casing'⟩ := d
  cases op <;> cases casing <;> cases op' <;> cases casing' <;>
    simp [word, CompareOp.symbol, Casing.isInsensitive] at h ⊢

theorem breaks_of_mem_word (l : Leaf) : ∀ c ∈ l.word.toList, breaks c = false := by
  cases l with
  | compare c =>
    obtain ⟨_, op, _, casing⟩ := c
    cases op <;> cases casing <;> simp [word, CompareOp.symbol, Casing.isInsensitive, breaks]
  | _ => simp [word, breaks]

theorem word_ne_bracket (l : Leaf) {t u : List Char} : l.word.toList ++ t ≠ '(' :: u := by
  cases l with
  | compare c =>
    obtain ⟨_, op, _, casing⟩ := c
    cases op <;> cases casing <;> simp [word, CompareOp.symbol, Casing.isInsensitive]
  | _ => simp [word]

theorem stops_operand (l : Leaf) (hr : Stops breaks r) :
    Stops breaks (l.operand.toList ++ r) := by
  cases l with
  | isNull _ | isNotNull _ => simpa [operand] using hr
  | _ => simp [operand, Stops, breaks]

theorem operand_append_inj {l m : Leaf} (hpath : l.path = m.path) (hword : l.word = m.word)
    (h : l.operand.toList ++ r = m.operand.toList ++ s) : l = m ∧ r = s := by
  cases l with
  | compare c =>
    cases m with
    | compare d =>
      obtain ⟨path, op, value, casing⟩ := c
      obtain ⟨path', op', value', casing'⟩ := d
      obtain rfl : path = path' := hpath
      obtain ⟨rfl : op = op', rfl : casing = casing'⟩ := word_compare_inj hword
      have hvalue : (quote value).toList ++ r = (quote value').toList ++ s := by
        simpa [operand] using h
      obtain ⟨rfl, rfl⟩ := quote_append_inj hvalue
      exact ⟨rfl, rfl⟩
    | _ => exact absurd (hword ▸ word_compare c) (by simp [word])
  | textMatch path value =>
    cases m with
    | compare d => exact absurd (hword ▸ word_compare d) (by simp [word])
    | textMatch path' value' =>
      obtain rfl : path = path' := hpath
      have hvalue : (quote value).toList ++ r = (quote value').toList ++ s := by
        simpa [operand] using h
      obtain ⟨rfl, rfl⟩ := quote_append_inj hvalue
      exact ⟨rfl, rfl⟩
    | _ => exact absurd hword (by simp [word])
  | isNull path =>
    cases m with
    | compare d => exact absurd (hword ▸ word_compare d) (by simp [word])
    | isNull path' => exact ⟨congrArg isNull hpath, by simpa [operand] using h⟩
    | _ => exact absurd hword (by simp [word])
  | isNotNull path =>
    cases m with
    | compare d => exact absurd (hword ▸ word_compare d) (by simp [word])
    | isNotNull path' => exact ⟨congrArg isNotNull hpath, by simpa [operand] using h⟩
    | _ => exact absurd hword (by simp [word])
  | inList path values =>
    cases m with
    | compare d => exact absurd (hword ▸ word_compare d) (by simp [word])
    | inList path' values' =>
      obtain rfl : path = path' := hpath
      have hvalues : (quoteList values).toList ++ r = (quoteList values').toList ++ s := by
        simpa [operand] using h
      obtain ⟨rfl, rfl⟩ := quoteList_append_inj hvalues
      exact ⟨rfl, rfl⟩
    | _ => exact absurd hword (by simp [word])

theorem print_append_inj {l m : Leaf} (hl : PlainPath l.path) (hm : PlainPath m.path)
    (hr : Stops breaks r) (hs : Stops breaks s) (h : l.print.toList ++ r = m.print.toList ++ s) :
    l = m ∧ r = s := by
  simp only [toList_print, List.append_assoc, List.cons_append] at h
  obtain ⟨hpath, h₁⟩ := append_cons_inj hl.2.1 hm.2.1 h
  obtain ⟨hword, h₂⟩ := append_inj_of_stops (l.stops_operand hr) (m.stops_operand hs)
    l.breaks_of_mem_word m.breaks_of_mem_word h₁
  exact operand_append_inj (String.toList_inj.mp hpath) (String.toList_inj.mp hword) h₂

end Leaf

/-! ## Junctions -/

namespace JunctionKind

/-- What the printed form keeps of a kind: without a separator a conjunction and a disjunction look
the same. -/
def shown (kind : JunctionKind) (nodes : Nat) : JunctionKind :=
  if nodes < 2 ∧ kind = .or then .and else kind

variable {k l : JunctionKind}

theorem shown_eq {n : Nat} (ho : k.opening = l.opening)
    (hs : 2 ≤ n → k.separator = l.separator) : k.shown n = l.shown n := by
  by_cases hn : n < 2
  · cases k <;> cases l <;> simp [shown, hn, opening] at ho ⊢
  · have := hs (by omega)
    cases k <;> cases l <;> simp [shown, hn, opening, separator] at ho this ⊢

theorem opening_append_inj (h : k.opening.toList ++ '(' :: r = l.opening.toList ++ '(' :: s) :
    k.opening = l.opening ∧ r = s := by
  cases k <;> cases l <;> simp_all [opening]

theorem separator_append_inj (h : k.separator.toList ++ r = l.separator.toList ++ s) :
    k.separator = l.separator ∧ r = s := by
  cases k <;> cases l <;> simp_all [separator]

@[simp] theorem opening_shown (kind : JunctionKind) (n : Nat) :
    (kind.shown n).opening = kind.opening := by
  unfold shown
  split
  · rename_i h
    rw [h.2]; rfl
  · rfl

theorem separator_shown (kind : JunctionKind) {n : Nat} (hn : 2 ≤ n) :
    (kind.shown n).separator = kind.separator := by
  rw [shown, if_neg (by omega)]

theorem separator_ne_bracket (kind : JunctionKind) {t u : List Char} :
    kind.separator.toList ++ t ≠ ')' :: u := by
  cases kind <;> simp [separator]

theorem stops_separator (kind : JunctionKind) (t : List Char) :
    Stops breaks (kind.separator.toList ++ t) := by
  cases kind <;> simp [separator, Stops, breaks]

end JunctionKind

namespace Predicate

mutual

/-- The predicate with the same printed form in which no disjunction has fewer than two nodes. -/
def uniform : Predicate → Predicate
  | leaf l => leaf l
  | junction kind nodes => junction (kind.shown nodes.length) (uniformAll nodes)

def uniformAll : List Predicate → List Predicate
  | [] => []
  | p :: ps => uniform p :: uniformAll ps

end

theorem length_uniformAll (ps : List Predicate) : (uniformAll ps).length = ps.length := by
  induction ps with
  | nil => rfl
  | cons p ps ih => rw [uniformAll, List.length_cons, List.length_cons, ih]

mutual

theorem print_uniform : ∀ p : Predicate, p.uniform.print = p.print
  | leaf _ => rfl
  | junction kind nodes => by
    rw [uniform, print, print, kind.opening_shown, printAll_uniform kind nodes]

theorem printAll_uniform (kind : JunctionKind) : ∀ ps : List Predicate,
    printAll (kind.shown ps.length).separator (uniformAll ps) = printAll kind.separator ps
  | [] => rfl
  | [p] => by rw [uniformAll, printAll, printAll, print_uniform p]; rfl
  | p :: q :: ps => by
    rw [kind.separator_shown (by simp), uniformAll, printAll, printAll, print_uniform p,
      printRest_uniform _ (q :: ps)]

theorem printRest_uniform (separator : String) : ∀ ps : List Predicate,
    printRest separator (uniformAll ps) = printRest separator ps
  | [] => rfl
  | p :: ps => by
    rw [uniformAll, printRest, printRest, print_uniform p, printRest_uniform separator ps]

end

def PlainPaths (p : Predicate) : Prop := ∀ l ∈ p.leaves, PlainPath l.path

instance (p : Predicate) : Decidable p.PlainPaths := inferInstanceAs (Decidable (∀ l ∈ _, _))

theorem plainPaths_junction {kind : JunctionKind} {nodes : List Predicate} :
    (junction kind nodes).PlainPaths ↔ ∀ p ∈ nodes, p.PlainPaths := by
  simp only [PlainPaths, leaves, leavesAll_eq_flatMap, List.mem_flatMap]
  exact ⟨fun h p hp l hl => h l ⟨p, hp, hl⟩, fun h l ⟨p, hp, hl⟩ => h p hp l hl⟩

theorem toList_print_junction (kind : JunctionKind) (nodes : List Predicate) :
    (junction kind nodes).print.toList =
      kind.opening.toList ++ '(' :: ((printAll kind.separator nodes).toList ++ [')']) := by
  simp [print]

theorem print_leaf_ne_junction {l : Leaf} (hl : PlainPath l.path) (kind : JunctionKind)
    (nodes : List Predicate) :
    (leaf l).print.toList ++ r ≠ (junction kind nodes).print.toList ++ s := by
  intro h
  rw [print, l.toList_print, toList_print_junction, List.append_assoc, List.append_assoc,
    List.cons_append, List.cons_append] at h
  have hopen : kind.opening = "" ∨ kind.opening = "not " := by
    cases kind <;> simp [JunctionKind.opening]
  rcases hopen with ho | ho
  · obtain ⟨c, cs, hpath, hc, -⟩ := hl.exists_cons
    rw [ho, hpath] at h
    exact hc (List.cons.inj h).1
  · have hnot : "not ".toList = "not".toList ++ [' '] := by simp
    rw [ho, hnot, List.append_assoc] at h
    have hblank : ' ' ∉ "not".toList := by simp
    obtain ⟨-, h'⟩ := append_cons_inj hl.2.1 hblank h
    rw [List.append_assoc] at h'
    exact l.word_ne_bracket h'

theorem print_ne_bracket {p : Predicate} (hp : p.PlainPaths) {t u : List Char} :
    p.print.toList ++ t ≠ ')' :: u := by
  intro h
  cases p with
  | leaf l =>
    obtain ⟨c, cs, hpath, -, hc⟩ := (hp l List.mem_cons_self).exists_cons
    rw [print, l.toList_print, hpath] at h
    exact hc (List.cons.inj h).1
  | junction kind nodes =>
    rw [toList_print_junction] at h
    cases kind <;> simp [JunctionKind.opening] at h

theorem stops_printRest (kind : JunctionKind) (ps : List Predicate) :
    Stops breaks ((printRest kind.separator ps).toList ++ ')' :: r) := by
  cases ps with
  | nil => simp [printRest, Stops, breaks]
  | cons p ps =>
    rw [printRest, String.toList_append, String.toList_append, List.append_assoc, List.append_assoc]
    exact kind.stops_separator _

-- By induction on the first predicate. What follows a node starts with a separator or with the
-- bracket of its junction, so a leaf at the end of a node is cut off where it ends.

mutual

/-- A printed predicate is known in front of any rest that breaks a word. -/
theorem print_append_inj : ∀ {p q : Predicate} {r s : List Char}, p.PlainPaths → q.PlainPaths →
    Stops breaks r → Stops breaks s → p.print.toList ++ r = q.print.toList ++ s →
    p.uniform = q.uniform ∧ r = s
  | leaf l, leaf m, r, s, hp, hq, hr, hs, h => by
    obtain ⟨rfl, hrs⟩ := Leaf.print_append_inj (hp l List.mem_cons_self) (hq m List.mem_cons_self)
      hr hs h
    exact ⟨rfl, hrs⟩
  | leaf l, junction kind nodes, r, s, hp, _, _, _, h =>
    absurd h (print_leaf_ne_junction (hp l List.mem_cons_self) kind nodes)
  | junction kind nodes, leaf m, r, s, _, hq, _, _, h =>
    absurd h.symm (print_leaf_ne_junction (hq m List.mem_cons_self) kind nodes)
  | junction k ps, junction l qs, r, s, hp, hq, _, _, h => by
    simp only [toList_print_junction, List.append_assoc, List.cons_append, List.nil_append] at h
    obtain ⟨hopen, h'⟩ := JunctionKind.opening_append_inj h
    obtain ⟨hnodes, hsep, hrs⟩ := printAll_append_inj (plainPaths_junction.mp hp)
      (plainPaths_junction.mp hq) h'
    -- The kinds are shown for the same number of nodes.
    have hlen : ps.length = qs.length := by
      rw [← length_uniformAll, hnodes, length_uniformAll]
    have hkind : k.shown ps.length = l.shown ps.length := JunctionKind.shown_eq hopen hsep
    exact ⟨by rw [uniform, uniform, hnodes, hkind, hlen], hrs⟩

theorem printAll_append_inj : ∀ {ps qs : List Predicate} {k l : JunctionKind} {r s : List Char},
    (∀ p ∈ ps, p.PlainPaths) → (∀ q ∈ qs, q.PlainPaths) →
    (printAll k.separator ps).toList ++ ')' :: r = (printAll l.separator qs).toList ++ ')' :: s →
    uniformAll ps = uniformAll qs ∧ (2 ≤ ps.length → k.separator = l.separator) ∧ r = s
  | [], [], _, _, _, _, _, _, h => ⟨rfl, by simp, (List.cons.inj h).2⟩
  | [], q :: qs, _, _, _, _, _, hq, h => by
    rw [printAll, printAll, String.toList_append, List.append_assoc] at h
    exact absurd h.symm (print_ne_bracket (hq q List.mem_cons_self))
  | p :: ps, [], _, _, _, _, hp, _, h => by
    rw [printAll, printAll, String.toList_append, List.append_assoc] at h
    exact absurd h (print_ne_bracket (hp p List.mem_cons_self))
  | p :: ps, q :: qs, k, l, _, _, hp, hq, h => by
    simp only [printAll, String.toList_append, List.append_assoc] at h
    obtain ⟨hpq, h'⟩ := print_append_inj (hp p List.mem_cons_self) (hq q List.mem_cons_self)
      (stops_printRest k ps) (stops_printRest l qs) h
    obtain ⟨hrest, hsep, hrs⟩ := printRest_append_inj (fun x hx => hp x (List.mem_cons_of_mem _ hx))
      (fun x hx => hq x (List.mem_cons_of_mem _ hx)) h'
    exact ⟨by rw [uniformAll, uniformAll, hpq, hrest], fun hlen => hsep (by simpa using hlen), hrs⟩

theorem printRest_append_inj : ∀ {ps qs : List Predicate} {k l : JunctionKind} {r s : List Char},
    (∀ p ∈ ps, p.PlainPaths) → (∀ q ∈ qs, q.PlainPaths) →
    (printRest k.separator ps).toList ++ ')' :: r = (printRest l.separator qs).toList ++ ')' :: s →
    uniformAll ps = uniformAll qs ∧ (1 ≤ ps.length → k.separator = l.separator) ∧ r = s
  | [], [], _, _, _, _, _, _, h => ⟨rfl, by simp, (List.cons.inj h).2⟩
  | [], q :: qs, _, l, _, _, _, _, h => by
    simp only [printRest, String.toList_append, List.append_assoc] at h
    exact absurd h.symm l.separator_ne_bracket
  | p :: ps, [], k, _, _, _, _, _, h => by
    simp only [printRest, String.toList_append, List.append_assoc] at h
    exact absurd h k.separator_ne_bracket
  | p :: ps, q :: qs, k, l, _, _, hp, hq, h => by
    simp only [printRest, String.toList_append, List.append_assoc] at h
    obtain ⟨hsep, h₁⟩ := JunctionKind.separator_append_inj h
    obtain ⟨hpq, h₂⟩ := print_append_inj (hp p List.mem_cons_self) (hq q List.mem_cons_self)
      (stops_printRest k ps) (stops_printRest l qs) h₁
    obtain ⟨hrest, -, hrs⟩ := printRest_append_inj (fun x hx => hp x (List.mem_cons_of_mem _ hx))
      (fun x hx => hq x (List.mem_cons_of_mem _ hx)) h₂
    exact ⟨by rw [uniformAll, uniformAll, hpq, hrest], fun _ => hsep, hrs⟩

end

theorem print_eq_iff {p q : Predicate} (hp : p.PlainPaths) (hq : q.PlainPaths) :
    p.print = q.print ↔ p.uniform = q.uniform := by
  constructor
  · intro h
    exact (print_append_inj (r := []) (s := []) hp hq trivial trivial (by rw [h])).1
  · intro h
    rw [← p.print_uniform, h, q.print_uniform]

end Predicate

/-! ## Explained specs -/

theorem Route.symbol_append_inj {a b : Route} (h : a.symbol.toList ++ r = b.symbol.toList ++ s) :
    a = b ∧ r = s := by
  cases a <;> cases b <;> simp_all [symbol]

theorem OrderDirection.symbol_append_inj {a b : OrderDirection}
    (h : a.symbol.toList ++ r = b.symbol.toList ++ s) : a = b ∧ r = s := by
  cases a <;> cases b <;> simp_all [symbol]

namespace OrderTerm

theorem print_append_inj {a b : OrderTerm} (ha : PlainPath a.path) (hb : PlainPath b.path)
    (h : a.print.toList ++ r = b.print.toList ++ s) : a = b ∧ r = s := by
  obtain ⟨path, direction⟩ := a
  obtain ⟨path', direction'⟩ := b
  have h' : path.toList ++ ' ' :: (direction.symbol.toList ++ r) =
      path'.toList ++ ' ' :: (direction'.symbol.toList ++ s) := by
    simpa [print] using h
  obtain ⟨hpath, hrest⟩ := append_cons_inj ha.2.1 hb.2.1 h'
  obtain ⟨rfl, hrs⟩ := OrderDirection.symbol_append_inj hrest
  obtain rfl := String.toList_inj.mp hpath
  exact ⟨rfl, hrs⟩

theorem intercalate_print_inj {xs ys : List OrderTerm} (hx : ∀ t ∈ xs, PlainPath t.path)
    (hy : ∀ t ∈ ys, PlainPath t.path)
    (h : ", ".intercalate (xs.map print) = ", ".intercalate (ys.map print)) : xs = ys := by
  have hterms : [',', ' '].intercalate (xs.map fun t => t.print.toList) ++ [] =
      [',', ' '].intercalate (ys.map fun t => t.print.toList) ++ [] := by
    simpa [String.toList_intercalate, Function.comp_def] using congrArg String.toList h
  have hrest : ∀ (t : OrderTerm) (u : List Char), [] ≠ t.print.toList ++ u := by
    intro t u
    simp [print]
  exact (intercalate_append_inj (fun a ha b hb _ _ => print_append_inj (hx a ha) (hy b hb))
    (by simp) (by simp) hrest hrest hterms).1

end OrderTerm

namespace QuerySpec

def condition (s : QuerySpec) : String :=
  match s.predicate with
  | none => ""
  | some p => " where " ++ p.print

def ordering (s : QuerySpec) : String :=
  match s.order with
  | [] => ""
  | terms => " order by " ++ ", ".intercalate (terms.map OrderTerm.print)

theorem explain_eq (s : QuerySpec) :
    s.explain = "query " ++ s.entity ++ " route=" ++ s.route.symbol ++ s.condition ++ s.ordering :=
  rfl

theorem condition_eq (s : QuerySpec) :
    s.condition =
      ((s.predicate.map Predicate.uniform).map fun p => " where " ++ p.print).getD "" := by
  unfold condition
  cases s.predicate with
  | none => rfl
  | some p => rw [Option.map_some, Option.map_some, Option.getD_some, p.print_uniform]

structure Plain (s : QuerySpec) : Prop where
  entity : ' ' ∉ s.entity.toList
  predicate : ∀ p ∈ s.predicate, p.PlainPaths
  order : ∀ t ∈ s.order, PlainPath t.path

variable {s t : QuerySpec}

theorem stops_ordering (s : QuerySpec) : Stops breaks s.ordering.toList := by
  unfold ordering
  split <;> simp [Stops, breaks]

theorem ordering_ne_where (s : QuerySpec) {u : List Char} :
    s.ordering.toList ≠ " where ".toList ++ u := by
  unfold ordering
  split <;> simp

theorem order_eq_of_ordering_eq (hs : s.Plain) (ht : t.Plain) (h : s.ordering = t.ordering) :
    s.order = t.order := by
  unfold ordering at h
  split at h <;> split at h
  · simp_all
  · simp at h
  · simp at h
  · exact OrderTerm.intercalate_print_inj hs.order ht.order ((String.append_right_inj _).mp h)

theorem condition_append_ordering_inj (hs : s.Plain) (ht : t.Plain)
    (h : s.condition.toList ++ s.ordering.toList = t.condition.toList ++ t.ordering.toList) :
    s.predicate.map Predicate.uniform = t.predicate.map Predicate.uniform ∧
      s.ordering = t.ordering := by
  cases hp : s.predicate with
  | none =>
    cases hq : t.predicate with
    | none =>
      simp only [condition, hp, hq, String.toList_empty, List.nil_append] at h
      exact ⟨rfl, String.toList_inj.mp h⟩
    | some q =>
      simp only [condition, hp, hq, String.toList_empty, List.nil_append, String.toList_append,
        List.append_assoc] at h
      exact absurd h s.ordering_ne_where
  | some p =>
    cases hq : t.predicate with
    | none =>
      simp only [condition, hp, hq, String.toList_empty, List.nil_append, String.toList_append,
        List.append_assoc] at h
      exact absurd h.symm t.ordering_ne_where
    | some q =>
      simp only [condition, hp, hq, String.toList_append, List.append_assoc] at h
      obtain ⟨hpq, hrest⟩ := Predicate.print_append_inj (hs.predicate p hp) (ht.predicate q hq)
        s.stops_ordering t.stops_ordering (List.append_cancel_left h)
      exact ⟨congrArg some hpq, String.toList_inj.mp hrest⟩

theorem explain_eq_iff (hs : s.Plain) (ht : t.Plain) :
    s.explain = t.explain ↔
      s.entity = t.entity ∧ s.route = t.route ∧ s.order = t.order ∧
        s.predicate.map Predicate.uniform = t.predicate.map Predicate.uniform := by
  constructor
  · intro h
    have hline : s.entity.toList ++ ' ' :: ("route=".toList ++ (s.route.symbol.toList ++
          (s.condition.toList ++ s.ordering.toList))) =
        t.entity.toList ++ ' ' :: ("route=".toList ++ (t.route.symbol.toList ++
          (t.condition.toList ++ t.ordering.toList))) := by
      simpa [explain_eq] using congrArg String.toList h
    obtain ⟨hentity, h₁⟩ := append_cons_inj hs.entity ht.entity hline
    obtain ⟨hroute, h₂⟩ := Route.symbol_append_inj (List.append_cancel_left h₁)
    obtain ⟨hpredicate, hordering⟩ := condition_append_ordering_inj hs ht h₂
    exact ⟨String.toList_inj.mp hentity, hroute, order_eq_of_ordering_eq hs ht hordering,
      hpredicate⟩
  · rintro ⟨hentity, hroute, horder, hpredicate⟩
    have hcondition : s.condition = t.condition := by
      rw [condition_eq, condition_eq, hpredicate]
    have hordering : s.ordering = t.ordering := by rw [ordering, ordering, horder]
    rw [explain_eq, explain_eq, hentity, hroute, hcondition, hordering]

end QuerySpec

/-- The printed form tells predicates apart up to the kind of the junctions that print no separator,
and the explaining line tells specs apart up to that. -/
theorem printed_forms_identify :
    (∀ p q : Predicate, p.PlainPaths → q.PlainPaths →
      (p.print = q.print ↔ p.uniform = q.uniform)) ∧
    ∀ s t : QuerySpec, s.Plain → t.Plain →
      (s.explain = t.explain ↔
        s.entity = t.entity ∧ s.route = t.route ∧ s.order = t.order ∧
          s.predicate.map Predicate.uniform = t.predicate.map Predicate.uniform) :=
  ⟨fun _ _ => Predicate.print_eq_iff, fun _ _ => QuerySpec.explain_eq_iff⟩

/-- Values that look like structure. -/
theorem printed_forms_identify_of_lookalikes :
    let inner := Predicate.compare "not" .eq "x\") or (b eq \"y"
    let one := Predicate.junction .or [inner]
    let two := Predicate.junction .or [.compare "not" .eq "x", .compare "b" .eq "y"]
    let spec := fun p => QuerySpec.mk "user" (some p) [⟨"name", .asc⟩] .primary
    one.PlainPaths ∧ two.PlainPaths ∧ (spec one).Plain ∧ (spec two).Plain ∧
      one.print = (Predicate.junction .and [inner]).print ∧ one.print ≠ two.print ∧
      (spec one).explain ≠ (spec two).explain := by
  intro inner one two spec
  have hinner : (Predicate.junction .and [inner]).PlainPaths := by decide
  have hone : one.PlainPaths := by decide
  have htwo : two.PlainPaths := by decide
  have hspec : ∀ p, p.PlainPaths → (spec p).Plain := by
    intro p hp
    refine ⟨by simp [spec], ?_, by simp [spec, PlainPath]⟩
    rintro q ⟨rfl⟩
    exact hp
  have hne : one.uniform ≠ two.uniform := by decide
  refine ⟨hone, htwo, hspec one hone, hspec two htwo, ?_, ?_, ?_⟩
  · exact (printed_forms_identify.1 _ _ hone hinner).mpr rfl
  · rw [Ne, printed_forms_identify.1 _ _ hone htwo]
    exact hne
  · rw [Ne, printed_forms_identify.2 _ _ (hspec one hone) (hspec two htwo)]
    exact fun h => hne (Option.some.inj h.2.2.2)

end Criteria
