import Boilerplate.Text.Comment
import Boilerplate.Text.Lines
import Mathlib.Data.List.Forall2

/-!
# Comments of a generated text

A comment goes from `/*` to the next `*/`. So the text inside a comment must not hold a `*/`, and
escaped text never does: the only places where one could arise are those that the escape splits,
and it leaves the first character of a text as it is.

A generated text is made of pieces, each of them code without any slash or one closed comment. What
it comes down to when the comments are dropped is then found piece by piece.

## Main definitions

* `Text.commentEnds` — how often `*/` occurs in a text
* `Text.uncomment` — a text without its comments
* `Text.Leaves` — what a piece of text comes down to, whatever follows it

## Main results

* `commentEnds_escapeEnds` — escaped text holds no `*/`
* `leaves_of_slash_not_mem`, `leaves_comment` — the two kinds of pieces
* `leaves_append`, `leaves_lines` — texts that are made of pieces
-/

namespace Boilerplate.Text

/-- The number of times that `*/` occurs in a text. -/
def commentEnds : List Char → Nat
  | '*' :: '/' :: rest => commentEnds rest + 1
  | _ :: rest => commentEnds rest
  | [] => 0

/-- A text without its comments, each of them from its `/*` to the next `*/`. The flag says whether
the text starts inside a comment. -/
def uncomment : Bool → List Char → List Char
  | false, '/' :: '*' :: rest => uncomment true rest
  | false, c :: rest => c :: uncomment false rest
  | true, '*' :: '/' :: rest => uncomment false rest
  | true, _ :: rest => uncomment true rest
  | _, [] => []

variable {c : Char} {cs xs ys body rest code text : List Char}

/-! ### Ends of comments -/

/-- A character that no `*/` starts with counts for nothing. -/
theorem commentEnds_cons (h : c = '*' → rest.head? ≠ some '/') :
    commentEnds (c :: rest) = commentEnds rest := by
  rw [commentEnds]
  rintro tail rfl rfl
  exact h rfl rfl

/-- One more character adds an end to a text exactly if it is a star in front of a slash. -/
theorem commentEnds_cons_eq (c : Char) (rest : List Char) :
    commentEnds (c :: rest) =
      commentEnds rest + if c = '*' ∧ rest.head? = some '/' then 1 else 0 := by
  by_cases hend : c = '*' ∧ rest.head? = some '/'
  · obtain ⟨rfl, hslash⟩ := hend
    obtain ⟨tail, rfl⟩ := List.head?_eq_some_iff.mp hslash
    have htail : commentEnds ('/' :: tail) = commentEnds tail := commentEnds_cons (by simp)
    simp [commentEnds, htail]
  · rw [if_neg hend, Nat.add_zero, commentEnds_cons fun hc hslash => hend ⟨hc, hslash⟩]

theorem commentEnds_of_slash_not_mem (h : '/' ∉ cs) : commentEnds cs = 0 := by
  induction cs with
  | nil => rfl
  | cons c rest ih =>
    rw [List.mem_cons, not_or] at h
    rw [commentEnds_cons, ih h.2]
    intro _ hhead
    exact h.2 (List.mem_of_mem_head? hhead)

/-- No `*/` arises between two texts unless the first ends with a star and the second starts with a
slash. -/
theorem commentEnds_append (h : xs.getLast? = some '*' → ys.head? ≠ some '/') :
    commentEnds (xs ++ ys) = commentEnds xs + commentEnds ys := by
  -- The cases of the count, and in each whether the first text ends here, at the seam.
  fun_induction commentEnds xs with
  | case1 rest ih =>
    cases rest with
    | nil => simp [commentEnds, Nat.add_comm]
    | cons d rest =>
      have hrest := ih (by simpa using h)
      rw [List.cons_append, List.cons_append, commentEnds, hrest]
      omega
  | case2 c rest hc ih =>
    cases rest with
    | nil =>
      have hseam : commentEnds (c :: ys) = commentEnds ys :=
        commentEnds_cons fun heq => h (by simp [heq])
      simpa [commentEnds] using hseam
    | cons d rest =>
      have hrest := ih (by simpa using h)
      have hhead : c = '*' → (d :: rest ++ ys).head? ≠ some '/' := by
        rintro rfl heq
        obtain rfl : d = '/' := by simpa using heq
        exact hc rest rfl rfl
      rw [List.cons_append, commentEnds_cons hhead, hrest]
  | case3 => simp

/-- A character that belongs to no `*/` cuts a text into two that are counted apart. -/
theorem commentEnds_append_cons (c : Char) (hstar : c ≠ '*') (hslash : c ≠ '/') :
    commentEnds (xs ++ c :: ys) = commentEnds xs + commentEnds ys := by
  rw [commentEnds_append (by simp [hslash]), commentEnds_cons fun h => absurd h hstar]

/-- Text without slashes adds nothing to what stands before it. -/
theorem commentEnds_append_of_slash_not_mem (h : '/' ∉ ys) :
    commentEnds (xs ++ ys) = commentEnds xs := by
  rw [commentEnds_append, commentEnds_of_slash_not_mem h, Nat.add_zero]
  intro _ hhead
  exact h (List.mem_of_mem_head? hhead)

/-- Text without slashes adds nothing to what stands behind it, unless it ends in a star. -/
theorem commentEnds_append_of_front (hfront : '/' ∉ xs) (hlast : xs.getLast? ≠ some '*') :
    commentEnds (xs ++ ys) = commentEnds ys := by
  rw [commentEnds_append (fun h => absurd h hlast), commentEnds_of_slash_not_mem hfront,
    Nat.zero_add]

/-- Text around which only harmless text is put holds no more `*/` than before. -/
theorem commentEnds_surround (hfront : '/' ∉ xs) (hlast : xs.getLast? ≠ some '*')
    (hback : '/' ∉ ys) : commentEnds (xs ++ (body ++ ys)) = commentEnds body := by
  rw [commentEnds_append_of_front hfront hlast, commentEnds_append_of_slash_not_mem hback]

/-- The escape leaves the first character of a text as it is. -/
theorem head?_escapeEnds (cs : List Char) : (escapeEnds cs).head? = cs.head? := by
  fun_cases escapeEnds cs <;> rfl

theorem escapeEnds_cons (h : c = '*' → rest.head? ≠ some '/') :
    escapeEnds (c :: rest) = c :: escapeEnds rest := by
  rw [escapeEnds]
  rintro tail rfl rfl
  exact h rfl rfl

/-- The escape changes nothing where there is no slash. -/
theorem escapeEnds_of_slash_not_mem (h : '/' ∉ cs) : escapeEnds cs = cs := by
  fun_induction escapeEnds cs with
  | case1 => simp at h
  | case2 c rest _ ih => rw [ih (List.not_mem_of_not_mem_cons h)]
  | case3 => rfl

/-- Escaped text holds no `*/`. -/
theorem commentEnds_escapeEnds (cs : List Char) : commentEnds (escapeEnds cs) = 0 := by
  fun_induction escapeEnds cs with
  | case1 rest ih =>
    have hslash : commentEnds ('/' :: escapeEnds rest) = 0 := by
      rw [commentEnds_cons (by simp), ih]
    rw [commentEnds_cons (by simp), commentEnds_cons (by simp), hslash]
  | case2 c rest hc ih =>
    rw [commentEnds_cons, ih]
    -- The escape would have split a star and a slash that follows it.
    rintro rfl hhead
    rw [head?_escapeEnds] at hhead
    obtain ⟨tail, rfl⟩ := List.head?_eq_some_iff.mp hhead
    exact hc tail rfl rfl
  | case3 => rfl

/-! ### Dropping comments -/

theorem uncomment_code_cons (h : c ≠ '/') :
    uncomment false (c :: rest) = c :: uncomment false rest := by
  rw [uncomment]
  rintro tail rfl
  exact absurd rfl h

theorem uncomment_comment_cons (h : c = '*' → rest.head? ≠ some '/') :
    uncomment true (c :: rest) = uncomment true rest := by
  rw [uncomment]
  rintro tail rfl rfl
  exact h rfl rfl

/-- Inside a comment, everything up to the first `*/` is dropped, and that with it. -/
theorem uncomment_body (h : commentEnds body = 0) :
    uncomment true (body ++ '*' :: '/' :: rest) = uncomment false rest := by
  induction body with
  | nil => rfl
  | cons c body ih =>
    have hhead : c = '*' → body.head? ≠ some '/' := by
      rintro rfl hslash
      obtain ⟨tail, rfl⟩ := List.head?_eq_some_iff.mp hslash
      simp [commentEnds] at h
    have hbody : commentEnds body = 0 := by rwa [commentEnds_cons hhead] at h
    rw [List.cons_append, uncomment_comment_cons, ih hbody]
    intro hc
    cases body with
    | nil => simp
    | cons d body => simpa using hhead hc

/-- A piece of text comes down to a piece of code when its comments are dropped, and this does not
hang on what follows. -/
def Leaves (text code : List Char) : Prop :=
  ∀ rest, uncomment false (text ++ rest) = code ++ uncomment false rest

theorem Leaves.uncomment_eq (h : Leaves text code) : uncomment false text = code := by
  simpa [uncomment] using h []

theorem leaves_nil : Leaves [] [] := fun _ => rfl

/-- Code without slashes stays as it is. -/
theorem leaves_of_slash_not_mem (h : '/' ∉ code) : Leaves code code := by
  intro rest
  induction code with
  | nil => rfl
  | cons c code ih =>
    rw [List.mem_cons, not_or] at h
    rw [List.cons_append, uncomment_code_cons (Ne.symm h.1), ih h.2, List.cons_append]

/-- A closed comment leaves nothing. -/
theorem leaves_comment (h : commentEnds body = 0) :
    Leaves ('/' :: '*' :: (body ++ ['*', '/'])) [] := by
  intro rest
  have hbody : uncomment true (body ++ '*' :: '/' :: rest) = uncomment false rest :=
    uncomment_body h
  simpa [uncomment] using hbody

theorem leaves_append (hxs : Leaves xs code) (hys : Leaves ys rest) :
    Leaves (xs ++ ys) (code ++ rest) := by
  intro tail
  rw [List.append_assoc, hxs, hys, List.append_assoc]

/-- Lines that are pieces make a text that is a piece. -/
theorem leaves_lines {lines : List String} {codes : List (List Char)}
    (h : List.Forall₂ (fun line code => Leaves line.toList code) lines codes) :
    Leaves (unlines lines).toList (codes.flatMap (· ++ ['\n'])) := by
  have hfeed : Leaves ['\n'] ['\n'] := leaves_of_slash_not_mem (by decide)
  rw [toList_unlines]
  induction h with
  | nil => exact leaves_nil
  | cons hline _ ih => exact leaves_append (leaves_append hline hfeed) ih

end Boilerplate.Text
