import Boilerplate.Proofs.Comments

/-!
# What the escape changes

Text inside a comment is escaped by one blank in the middle of each `*/`, and is left alone
otherwise. So the escape loses nothing: the text is read back by taking the blanks out again, and a
text that is escaped already stays as it is. The banner quotes its subject through the escape, so
its comment ends at its last line whatever the subject is.

## Main definitions

* `Text.endsAt` — the positions at which `*/` occurs in a text
* `Text.partedAt`, `Text.rejoinedAt` — a text with blanks put in at positions, or taken out there

## Main results

* `Text.escapeEnds_eq_partedAt` — the escape puts one blank into each `*/`, and nothing else
* `Text.rejoinedAt_partedAt` — the blanks can be taken out again
* `Text.escapeEnds_eq_self_iff` — the texts that the escape leaves as they are
* `Frame.exists_endsAt_banner` — the only place at which the banner ends its comment
* `Frame.escape_minimal_and_banner_closed` — all of it
-/

namespace Boilerplate

namespace Text

/-- The positions in a text at which a `*/` starts. -/
def endsAt (cs : List Char) : List Nat :=
  (List.range cs.length).filter fun i => ['*', '/'].isPrefixOf (cs.drop i)

/-- A text with a blank put in behind each of the given positions. The last position comes first, so
that those before it are still positions of the text. -/
def partedAt (positions : List Nat) (cs : List Char) : List Char :=
  positions.foldr (fun i text => text.insertIdx (i + 1) ' ') cs

/-- A text with one character taken out behind each of the given positions, which are positions of
the text that is left. -/
def rejoinedAt (positions : List Nat) (cs : List Char) : List Char :=
  positions.foldl (fun text i => text.eraseIdx (i + 1)) cs

variable {c : Char} {cs rest : List Char} {i : Nat}

/-! ### Positions -/

theorem mem_endsAt_iff : i ∈ endsAt cs ↔ ['*', '/'] <+: cs.drop i := by
  rw [endsAt, List.mem_filter, List.mem_range, List.isPrefixOf_iff_prefix]
  refine and_iff_right_of_imp fun h => ?_
  have hlength : 2 ≤ (cs.drop i).length := h.length_le
  rw [List.length_drop] at hlength
  omega

theorem endsAt_cons (c : Char) (rest : List Char) :
    endsAt (c :: rest) =
      (if c = '*' ∧ rest.head? = some '/' then [0] else []) ++ (endsAt rest).map (· + 1) := by
  have hfirst : ['*', '/'].isPrefixOf (c :: rest) = true ↔ c = '*' ∧ rest.head? = some '/' := by
    cases rest <;> simp [List.isPrefixOf, @eq_comm _ '*', @eq_comm _ '/']
  simp only [endsAt, List.length_cons, List.range_succ_eq_map, List.filter_cons, List.drop_zero,
    hfirst, List.filter_map]
  split_ifs <;> rfl

/-- There is one position for each `*/`. -/
theorem length_endsAt (cs : List Char) : (endsAt cs).length = commentEnds cs := by
  induction cs with
  | nil => rfl
  | cons c rest ih =>
    rw [endsAt_cons, commentEnds_cons_eq, List.length_append, List.length_map, ih, Nat.add_comm]
    split_ifs <;> rfl

theorem endsAt_eq_nil_iff : endsAt cs = [] ↔ ¬ ['*', '/'] <:+: cs := by
  simp only [List.eq_nil_iff_forall_not_mem, mem_endsAt_iff]
  constructor
  · rintro h ⟨front, back, rfl⟩
    exact h front.length (by simp)
  · rintro h i ⟨back, hback⟩
    exact h ⟨cs.take i, back, by rw [List.append_assoc, hback, List.take_append_drop]⟩

/-! ### The escape -/

theorem partedAt_map_succ (positions : List Nat) (c : Char) (cs : List Char) :
    partedAt (positions.map (· + 1)) (c :: cs) = c :: partedAt positions cs := by
  induction positions with
  | nil => rfl
  | cons i positions ih =>
    simp only [partedAt, List.map_cons, List.foldr_cons] at ih ⊢
    rw [ih, List.insertIdx_succ_cons]

/-- The escape puts one blank into each `*/`, and changes nothing else. -/
theorem escapeEnds_eq_partedAt (cs : List Char) : escapeEnds cs = partedAt (endsAt cs) cs := by
  fun_induction escapeEnds cs with
  | case1 rest ih =>
    -- The first position is that of the star, and the others lie behind the slash.
    have hpositions :
        endsAt ('*' :: '/' :: rest) = 0 :: ((endsAt rest).map (· + 1)).map (· + 1) := by
      simp [endsAt_cons]
    have hrest : partedAt (((endsAt rest).map (· + 1)).map (· + 1)) ('*' :: '/' :: rest) =
        '*' :: '/' :: escapeEnds rest := by
      rw [partedAt_map_succ, partedAt_map_succ, ih]
    rw [hpositions, partedAt, List.foldr_cons, ← partedAt, hrest]
    rfl
  | case2 c rest hc ih =>
    have hpositions : endsAt (c :: rest) = (endsAt rest).map (· + 1) := by
      rw [endsAt_cons, if_neg, List.nil_append]
      rintro ⟨rfl, hslash⟩
      obtain ⟨tail, rfl⟩ := List.head?_eq_some_iff.mp hslash
      exact hc tail rfl rfl
    rw [hpositions, partedAt_map_succ, ih]
  | case3 => rfl

/-- What was put in behind positions can be taken out there. -/
theorem rejoinedAt_partedAt (positions : List Nat) (cs : List Char) :
    rejoinedAt positions (partedAt positions cs) = cs := by
  induction positions with
  | nil => rfl
  | cons i positions ih =>
    rw [partedAt, List.foldr_cons, ← partedAt, rejoinedAt, List.foldl_cons,
      List.eraseIdx_insertIdx_self, ← rejoinedAt, ih]

theorem length_escapeEnds (cs : List Char) :
    (escapeEnds cs).length = cs.length + (endsAt cs).length := by
  rw [length_endsAt]
  fun_induction escapeEnds cs with
  | case1 rest ih =>
    rw [commentEnds]
    simp only [List.length_cons, ih]
    omega
  | case2 c rest hc ih =>
    rw [commentEnds.eq_2 c rest hc]
    simp only [List.length_cons, ih]
    omega
  | case3 => rfl

/-- The escape leaves a text as it is exactly if the text holds no `*/`. -/
theorem escapeEnds_eq_self_iff : escapeEnds cs = cs ↔ ¬ ['*', '/'] <:+: cs := by
  rw [← endsAt_eq_nil_iff]
  constructor
  · intro h
    have hlength := length_escapeEnds cs
    rw [h] at hlength
    exact List.eq_nil_of_length_eq_zero (by omega)
  · intro h
    rw [escapeEnds_eq_partedAt, h]
    rfl

theorem not_isInfix_escapeEnds (cs : List Char) : ¬ ['*', '/'] <:+: escapeEnds cs := by
  rw [← endsAt_eq_nil_iff, ← List.length_eq_zero_iff, length_endsAt, commentEnds_escapeEnds]

end Text

namespace Frame

open Text (endsAt partedAt rejoinedAt)

variable {style : Style}

/-- The banner is one comment and a blank line, and the comment ends nowhere but there. -/
theorem exists_endsAt_banner (subject : String) (digest : Digest) (hbanner : style.banner = true) :
    ∃ inside, (Text.unlines (banner subject digest style)).toList =
        ['/', '*'] ++ inside ++ ['*', '/', '\n', '\n'] ∧
      endsAt (Text.unlines (banner subject digest style)).toList = [inside.length + 2] := by
  obtain ⟨inside, -, htext⟩ := exists_comment_of_banner subject digest hbanner
  have hcount : (endsAt (Text.unlines (banner subject digest style)).toList).length = 1 := by
    rw [Text.length_endsAt, Text.commentEnds_unlines, commentEndsIn_banner]
    exact if_pos hbanner
  refine ⟨inside, by simp [htext], ?_⟩
  -- There is only one position, and the mark that closes the banner stands at this one.
  obtain ⟨i, hi⟩ := List.length_eq_one_iff.mp hcount
  have hclose : inside.length + 2 ∈ endsAt (Text.unlines (banner subject digest style)).toList := by
    rw [Text.mem_endsAt_iff, htext]
    simp
  rw [hi, List.mem_singleton] at hclose
  rw [hi, hclose]

/-- Escaped text holds no `*/`, and escaping it again changes nothing. A text stays as it is exactly
if it holds no `*/`. Otherwise one blank is put into each `*/`, so the text grows by as many
characters, and it is read back by taking the blanks out. Whatever subject and digest a banner
names, it starts a comment, holds a single `*/`, and ends with two line feeds behind that. -/
theorem escape_minimal_and_banner_closed :
    (∀ text : String,
      ¬ "*/".toList <:+: (Text.commentText text).toList ∧
      Text.commentText (Text.commentText text) = Text.commentText text ∧
      (Text.commentText text = text ↔ ¬ "*/".toList <:+: text.toList) ∧
      (Text.commentText text).toList = partedAt (endsAt text.toList) text.toList ∧
      (Text.commentText text).length = text.length + (endsAt text.toList).length ∧
      rejoinedAt (endsAt text.toList) (Text.commentText text).toList = text.toList) ∧
    ∀ subject digest (style : Style), style.banner = true →
      ∃ inside : String,
        Text.unlines (banner subject digest style) = "/*" ++ inside ++ "*/" ++ "\n\n" ∧
        endsAt (Text.unlines (banner subject digest style)).toList = [("/*" ++ inside).length] := by
  have hmark : "*/".toList = ['*', '/'] := rfl
  constructor
  · intro text
    have hself (s : String) : Text.commentText s = s ↔ ¬ "*/".toList <:+: s.toList := by
      rw [← String.toList_inj, Text.toList_commentText, hmark, Text.escapeEnds_eq_self_iff]
    have hnone : ¬ "*/".toList <:+: (Text.commentText text).toList := by
      rw [Text.toList_commentText, hmark]
      exact Text.not_isInfix_escapeEnds text.toList
    refine ⟨hnone, (hself _).mpr hnone, hself text, ?_, ?_, ?_⟩
    · rw [Text.toList_commentText, Text.escapeEnds_eq_partedAt]
    · rw [← String.length_toList, Text.toList_commentText, Text.length_escapeEnds,
        String.length_toList]
    · rw [Text.toList_commentText, Text.escapeEnds_eq_partedAt, Text.rejoinedAt_partedAt]
  · intro subject digest style hbanner
    obtain ⟨inside, htext, hends⟩ := exists_endsAt_banner subject digest hbanner
    refine ⟨String.ofList inside, ?_, ?_⟩
    · rw [← String.toList_inj, htext]
      simp
    · have hopen : "/*".length = 2 := rfl
      rw [hends, String.length_append, hopen, String.length_ofList, Nat.add_comm]

/-- A text in which two ends could overlap, and a banner whose subject is the end of a comment. -/
theorem escape_minimal_and_banner_closed_at_stars :
    ((Text.commentText "**/*/").toList = partedAt (endsAt "**/*/".toList) "**/*/".toList ∧
      Text.commentText "**/*/" = "** /* /") ∧
    ∃ inside : String,
      Text.unlines (banner "*/" (.ofText "") {}) = "/*" ++ inside ++ "*/" ++ "\n\n" ∧
      endsAt (Text.unlines (banner "*/" (.ofText "") {})).toList = [("/*" ++ inside).length] :=
  ⟨⟨(escape_minimal_and_banner_closed.1 "**/*/").2.2.2.1, by decide⟩,
    escape_minimal_and_banner_closed.2 "*/" (.ofText "") {} rfl⟩

end Frame

end Boilerplate
