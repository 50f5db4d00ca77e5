import Boilerplate.Proofs.CType.Grammar
import Boilerplate.Proofs.CType.Token
import Boilerplate.Proofs.Joined
import Mathlib.Data.List.TakeWhile

/-!
# How tokens are laid out

A sequence of tokens can be written as a text in many ways. Blanks may stand in front of a token,
between two of them and behind the last one, and they must stand between two words. Around stars
they make no difference. A text is a layout of exactly one sequence of tokens, which is the one that
is read off it.

Tokens can also be found from the front: a text falls into parts at its blanks, and a part is cut at
its first star, again and again, until nothing of it is left. Every round takes something away, so
the rounds come to an end, and what they have found by then are the tokens of the part.

## Main definitions

* `Token.LaidOut` — whether a text is a layout of tokens
* `Token.parts` — the parts of a text between its blanks
* `Token.cut` — one round of cutting a part at its stars

## Main results

* `Token.ofList_eq_iff_laidOut` — the tokens of a text are those that it is a layout of
* `Token.exists_blanks_of_ofList` — two words that follow each other stand apart
* `Token.exists_rounds` — the rounds end with the tokens of a part
* `CType.tokens_exact` — all of it, and blanks around stars
-/

namespace Boilerplate

namespace Token

variable {a b u v w : String} {cs rest gap left part : List Char} {c : Char}
  {ts us front back : List Token}

/-! ### Layouts -/

/-- Whether no word goes on at the start of a text: a blank or a star stands there, or nothing. -/
def EndsWord (cs : List Char) : Prop := ∀ c ∈ cs.head?, Text.isBlank c = true ∨ c = '*'

/-- Whether a text is a layout of tokens: it is made of their texts, with blanks in between, and no
word is followed by more of its kind. -/
inductive LaidOut : List Token → List Char → Prop
  | nil : LaidOut [] []
  | blank {c : Char} {ts : List Token} {cs : List Char} (hc : Text.isBlank c = true)
    (h : LaidOut ts cs) : LaidOut ts (c :: cs)
  | star {ts : List Token} {cs : List Char} (h : LaidOut ts cs) : LaidOut (star :: ts) ('*' :: cs)
  | word {w : String} {ts : List Token} {cs : List Char} (hw : IsWord w) (hend : EndsWord cs)
    (h : LaidOut ts cs) : LaidOut (word w :: ts) (w.toList ++ cs)

theorem scan_fst_eq_nil (h : EndsWord cs) : (scan cs).1 = [] := by
  cases cs with
  | nil => rfl
  | cons c cs =>
    rcases h c rfl with hblank | rfl
    · rw [scan_blank hblank]
    · rw [scan_star]

theorem EndsWord.of_append (h : EndsWord (cs ++ rest)) : EndsWord cs := by
  cases cs with
  | nil => simp [EndsWord]
  | cons c cs => exact h

/-- A word does not start where another one ends. -/
theorem IsWord.not_endsWord_append (hw : IsWord w) (rest : List Char) :
    ¬ EndsWord (w.toList ++ rest) := by
  intro h
  cases hchars : w.toList with
  | nil => exact hw.1 (String.toList_eq_nil_iff.mp hchars)
  | cons c cs =>
    have hc := hw.2 c (by simp [hchars])
    rcases h c (by simp [hchars]) with hblank | hstar
    · simp [hblank] at hc
    · exact hc.2 hstar

theorem IsWord.ofList_append (hw : IsWord w) (hend : EndsWord rest) :
    ofList (w.toList ++ rest) = word w :: ofList rest := by
  have hword : ofList w.toList = [word w] := ofText_word hw
  rw [Token.ofList_append (scan_fst_eq_nil hend), hword, List.singleton_append]

/-- Tokens are read off every layout of them. -/
theorem LaidOut.ofList_eq (h : LaidOut ts cs) : ofList cs = ts := by
  induction h with
  | nil => rfl
  | blank hc _ ih => rw [ofList_blank hc, ih]
  | star _ ih => rw [ofList_star, ih]
  | word hw hend _ ih => rw [hw.ofList_append hend, ih]

theorem LaidOut.pushWord_append (hword : ∀ c ∈ cs, Text.isBlank c = false ∧ c ≠ '*')
    (hend : EndsWord rest) (h : LaidOut ts rest) : LaidOut (pushWord cs ts) (cs ++ rest) := by
  by_cases hne : cs = []
  · subst hne
    exact h
  · have hw : IsWord (String.ofList cs) := by
      refine ⟨?_, by simpa using hword⟩
      simpa [← String.toList_inj] using hne
    rw [pushWord_of_ne_nil hne]
    simpa using LaidOut.word hw hend h

/-- The word at the front of a text comes before the rest of the layout. -/
theorem LaidOut.of_scan (hcs : cs = (scan cs).1 ++ rest) (hend : EndsWord rest)
    (h : LaidOut (scan cs).2 rest) : LaidOut (ofList cs) cs := by
  have hword : ∀ c ∈ (scan cs).1, Text.isBlank c = false ∧ c ≠ '*' := fun _ => mem_scan_fst
  have hpush := LaidOut.pushWord_append hword hend h
  rwa [← hcs] at hpush

/-- Behind the word at the front of a text, the text is a layout of the other tokens. -/
theorem exists_laidOut_scan (cs : List Char) :
    ∃ rest, cs = (scan cs).1 ++ rest ∧ EndsWord rest ∧ LaidOut (scan cs).2 rest := by
  -- The word at the front is kept apart, since the character in front of it may belong to it.
  induction cs with
  | nil => exact ⟨[], rfl, by simp [EndsWord], .nil⟩
  | cons c cs ih =>
    obtain ⟨rest, hcs, hend, hrest⟩ := ih
    have hall : LaidOut (ofList cs) cs := .of_scan hcs hend hrest
    by_cases hstar : c = '*'
    · subst hstar
      exact ⟨'*' :: cs, rfl, by simp [EndsWord], .star hall⟩
    · cases hblank : Text.isBlank c with
      | true =>
        rw [scan_blank hblank]
        exact ⟨c :: cs, rfl, by simp [EndsWord, hblank], .blank hblank hall⟩
      | false =>
        rw [scan_cons hstar hblank]
        exact ⟨rest, congrArg (c :: ·) hcs, hend, hrest⟩

/-- A text is a layout of its tokens. -/
theorem laidOut_ofList (cs : List Char) : LaidOut (ofList cs) cs := by
  obtain ⟨rest, hcs, hend, hrest⟩ := exists_laidOut_scan cs
  exact .of_scan hcs hend hrest

/-- The tokens of a text are those that it is a layout of. -/
theorem ofList_eq_iff_laidOut : ofList cs = ts ↔ LaidOut ts cs := by
  constructor
  · rintro rfl
    exact laidOut_ofList cs
  · exact LaidOut.ofList_eq

/-! ### What a layout holds -/

/-- Nothing but blanks stands beside the tokens of a layout. -/
theorem LaidOut.flatMap_text (h : LaidOut ts cs) :
    ts.flatMap (·.text.toList) = cs.filter (!Text.isBlank ·) := by
  induction h with
  | nil => rfl
  | blank hc _ ih => simp [hc, ih]
  | star _ ih =>
    have hstar : Text.isBlank '*' = false := by decide
    rw [List.flatMap_cons, ih, List.filter_cons_of_pos (by simp [hstar])]
    rfl
  | @word w _ _ hw _ _ ih =>
    have hkept : w.toList.filter (!Text.isBlank ·) = w.toList :=
      List.filter_eq_self.mpr fun c hc => by simp [(hw.2 c hc).1]
    rw [List.flatMap_cons, List.filter_append, ih, hkept, text]

/-- A layout can be taken apart where its tokens are. -/
theorem LaidOut.append_inv (h : LaidOut (ts ++ us) cs) :
    ∃ before after, cs = before ++ after ∧ LaidOut ts before ∧ LaidOut us after := by
  generalize htokens : ts ++ us = all at h
  induction h generalizing ts with
  | nil =>
    obtain ⟨rfl, rfl⟩ := List.append_eq_nil_iff.mp htokens
    exact ⟨[], [], rfl, .nil, .nil⟩
  | @blank c _ _ hc _ ih =>
    obtain ⟨before, after, rfl, hbefore, hafter⟩ := ih htokens
    exact ⟨c :: before, after, rfl, .blank hc hbefore, hafter⟩
  | @star all cs h ih =>
    cases ts with
    | nil =>
      obtain rfl : us = Token.star :: all := htokens
      exact ⟨[], '*' :: cs, rfl, .nil, .star h⟩
    | cons t ts =>
      obtain ⟨rfl, hrest⟩ := List.cons.inj htokens
      obtain ⟨before, after, rfl, hbefore, hafter⟩ := ih hrest
      exact ⟨'*' :: before, after, rfl, .star hbefore, hafter⟩
  | @word w all cs hw hend h ih =>
    cases ts with
    | nil =>
      obtain rfl : us = Token.word w :: all := htokens
      exact ⟨[], w.toList ++ cs, rfl, .nil, .word hw hend h⟩
    | cons t ts =>
      obtain ⟨rfl, hrest⟩ := List.cons.inj htokens
      obtain ⟨before, after, rfl, hbefore, hafter⟩ := ih hrest
      exact ⟨w.toList ++ before, after, (List.append_assoc ..).symm,
        .word hw hend.of_append hbefore, hafter⟩

/-- Only blanks stand in front of the first word of a layout, and behind it no word goes on. -/
theorem LaidOut.word_inv (h : LaidOut (.word w :: ts) cs) :
    ∃ gap rest, cs = gap ++ w.toList ++ rest ∧ gap.all Text.isBlank = true ∧ IsWord w ∧
      EndsWord rest ∧ LaidOut ts rest := by
  generalize htokens : Token.word w :: ts = all at h
  induction h with
  | nil => cases htokens
  | @blank c _ _ hc _ ih =>
    obtain ⟨gap, rest, rfl, hgap, hw, hend, hrest⟩ := ih htokens
    exact ⟨c :: gap, rest, rfl, by simp [hc, hgap], hw, hend, hrest⟩
  | star => cases htokens
  | @word _ _ cs hw hend h =>
    obtain ⟨hword, rfl⟩ := List.cons.inj htokens
    obtain rfl := Token.word.inj hword
    exact ⟨[], cs, rfl, rfl, hw, hend, h⟩

theorem ofList_blanks_append (h : gap.all Text.isBlank = true) (cs : List Char) :
    ofList (gap ++ cs) = ofList cs := by
  induction gap with
  | nil => rfl
  | cons c gap ih =>
    rw [List.all_cons, Bool.and_eq_true] at h
    rw [List.cons_append, ofList_blank h.1, ih h.2]

theorem endsWord_of_blanks (h : gap.all Text.isBlank = true) : EndsWord gap := by
  cases gap with
  | nil => simp [EndsWord]
  | cons c gap =>
    rw [List.all_cons, Bool.and_eq_true] at h
    simp [EndsWord, h.1]

theorem ofList_append_blanks (h : gap.all Text.isBlank = true) (cs : List Char) :
    ofList (cs ++ gap) = ofList cs := by
  have hgap : ofList gap = [] := by simpa using ofList_blanks_append h []
  rw [ofList_append (scan_fst_eq_nil (endsWord_of_blanks h)), hgap, List.append_nil]

/-- Two words that follow each other stand apart in a text: blanks are between them, and what is in
front of the first and behind the second are layouts of the other tokens. -/
theorem exists_blanks_of_ofList (h : ofList cs = front ++ .word v :: .word w :: back) :
    ∃ before gap after, cs = before ++ v.toList ++ gap ++ w.toList ++ after ∧ gap ≠ [] ∧
      gap.all Text.isBlank = true ∧ ofList before = front ∧ ofList after = back := by
  obtain ⟨before, rest, rfl, hbefore, hrest⟩ := (ofList_eq_iff_laidOut.mp h).append_inv
  obtain ⟨lead, rest, rfl, hlead, -, hend, hrest⟩ := hrest.word_inv
  obtain ⟨gap, after, rfl, hgap, hw, -, hafter⟩ := hrest.word_inv
  refine ⟨before ++ lead, gap, after, by simp, ?_, hgap, ?_, hafter.ofList_eq⟩
  · -- Without a blank, the first word would go on with the second one.
    rintro rfl
    exact hw.not_endsWord_append after hend
  · rw [ofList_append_blanks hlead, hbefore.ofList_eq]

/-! ### Cutting in rounds -/

/-- The parts of a text between its blanks. -/
def parts (cs : List Char) : List (List Char) :=
  (cs.splitOnP Text.isBlank).filter (!·.isEmpty)

/-- One round of cutting a part at its first star, with the tokens found so far: what stands in
front of the star is a word, and what stands behind it is left. Without a star all of it is a word,
and nothing is left. -/
def cut : List Token × List Char → List Token × List Char
  | (found, left) =>
    match left.dropWhile (· != '*') with
    | [] => (found ++ pushWord left [], [])
    | _ :: rest => (found ++ pushWord (left.takeWhile (· != '*')) [star], rest)

theorem parts_append_blank (hc : Text.isBlank c = true) (cs rest : List Char) :
    parts (cs ++ c :: rest) = parts cs ++ parts rest := by
  rw [parts, List.splitOnP_append_cons cs rest hc, List.filter_append]
  rfl

theorem parts_of_no_blank (hne : cs ≠ []) (h : ∀ c ∈ cs, Text.isBlank c = false) :
    parts cs = [cs] := by
  rw [parts, List.splitOnP_eq_singleton h]
  simpa using hne

/-- The parts of a text have all of its tokens, and no blanks. -/
theorem parts_spec (cs : List Char) :
    (∀ part ∈ parts cs, ∀ c ∈ part, Text.isBlank c = false) ∧
      (parts cs).flatMap ofList = ofList cs := by
  -- A blank ends both the part and the token before it, so the text is cut at its first blank.
  induction cs using cutWhere_induction Text.isBlank with
  | uncut cs h =>
    by_cases hne : cs = []
    · subst hne
      exact ⟨by simp [parts], rfl⟩
    · rw [parts_of_no_blank hne h]
      exact ⟨by simpa using h, by simp⟩
  | cut front c rest hfront hc ih =>
    rw [parts_append_blank hc, ofList_append_blank hc, List.flatMap_append, ih.2]
    by_cases hne : front = []
    · subst hne
      exact ⟨by simpa [parts] using ih.1, rfl⟩
    · rw [parts_of_no_blank hne hfront]
      refine ⟨?_, by simp⟩
      intro part hpart
      rcases List.mem_append.mp hpart with hpart | hpart
      · obtain rfl := List.mem_singleton.mp hpart
        exact hfront
      · exact ih.1 part hpart

theorem cut_append_star {word : List Char} (h : '*' ∉ word) (found : List Token)
    (rest : List Char) :
    cut (found, word ++ '*' :: rest) = (found ++ pushWord word [star], rest) := by
  have hword : ∀ c ∈ word, (c != '*') = true := fun c hc =>
    bne_iff_ne.mpr (ne_of_mem_of_not_mem hc h)
  rw [cut, List.dropWhile_append_of_pos hword, List.takeWhile_append_of_pos hword]
  simp

theorem cut_of_star_not_mem (h : '*' ∉ left) (found : List Token) :
    cut (found, left) = (found ++ pushWord left [], []) := by
  have hword : left.dropWhile (· != '*') = [] :=
    List.dropWhile_eq_nil_iff.mpr fun c hc => bne_iff_ne.mpr (ne_of_mem_of_not_mem hc h)
  rw [cut, hword]

/-- A round takes something away from what is left, and the tokens that it finds are those of what
it takes away. -/
theorem exists_cut (hne : left ≠ []) (h : ∀ c ∈ left, Text.isBlank c = false)
    (found : List Token) :
    ∃ found' left', cut (found, left) = (found', left') ∧ left'.length < left.length ∧
      (∀ c ∈ left', Text.isBlank c = false) ∧ found' ++ ofList left' = found ++ ofList left := by
  have htokens {word : List Char} (hword : '*' ∉ word) (hmem : word ⊆ left) :
      ofList word = pushWord word [] := by
    rw [ofList, scan_word fun c hc => ⟨h c (hmem hc), ne_of_mem_of_not_mem hc hword⟩]
  by_cases hstar : '*' ∈ left
  · obtain ⟨word, rest, rfl, hword⟩ := List.eq_append_cons_of_mem hstar
    refine ⟨_, rest, cut_append_star hword found rest, by simp; omega, fun c hc => ?_, ?_⟩
    · exact h c (by simp [hc])
    · rw [ofList_append_star, htokens hword (List.subset_append_left _ _), List.append_assoc,
        ← pushWord_append, ← pushWord_append]
      rfl
  · refine ⟨_, [], cut_of_star_not_mem hstar found, ?_, by simp, ?_⟩
    · exact List.length_pos_iff.mpr hne
    · rw [htokens hstar (List.Subset.refl left), ofList_nil, List.append_nil]

/-- The rounds of a part come to an end: after at most as many as the part has characters nothing of
it is left, and all of its tokens are found. -/
theorem exists_rounds (h : ∀ c ∈ part, Text.isBlank c = false) (found : List Token) :
    ∃ rounds ≤ part.length, cut^[rounds] (found, part) = (found ++ ofList part, []) := by
  -- The induction is on the length of what is left, for any tokens found so far.
  induction hlength : part.length using Nat.strongRecOn generalizing part found with
  | _ n ih =>
    by_cases hne : part = []
    · subst hne
      exact ⟨0, Nat.zero_le _, by simp⟩
    · obtain ⟨found', left, hcut, hshorter, hblank, htokens⟩ := exists_cut hne h found
      obtain ⟨rounds, hrounds, hend⟩ := ih left.length (hlength ▸ hshorter) hblank found' rfl
      refine ⟨rounds + 1, by omega, ?_⟩
      rw [Function.iterate_succ_apply, hcut, hend, htokens]

/-! ### Blanks around stars -/

/-- The tokens of a text with a star do not depend on the blanks around the star. -/
theorem ofText_blanks_around_star (hu : u.toList.all Text.isBlank = true)
    (hv : v.toList.all Text.isBlank = true) :
    ofText (a ++ u ++ "*" ++ v ++ b) = ofText a ++ star :: ofText b := by
  have hchars : (a ++ u ++ "*" ++ v ++ b).toList =
      (a.toList ++ u.toList) ++ '*' :: (v.toList ++ b.toList) := by simp
  rw [ofText, hchars, ofList_append_star, ofList_append_blanks hu, ofList_blanks_append hv]
  rfl

end Token

namespace CType

open Token (IsWord ofText)

/-- The tokens of a text are found in rounds that come to an end, and they are the only ones that
the text is a layout of. Each of them is a star or a word, one behind the other they are the text
without its blanks, and between two words there is a blank. So a type does not depend on the blanks
around a star. -/
theorem tokens_exact :
    (∀ s : String,
      (ofText s = (Token.parts s.toList).flatMap Token.ofList ∧
        ∀ part ∈ Token.parts s.toList, ∀ found, ∃ rounds ≤ part.length,
          Token.cut^[rounds] (found, part) = (found ++ Token.ofList part, [])) ∧
      (∀ ts, ofText s = ts ↔ Token.LaidOut ts s.toList) ∧
      (∀ t ∈ ofText s, t = .star ∨ ∃ w, t = .word w ∧ IsWord w) ∧
      (String.join ((ofText s).map Token.text)).toList = s.toList.filter (!Text.isBlank ·) ∧
      ∀ front v w back, ofText s = front ++ .word v :: .word w :: back →
        ∃ before gap after, s = before ++ v ++ gap ++ w ++ after ∧ gap ≠ "" ∧
          gap.toList.all Text.isBlank = true ∧ ofText before = front ∧ ofText after = back) ∧
    ∀ a u v b : String, u.toList.all Text.isBlank = true → v.toList.all Text.isBlank = true →
      ∀ t, parse (a ++ u ++ "*" ++ v ++ b) = .ok t ↔ parse (a ++ "*" ++ b) = .ok t := by
  refine ⟨fun s => ⟨⟨?_, ?_⟩, fun ts => Token.ofList_eq_iff_laidOut, ?_, ?_, ?_⟩, ?_⟩
  · exact (Token.parts_spec s.toList).2.symm
  · intro part hpart found
    exact Token.exists_rounds ((Token.parts_spec s.toList).1 part hpart) found
  · intro t ht
    cases t with
    | star => exact .inl rfl
    | word w => exact .inr ⟨w, rfl, Token.isWord_of_mem ht⟩
  · rw [String.toList_join, List.flatMap_map]
    exact (Token.laidOut_ofList s.toList).flatMap_text
  · intro front v w back h
    obtain ⟨before, gap, after, hchars, hne, hgap, hbefore, hafter⟩ :=
      Token.exists_blanks_of_ofList h
    refine ⟨.ofList before, .ofList gap, .ofList after, ?_, ?_, by simpa using hgap, ?_, ?_⟩
    · simpa [← String.toList_inj] using hchars
    · simpa [← String.toList_inj] using hne
    · simpa [ofText] using hbefore
    · simpa [ofText] using hafter
  · intro a u v b hu hv t
    have hbare : ofText (a ++ "" ++ "*" ++ "" ++ b) = ofText a ++ .star :: ofText b :=
      Token.ofText_blanks_around_star rfl rfl
    rw [String.append_empty, String.append_empty] at hbare
    rw [parse_eq_ok_iff, parse_eq_ok_iff, Token.ofText_blanks_around_star hu hv, hbare]

/-- Two words behind an ideographic space and two stars, with blanks of several kinds around the
first of them. -/
theorem tokens_exact_at_const_char :
    "char**".toList ∈ Token.parts "const\u3000char**".toList ∧
      (∃ rounds ≤ 6, Token.cut^[rounds] ([], "char**".toList) =
        ([.word "char", .star, .star], [])) ∧
      Token.word "char" ∈ ofText "const\u3000char**" ∧
      (Token.word "char" = .star ∨ ∃ w, Token.word "char" = .word w ∧ IsWord w) ∧
      ofText "const\u3000char**" = [] ++ .word "const" :: .word "char" :: [.star, .star] ∧
      (∃ before gap after, "const\u3000char**" = before ++ "const" ++ gap ++ "char" ++ after ∧
        gap ≠ "" ∧ gap.toList.all Text.isBlank = true ∧ ofText before = [] ∧
        ofText after = [.star, .star]) ∧
      "\t ".toList.all Text.isBlank = true ∧ "\u00a0".toList.all Text.isBlank = true ∧
      parse ("const char" ++ "\t " ++ "*" ++ "\u00a0" ++ "*") =
        .ok (.pointer (.pointer (.const (.scalar .char)))) := by
  have hpart : "char**".toList ∈ Token.parts "const\u3000char**".toList := by decide
  have hchar : Token.word "char" ∈ ofText "const\u3000char**" := by decide
  have hwords :
      ofText "const\u3000char**" = [] ++ .word "const" :: .word "char" :: [.star, .star] := by
    decide
  have hu : "\t ".toList.all Text.isBlank = true := by decide
  have hv : "\u00a0".toList.all Text.isBlank = true := by decide
  have hbare : parse ("const char" ++ "*" ++ "*") =
      .ok (.pointer (.pointer (.const (.scalar .char)))) := by decide
  obtain ⟨⟨-, hrounds⟩, -, hshape, -, hapart⟩ := tokens_exact.1 "const\u3000char**"
  obtain ⟨rounds, hle, hend⟩ := hrounds _ hpart []
  exact ⟨hpart, ⟨rounds, hle, hend⟩, hchar, hshape _ hchar, hwords,
    hapart [] "const" "char" _ hwords, hu, hv,
    (tokens_exact.2 "const char" _ _ "*" hu hv _).mpr hbare⟩

end CType

end Boilerplate
