import Boilerplate.CType.Token

/-!
# What the tokens of a text are

The tokens of a text are read from its end, one character at a time. Seen from outside, a text may
be cut before any star or blank: its tokens are those of the two parts. And no word is empty or
holds a blank or a star.

## Main definitions

* `Token.IsWord` — the texts that can be words

## Main results

* `ofList_append` — the tokens of a text that is cut before a star or a blank
* `isWord_of_mem` — what words look like
* `ofText_word` — a text that can be a word is read as one
-/

namespace Boilerplate.Token

variable {s w : String} {cs rest : List Char} {c : Char}

/-- The texts that can be words: not empty, and without blanks and stars. -/
def IsWord (w : String) : Prop :=
  w ≠ "" ∧ ∀ c ∈ w.toList, Text.isBlank c = false ∧ c ≠ '*'

@[simp] theorem scan_star (cs : List Char) : scan ('*' :: cs) = ([], star :: ofList cs) := rfl

theorem scan_blank (h : Text.isBlank c = true) (cs : List Char) :
    scan (c :: cs) = ([], ofList cs) := by
  have hc : c ≠ '*' := by rintro rfl; revert h; decide
  simp [scan, hc, h, ofList]

theorem scan_cons (hstar : c ≠ '*') (hblank : Text.isBlank c = false) (cs : List Char) :
    scan (c :: cs) = (c :: (scan cs).1, (scan cs).2) := by
  simp [scan, hstar, hblank]

theorem pushWord_append (cs : List Char) (ts us : List Token) :
    pushWord cs (ts ++ us) = pushWord cs ts ++ us := by
  cases cs <;> rfl

theorem pushWord_of_ne_nil (h : cs ≠ []) (ts : List Token) :
    pushWord cs ts = word (String.ofList cs) :: ts := by
  cases cs with
  | nil => exact absurd rfl h
  | cons c cs => rfl

theorem mem_pushWord_of_mem {t : Token} {ts : List Token} (h : t ∈ ts) : t ∈ pushWord cs ts := by
  cases cs with
  | nil => exact h
  | cons c cs => exact List.mem_cons_of_mem _ h

/-- What follows a text does not change how the text is read if it starts with no word. -/
theorem scan_append (h : (scan rest).1 = []) (cs : List Char) :
    scan (cs ++ rest) = ((scan cs).1, (scan cs).2 ++ (scan rest).2) := by
  induction cs with
  | nil => exact Prod.ext h rfl
  | cons c cs ih =>
    have htail : ofList (cs ++ rest) = ofList cs ++ (scan rest).2 := by
      rw [ofList, ih, pushWord_append, ofList]
    by_cases hstar : c = '*'
    · subst hstar
      rw [List.cons_append, scan_star, scan_star, htail, List.cons_append]
    · cases hblank : Text.isBlank c with
      | true => rw [List.cons_append, scan_blank hblank, scan_blank hblank, htail]
      | false => rw [List.cons_append, scan_cons hstar hblank, scan_cons hstar hblank, ih]

/-- A text may be cut before a star or a blank. -/
theorem ofList_append (h : (scan rest).1 = []) (cs : List Char) :
    ofList (cs ++ rest) = ofList cs ++ ofList rest := by
  have hrest : ofList rest = (scan rest).2 := by rw [ofList, h]; rfl
  rw [ofList, scan_append h, pushWord_append, hrest, ofList]

theorem ofList_append_star (cs rest : List Char) :
    ofList (cs ++ '*' :: rest) = ofList cs ++ star :: ofList rest := by
  rw [ofList_append rfl, ofList_star]

theorem ofList_append_blank (h : Text.isBlank c = true) (cs rest : List Char) :
    ofList (cs ++ c :: rest) = ofList cs ++ ofList rest := by
  rw [ofList_append (by rw [scan_blank h]), ofList_blank h]

/-- A text without stars and blanks is read as the start of a word. -/
theorem scan_word (h : ∀ c ∈ cs, Text.isBlank c = false ∧ c ≠ '*') : scan cs = (cs, []) := by
  induction cs with
  | nil => rfl
  | cons c cs ih =>
    rw [List.forall_mem_cons] at h
    rw [scan_cons h.1.2 h.1.1, ih h.2]

/-- A text that can be a word is read as that word. -/
theorem ofText_word (h : IsWord w) : ofText w = [word w] := by
  have hne : w.toList ≠ [] := fun hnil => h.1 (String.toList_eq_nil_iff.mp hnil)
  rw [ofText, ofList, scan_word h.2, pushWord_of_ne_nil hne, String.ofList_toList]

theorem ofText_append_blank (s t : String) : ofText (s ++ " " ++ t) = ofText s ++ ofText t := by
  have hchars : (s ++ " " ++ t).toList = s.toList ++ ' ' :: t.toList := by simp
  rw [ofText, hchars, ofList_append_blank (by decide), ofText, ofText]

theorem ofText_append_star (s : String) : ofText (s ++ "*") = ofText s ++ [star] := by
  have hchars : (s ++ "*").toList = s.toList ++ '*' :: [] := by simp
  rw [ofText, hchars, ofList_append_star, ofText, ofList_nil]

/-- The characters read for the word at the front of a text are those of words. -/
theorem mem_scan_fst (h : c ∈ (scan cs).1) : Text.isBlank c = false ∧ c ≠ '*' := by
  induction cs with
  | nil => cases h
  | cons d cs ih =>
    by_cases hstar : d = '*'
    · subst hstar; cases h
    · cases hblank : Text.isBlank d with
      | true => rw [scan_blank hblank] at h; cases h
      | false =>
        rw [scan_cons hstar hblank] at h
        rcases List.mem_cons.mp h with rfl | h
        · exact ⟨hblank, hstar⟩
        · exact ih h

/-- Words are read off without blanks and stars, and none of them is empty. -/
theorem isWord_of_mem_ofList (h : word w ∈ ofList cs) : IsWord w := by
  induction cs with
  | nil => cases h
  | cons d cs ih =>
    by_cases hstar : d = '*'
    · subst hstar
      rw [ofList_star] at h
      exact ih ((List.mem_cons.mp h).resolve_left (by simp))
    · cases hblank : Text.isBlank d with
      | true =>
        rw [ofList_blank hblank] at h
        exact ih h
      | false =>
        -- The character starts a word or continues the one after it; other words stay as they are.
        have hscan := scan_cons hstar hblank cs
        rw [ofList, hscan, pushWord_of_ne_nil (List.cons_ne_nil _ _)] at h
        rcases List.mem_cons.mp h with hw | h
        · obtain rfl : w = String.ofList (d :: (scan cs).1) := Token.word.inj hw
          refine ⟨by simp [← String.toList_inj], fun c hc => ?_⟩
          rw [String.toList_ofList] at hc
          have hmem : c ∈ (scan (d :: cs)).1 := by rwa [hscan]
          exact mem_scan_fst hmem
        · exact ih (mem_pushWord_of_mem h)

/-- Every word among the tokens of a text can be a word. -/
theorem isWord_of_mem (h : word w ∈ ofText s) : IsWord w := isWord_of_mem_ofList h

end Boilerplate.Token
