import Boilerplate.CType.Parser
import Boilerplate.Proofs.Basic
import Mathlib.Logic.Function.Iterate
import Mathlib.Tactic.FinCases

/-!
# The grammar of declared types

The reader of a type is greedy: it takes as many words as belong together and then a suffix. This
module states what it reads as a grammar that says nothing about the order of reading: an optional
`const`, then words that name a type, then stars and further `const`s.

## Main definitions

* `CType.wordTypes` — the types that are named by fixed words
* `CType.Names` — whether tokens name a type, one of those or a structure
* `CType.Declares` — whether tokens declare a type

## Main results

* `specifier_append` — words that name a type are read as a whole, and no further
* `names_of_specifier` — what was read names the type
* `parse_eq_ok_iff` — the reader accepts exactly the grammar
-/

namespace Boilerplate.CType

variable {ts rest marks : List Token} {t u : CType} {input : String}

/-- The types that are named by fixed words, with the words. -/
def wordTypes : List (List String × CType) :=
  [(["void"], .void), (["char"], .scalar .char), (["short"], .scalar .short),
    (["int"], .scalar .int), (["long"], .scalar .long), (["long", "long"], .scalar .longLong),
    (["long", "double"], .scalar .longDouble), (["float"], .scalar .float),
    (["double"], .scalar .double), (["_Bool"], .scalar .bool), (["bool"], .scalar .bool),
    (["size_t"], .scalar .size),
    (["int8_t"], .scalar .int8), (["int16_t"], .scalar .int16), (["int32_t"], .scalar .int32),
    (["int64_t"], .scalar .int64), (["uint8_t"], .scalar .uint8), (["uint16_t"], .scalar .uint16),
    (["uint32_t"], .scalar .uint32), (["uint64_t"], .scalar .uint64),
    (["unsigned"], .scalar .unsignedInt), (["unsigned", "char"], .scalar .unsignedChar),
    (["unsigned", "short"], .scalar .unsignedShort), (["unsigned", "int"], .scalar .unsignedInt),
    (["unsigned", "long"], .scalar .unsignedLong),
    (["unsigned", "long", "long"], .scalar .unsignedLongLong),
    (["signed"], .scalar .int), (["signed", "char"], .scalar .signedChar),
    (["signed", "short"], .scalar .short), (["signed", "int"], .scalar .int),
    (["signed", "long"], .scalar .long), (["signed", "long", "long"], .scalar .longLong)]

/-- Whether tokens name a type: by fixed words, or as the structure with a tag. -/
inductive Names : List Token → CType → Prop
  | words {words : List String} {t : CType} (h : (words, t) ∈ wordTypes) :
    Names (words.map .word) t
  | struct (tag : String) : Names [.word "struct", .word tag] (.struct tag)

/-- The word `const`, or nothing in its place. -/
def leading (constant : Bool) : List Token := if constant then [.word "const"] else []

/-- A type, made constant or left as it is. -/
def qualify (constant : Bool) (t : CType) : CType := if constant then .const t else t

/-- Whether tokens are such as may follow the name of a type. -/
def AreMarks (ts : List Token) : Prop := ∀ x ∈ ts, x = .star ∨ x = .word "const"

/-- Whether tokens declare a type: an optional `const` that makes the named type constant, the name,
and then stars, each of them for a pointer, and `const`s that change nothing. -/
def Declares (ts : List Token) (t : CType) : Prop :=
  ∃ constant base marks u, ts = leading constant ++ base ++ marks ∧ Names base u ∧
    AreMarks marks ∧ t = pointer^[marks.count .star] (qualify constant u)

/-! ### Names of types -/

theorem areMarks_cons {x : Token} :
    AreMarks (x :: ts) ↔ (x = .star ∨ x = .word "const") ∧ AreMarks ts :=
  List.forall_mem_cons

/-- The words that name a type are read as a whole, and nothing of what may follow them. -/
theorem specifier_append (h : Names ts t) (hmarks : AreMarks marks) :
    specifier (ts ++ marks) = .ok (t, marks) := by
  cases h with
  | words h =>
    -- What follows starts with a star or with `const`, neither of which continues a name.
    cases marks with
    | nil => fin_cases h <;> rfl
    | cons x marks => rcases (areMarks_cons.mp hmarks).1 with rfl | rfl <;> fin_cases h <;> rfl
  | struct tag => rfl

theorem mem_wordTypes_of_ofWord? {w : String} (h : ofWord? w = some t) : ([w], t) ∈ wordTypes := by
  unfold ofWord? at h
  split at h <;> cases h <;> decide

/-- The words that are read after `unsigned` belong to it. -/
theorem exists_words_of_afterUnsigned {kind : Scalar} (h : afterUnsigned ts = (kind, rest)) :
    ∃ words, ts = words.map .word ++ rest ∧ ("unsigned" :: words, .scalar kind) ∈ wordTypes := by
  revert h
  fun_cases afterUnsigned ts <;> intro h <;> cases h
  · exact ⟨["char"], rfl, by decide⟩
  · exact ⟨["short"], rfl, by decide⟩
  · exact ⟨["int"], rfl, by decide⟩
  · exact ⟨["long", "long"], rfl, by decide⟩
  · exact ⟨["long"], rfl, by decide⟩
  · exact ⟨[], rfl, by decide⟩

/-- The words that are read after `signed` belong to it. -/
theorem exists_words_of_afterSigned {kind : Scalar} (h : afterSigned ts = (kind, rest)) :
    ∃ words, ts = words.map .word ++ rest ∧ ("signed" :: words, .scalar kind) ∈ wordTypes := by
  revert h
  fun_cases afterSigned ts <;> intro h <;> cases h
  · exact ⟨["char"], rfl, by decide⟩
  · exact ⟨["short"], rfl, by decide⟩
  · exact ⟨["int"], rfl, by decide⟩
  · exact ⟨["long", "long"], rfl, by decide⟩
  · exact ⟨["long"], rfl, by decide⟩
  · exact ⟨[], rfl, by decide⟩

/-- The tokens that were read name the type. -/
theorem names_of_specifier (h : specifier ts = .ok (t, rest)) :
    ∃ base, ts = base ++ rest ∧ Names base t := by
  revert h
  -- What remains are the branches of the reader that succeed.
  fun_cases specifier ts <;> intro h <;> cases h
  case case3 tag => exact ⟨_, rfl, .struct tag⟩
  case case5 more =>
    obtain ⟨words, hmore, hwords⟩ := exists_words_of_afterUnsigned (Eq.refl (afterUnsigned more))
    exact ⟨_, congrArg (List.cons _) hmore, .words hwords⟩
  case case6 more =>
    obtain ⟨words, hmore, hwords⟩ := exists_words_of_afterSigned (Eq.refl (afterSigned more))
    exact ⟨_, congrArg (List.cons _) hmore, .words hwords⟩
  case case7 => exact ⟨["long", "long"].map .word, rfl, .words (by decide)⟩
  case case8 => exact ⟨["long", "double"].map .word, rfl, .words (by decide)⟩
  case case9 =>
    rename ofWord? _ = some t => hword
    exact ⟨[_].map .word, rfl, .words (mem_wordTypes_of_ofWord? hword)⟩

/-! ### Declarations -/

theorem Names.ne_nil (h : Names ts t) : ts ≠ [] := by
  cases h with
  | words h => fin_cases h <;> exact List.cons_ne_nil _ _
  | struct tag => exact List.cons_ne_nil _ _

theorem qualified_const_cons (h : ts ≠ []) :
    qualified (.word "const" :: ts) = (specifier ts).map fun (t, rest) => (.const t, rest) := by
  cases ts with
  | nil => exact absurd rfl h
  | cons x ts => rfl

/-- No name starts with `const`. -/
theorem qualified_eq_specifier (h : Names ts t) (more : List Token) :
    qualified (ts ++ more) = specifier (ts ++ more) := by
  cases h with
  | words h => fin_cases h <;> rfl
  | struct tag => rfl

/-- An optional `const` and the words that name a type are read as a whole. -/
theorem qualified_append {constant : Bool} (h : Names ts t) (hmarks : AreMarks marks) :
    qualified (leading constant ++ ts ++ marks) = .ok (qualify constant t, marks) := by
  cases constant with
  | true =>
    have hne : ts ++ marks ≠ [] := List.append_ne_nil_of_left_ne_nil h.ne_nil marks
    have hleading : leading true ++ ts ++ marks = .word "const" :: (ts ++ marks) := rfl
    rw [hleading, qualified_const_cons hne, specifier_append h hmarks]
    rfl
  | false => exact (qualified_eq_specifier h marks).trans (specifier_append h hmarks)

/-- What was read before the suffix is an optional `const` and a name. -/
theorem names_of_qualified (h : qualified ts = .ok (t, rest)) :
    ∃ constant base u, ts = leading constant ++ base ++ rest ∧ Names base u ∧
      t = qualify constant u := by
  revert h
  fun_cases qualified ts <;> intro h
  case case1 => cases h
  case case2 =>
    -- The `const` in front has been taken off, and the name starts after it.
    obtain ⟨⟨u, rest'⟩, hspecifier, heq⟩ := map_eq_ok_iff.mp h
    obtain ⟨rfl, rfl⟩ := Prod.mk.inj heq
    obtain ⟨base, rfl, hnames⟩ := names_of_specifier hspecifier
    exact ⟨true, base, u, rfl, hnames, rfl⟩
  case case3 =>
    obtain ⟨base, rfl, hnames⟩ := names_of_specifier h
    exact ⟨false, base, t, rfl, hnames, rfl⟩

/-- A suffix is accepted exactly if it consists of stars and `const`s. Each star makes a pointer. -/
theorem suffix_eq_ok_iff :
    suffix input t ts = .ok u ↔ AreMarks ts ∧ u = pointer^[ts.count .star] t := by
  induction ts generalizing t with
  | nil => simp [suffix, AreMarks, eq_comm]
  | cons x ts ih =>
    rw [areMarks_cons]
    cases x with
    | star => simp [suffix, ih]
    | word w =>
      -- A `const` among the stars is accepted, but leaves no trace in the type.
      by_cases hw : w = "const"
      · subst hw
        simp [suffix, ih]
      · simp [suffix, hw]

/-- The reader of types accepts exactly the grammar. -/
theorem ofTokens_eq_ok_iff : ofTokens input ts = .ok t ↔ Declares ts t := by
  rw [ofTokens, bind_eq_ok_iff]
  constructor
  · intro ⟨⟨u, rest⟩, hqualified, hsuffix⟩
    obtain ⟨hmarks, rfl⟩ := suffix_eq_ok_iff.mp hsuffix
    obtain ⟨constant, base, v, hts, hnames, rfl⟩ := names_of_qualified hqualified
    exact ⟨constant, base, rest, v, hts, hnames, hmarks, rfl⟩
  · rintro ⟨constant, base, marks, u, rfl, hnames, hmarks, rfl⟩
    exact ⟨_, qualified_append hnames hmarks, suffix_eq_ok_iff.mpr ⟨hmarks, rfl⟩⟩

/-- A text declares a type exactly if its tokens do. -/
theorem parse_eq_ok_iff : parse input = .ok t ↔ Declares (Token.ofText input) t :=
  ofTokens_eq_ok_iff

end Boilerplate.CType
