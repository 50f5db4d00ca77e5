import Boilerplate.Proofs.CType.Grammar

/-!
# How a declared type splits

The grammar of declared types says that tokens can be split into an optional `const`, the name of a
type, and marks. Words such as `long` and `unsigned` name a type alone and also start longer names,
and the tag of a structure may be any word, `const` included. Still there is never more than one
way to split: no name starts with `const`, and nothing that may follow a name continues it.

## Main definitions

* `CType.Split` — a way to split tokens, with the type that is named
* `CType.Split.type` — the type that is declared

## Main results

* `Split.subsingleton` — there is at most one way
* `parse_iff_split` — a text declares a type exactly if its tokens can be split
-/

namespace Boilerplate.CType

variable {ts marks marks' base base' : List Token} {t u : CType}

/-- A way to split tokens into an optional `const`, the name of a type, and marks, which are stars
and `const`s. -/
@[ext]
structure Split (ts : List Token) where
  constant : Bool
  base : List Token
  marks : List Token
  /-- The type that is named. -/
  named : CType
  eq_append : ts = leading constant ++ base ++ marks
  names : Names base named
  areMarks : AreMarks marks

/-- The type that is declared: the named one, constant if `const` stands in front, under as many
pointers as there are stars among the marks. -/
def Split.type (split : Split ts) : CType :=
  pointer^[split.marks.count .star] (qualify split.constant split.named)

theorem declares_iff_exists_split : Declares ts t ↔ ∃ split : Split ts, split.type = t := by
  constructor
  · rintro ⟨constant, base, marks, u, hts, hnames, hmarks, rfl⟩
    exact ⟨⟨constant, base, marks, u, hts, hnames, hmarks⟩, rfl⟩
  · rintro ⟨split, rfl⟩
    exact ⟨_, _, _, _, split.eq_append, split.names, split.areMarks, rfl⟩

/-! ### Uniqueness -/

/-- No name starts with `const`. -/
theorem Names.head?_ne_const (h : Names ts t) : ts.head? ≠ some (.word "const") := by
  cases h with
  | words h => fin_cases h <;> decide
  | struct tag => simp

/-- A name in front of marks is read off as a whole, so it can be told where it ends. -/
theorem Names.append_inj (hnames : Names base t) (hnames' : Names base' u)
    (hmarks : AreMarks marks) (hmarks' : AreMarks marks')
    (h : base ++ marks = base' ++ marks') : base = base' ∧ t = u ∧ marks = marks' := by
  have hread := specifier_append hnames hmarks
  rw [h, specifier_append hnames' hmarks'] at hread
  obtain ⟨rfl, rfl⟩ := Prod.mk.inj (Except.ok.inj hread)
  exact ⟨List.append_cancel_right h, rfl, rfl⟩

namespace Split

/-- Whether a type is made constant is told from the first token. -/
theorem constant_iff (split : Split ts) :
    split.constant = true ↔ ts.head? = some (.word "const") := by
  obtain ⟨constant, base, marks, u, rfl, hnames, -⟩ := split
  have hfront : (base ++ marks).head? = base.head? :=
    List.head?_append_of_ne_nil _ hnames.ne_nil
  cases constant with
  | true => simp [leading]
  | false => simpa [leading, hfront] using hnames.head?_ne_const

/-- Tokens can be split in at most one way. -/
theorem subsingleton (ts : List Token) : Subsingleton (Split ts) := by
  constructor
  intro split other
  have hconstant : split.constant = other.constant := by
    rw [Bool.eq_iff_iff, split.constant_iff, other.constant_iff]
  have hrest : split.base ++ split.marks = other.base ++ other.marks := by
    have happend := split.eq_append.symm.trans other.eq_append
    rw [hconstant, List.append_assoc, List.append_assoc] at happend
    exact List.append_cancel_left happend
  obtain ⟨hbase, hnamed, hmarks⟩ :=
    split.names.append_inj other.names split.areMarks other.areMarks hrest
  exact Split.ext hconstant hbase hmarks hnamed

end Split

/-- A text declares a type exactly if its tokens can be split into an optional `const`, the name of
a type, and stars and `const`s. There is only one way to do so, and the type is the one that is
named, made constant exactly if `const` stands in front, under as many pointers as there are stars.
-/
theorem parse_iff_split (input : String) :
    ((∃ t, parse input = .ok t) ↔ Nonempty (Split (Token.ofText input))) ∧
      Subsingleton (Split (Token.ofText input)) ∧
      ∀ split : Split (Token.ofText input),
        parse input =
            .ok (pointer^[split.marks.count .star] (qualify split.constant split.named)) ∧
          (split.constant = true ↔ (Token.ofText input).head? = some (.word "const")) := by
  simp only [parse_eq_ok_iff, declares_iff_exists_split]
  refine ⟨?_, Split.subsingleton _, fun split => ⟨⟨split, rfl⟩, split.constant_iff⟩⟩
  constructor
  · rintro ⟨_, split, -⟩
    exact ⟨split⟩
  · rintro ⟨split⟩
    exact ⟨_, split, rfl⟩

/-- The tag of a structure may be `const`, and only what stands behind it is a mark. -/
example : parse "struct const const *" = .ok (.pointer (.struct "const")) := by decide

end Boilerplate.CType
