import Boilerplate.Proofs.CType.Grammar

/-!
# Reading a type by position

The reader of types takes tokens off the front and returns those that follow. The same can be done
by a position that moves along the tokens. Most of the tokens that are asked for this way must
exist: to ask for one behind the end is a mistake that no fault stands for. It never happens. Tokens
are looked at ahead of the position only as far as they exist, and the position that is reached is
never behind the end, so the tokens from there on can be taken for the marks.

## Main definitions

* `CType.Stop` — how a reading by position ends without a type
* `CType.tokenAt`, `CType.tokensFrom` — what stands at a position, and from there on
* `CType.qualifiedAt`, `CType.parseAt` — the readers, by position
* `CType.Agrees` — whether a reading by position does what a reading from the front does

## Main results

* `specifierAt_agrees`, `qualifiedAt_agrees` — the two ways to read agree
* `exists_used_of_qualified` — what was read is read in the same way if it stands alone
* `positions_in_range` — no position is out of range, neither on tokens nor on texts
-/

namespace Boilerplate.CType

/-! ### Readers that move a position -/

/-- How a reading by position ends without a type: with a fault, or because it asks for a position
that the tokens do not have. -/
inductive Stop
  | fault (cause : Fault)
  | outOfRange (pos : Nat)
  deriving DecidableEq, Repr

/-- The token at a position, where there must be one. -/
def tokenAt (ts : List Token) (pos : Nat) : Except Stop Token :=
  match ts[pos]? with
  | some t => .ok t
  | none => .error (.outOfRange pos)

/-- The tokens from a position on, which must not be behind their end. -/
def tokensFrom (ts : List Token) (pos : Nat) : Except Stop (List Token) :=
  if pos ≤ ts.length then .ok (ts.drop pos) else .error (.outOfRange pos)

/-- The integer type that the words from a position on name behind `unsigned` or `signed`, and the
position behind them. There need not be any. -/
def integerAt (ts : List Token) (unsigned : Bool) (pos : Nat) : Scalar × Nat :=
  match ts[pos]? with
  | some (.word "char") => (if unsigned then .unsignedChar else .signedChar, pos + 1)
  | some (.word "short") => (if unsigned then .unsignedShort else .short, pos + 1)
  | some (.word "int") => (if unsigned then .unsignedInt else .int, pos + 1)
  | some (.word "long") =>
    if ts[pos + 1]? = some (.word "long") then
      (if unsigned then .unsignedLongLong else .longLong, pos + 2)
    else
      (if unsigned then .unsignedLong else .long, pos + 1)
  | _ => (if unsigned then .unsignedInt else .int, pos)

/-- The type behind the word `long`, where `long` or `double` may follow. -/
def longAt (ts : List Token) (pos : Nat) : Scalar × Nat :=
  match ts[pos]? with
  | some (.word "long") => (.longLong, pos + 1)
  | some (.word "double") => (.longDouble, pos + 1)
  | _ => (.long, pos)

/-- Reads the words that name a type from a position on, and returns the position behind them. -/
def specifierAt (ts : List Token) (pos : Nat) : Except Stop (CType × Nat) := do
  if (← tokenAt ts pos) = .word "struct" then
    match ts[pos + 1]? with
    | some (.word tag) => .ok (.struct tag, pos + 2)
    | _ => .error (.fault .missingTag)
  else if (← tokenAt ts pos) = .word "unsigned" then
    .ok ((integerAt ts true (pos + 1)).map .scalar id)
  else if (← tokenAt ts pos) = .word "signed" then
    .ok ((integerAt ts false (pos + 1)).map .scalar id)
  else
    match ← tokenAt ts pos with
    | .star => .error (.fault (.unknownWord "*"))
    | .word "long" => .ok ((longAt ts (pos + 1)).map .scalar id)
    | .word w =>
      match ofWord? w with
      | some t => .ok (t, pos + 1)
      | none => .error (.fault (.unknownWord w))

/-- Reads an optional `const` and the words that name a type. -/
def qualifiedAt (ts : List Token) : Except Stop (CType × Nat) := do
  if (← tokenAt ts 0) = .word "const" then
    if ts.length ≤ 1 then
      .error (.fault .endsAfterConst)
    else
      let (t, next) ← specifierAt ts 1
      .ok (.const t, next)
  else
    specifierAt ts 0

/-- The type that a text declares, read by position. -/
def parseAt (input : String) : Except Stop CType := do
  let ts := Token.ofText input
  if ts.isEmpty then
    .error (.fault .empty)
  else
    let (t, next) ← qualifiedAt ts
    (suffix input t (← tokensFrom ts next)).mapError .fault

/-- Whether a reading by position does what a reading from the front does: it stops with the same
fault, or finds the same type and reaches the position where the tokens that follow start. -/
inductive Agrees (ts : List Token) :
    Except Stop (CType × Nat) → Except Fault (CType × List Token) → Prop
  | fault (cause : Fault) : Agrees ts (.error (.fault cause)) (.error cause)
  | read (t : CType) {used rest : List Token} (h : ts = used ++ rest) :
    Agrees ts (.ok (t, used.length)) (.ok (t, rest))

variable {ts us rest : List Token} {t : CType} {next : Nat}

/-! ### Both ways to read agree -/

theorem Agrees.read_append (front used rest : List Token) (t : CType) :
    Agrees (front ++ (used ++ rest)) (.ok (t, front.length + used.length)) (.ok (t, rest)) := by
  rw [← List.length_append]
  exact .read t (List.append_assoc ..).symm

/-- Readings that agree still do so if both make the type constant. -/
theorem Agrees.map_const {read : Except Stop (CType × Nat)}
    {read' : Except Fault (CType × List Token)} (h : Agrees ts read read') :
    Agrees ts (read.map (Prod.map .const id)) (read'.map (Prod.map .const id)) := by
  cases h with
  | fault cause => exact .fault cause
  | read t hts => exact .read (.const t) hts

theorem getElem?_append_cons (front more : List Token) (x : Token) (i : Nat) :
    (front ++ x :: more)[front.length + 1 + i]? = more[i]? := by
  rw [Nat.add_assoc, List.getElem?_append_right (Nat.le_add_right _ _), Nat.add_sub_cancel_left,
    Nat.add_comm 1 i, List.getElem?_cons_succ]

@[simp] theorem tokenAt_append_cons_bind {β : Type} (front more : List Token) (x : Token)
    (f : Token → Except Stop β) : tokenAt (front ++ x :: more) front.length >>= f = f x := by
  simp [tokenAt, bind, Except.bind]

theorem exists_eq_cons_of_getElem? {x : Token} (h : us[0]? = some x) : ∃ rest, us = x :: rest := by
  cases us with
  | nil => cases h
  | cons y rest => exact ⟨rest, congrArg (· :: rest) (Option.some.inj h)⟩

theorem ne_cons_of_getElem? {x : Token} (h : us[0]? ≠ some x) (rest : List Token) :
    us ≠ x :: rest := by
  rintro rfl
  exact h rfl

/-- The words behind `unsigned` and `signed` are read alike. -/
theorem integerAt_agrees (front more : List Token) (x : Token) (unsigned : Bool) :
    Agrees (front ++ x :: more)
      (.ok ((integerAt (front ++ x :: more) unsigned (front.length + 1)).map .scalar id))
      (.ok ((if unsigned then afterUnsigned more else afterSigned more).map .scalar id)) := by
  have hfirst := getElem?_append_cons front more x 0
  have hsecond := getElem?_append_cons front more x 1
  rw [Nat.add_zero] at hfirst
  -- The cases are those of the reading by position. Both signs take the same words.
  fun_cases integerAt (front ++ x :: more) unsigned (front.length + 1)
  case case1 h =>
    obtain ⟨rest, rfl⟩ := exists_eq_cons_of_getElem? (hfirst ▸ h)
    cases unsigned <;> exact .read_append front [x, .word "char"] rest _
  case case2 h =>
    obtain ⟨rest, rfl⟩ := exists_eq_cons_of_getElem? (hfirst ▸ h)
    cases unsigned <;> exact .read_append front [x, .word "short"] rest _
  case case3 h =>
    obtain ⟨rest, rfl⟩ := exists_eq_cons_of_getElem? (hfirst ▸ h)
    cases unsigned <;> exact .read_append front [x, .word "int"] rest _
  case case4 h hlong =>
    obtain ⟨rest, rfl⟩ := exists_eq_cons_of_getElem? (hfirst ▸ h)
    obtain ⟨rest, rfl⟩ := exists_eq_cons_of_getElem? (hsecond ▸ hlong)
    cases unsigned <;> exact .read_append front [x, .word "long", .word "long"] rest _
  case case5 h hlong =>
    obtain ⟨rest, rfl⟩ := exists_eq_cons_of_getElem? (hfirst ▸ h)
    rw [hsecond, List.getElem?_cons_succ] at hlong
    have hnext := ne_cons_of_getElem? hlong
    cases unsigned <;>
      simpa [afterUnsigned, afterSigned, hnext] using
        Agrees.read_append front [x, .word "long"] rest _
  case case6 hchar hshort hint hlong =>
    rw [hfirst] at hchar hshort hint hlong
    cases unsigned <;>
      simpa [afterUnsigned, afterSigned, ne_cons_of_getElem? hchar, ne_cons_of_getElem? hshort,
        ne_cons_of_getElem? hint, ne_cons_of_getElem? hlong] using
        Agrees.read_append front [x] more _

/-- The words behind `long` are read alike. -/
theorem longAt_agrees (front more : List Token) :
    Agrees (front ++ .word "long" :: more)
      (.ok ((longAt (front ++ .word "long" :: more) (front.length + 1)).map .scalar id))
      (specifier (.word "long" :: more)) := by
  have hfirst := getElem?_append_cons front more (.word "long") 0
  rw [Nat.add_zero] at hfirst
  fun_cases longAt (front ++ .word "long" :: more) (front.length + 1)
  case case1 h =>
    obtain ⟨rest, rfl⟩ := exists_eq_cons_of_getElem? (hfirst ▸ h)
    exact .read_append front [.word "long", .word "long"] rest _
  case case2 h =>
    obtain ⟨rest, rfl⟩ := exists_eq_cons_of_getElem? (hfirst ▸ h)
    exact .read_append front [.word "long", .word "double"] rest _
  case case3 hlong hdouble =>
    rw [hfirst] at hlong hdouble
    have hword : ofWord? "long" = some (.scalar .long) := rfl
    have hspecifier : specifier (.word "long" :: more) = .ok (.scalar .long, more) := by
      simp [specifier, hword, ne_cons_of_getElem? hlong, ne_cons_of_getElem? hdouble]
    rw [hspecifier]
    exact .read_append front [.word "long"] more _

/-- The tag behind `struct` is read alike. -/
theorem specifierAt_struct_agrees (front more : List Token) :
    Agrees (front ++ .word "struct" :: more)
      (specifierAt (front ++ .word "struct" :: more) front.length)
      (specifier (.word "struct" :: more)) := by
  rcases more with _ | ⟨_ | tag, rest⟩
  · have hread : specifierAt (front ++ [.word "struct"]) front.length =
        .error (.fault .missingTag) := by
      simp [specifierAt]
    rw [hread]
    exact .fault _
  · have hread : specifierAt (front ++ .word "struct" :: .star :: rest) front.length =
        .error (.fault .missingTag) := by
      simp [specifierAt]
    rw [hread]
    exact .fault _
  · have hread : specifierAt (front ++ .word "struct" :: .word tag :: rest) front.length =
        .ok (.struct tag, front.length + 2) := by
      simp [specifierAt]
    rw [hread]
    exact .read_append front [.word "struct", .word tag] rest _

/-- A word that no other word may follow names a type alone, or none. -/
theorem specifierAt_word_agrees {w : String} (hstruct : w ≠ "struct") (hunsigned : w ≠ "unsigned")
    (hsigned : w ≠ "signed") (hlong : w ≠ "long") (front more : List Token) :
    Agrees (front ++ .word w :: more) (specifierAt (front ++ .word w :: more) front.length)
      (specifier (.word w :: more)) := by
  cases hword : ofWord? w with
  | some t =>
    have hspecifier : specifier (.word w :: more) = .ok (t, more) := by
      simp [specifier, hstruct, hlong, hword]
    have hread : specifierAt (front ++ .word w :: more) front.length =
        .ok (t, front.length + 1) := by
      simp [specifierAt, hstruct, hunsigned, hsigned, hword]
    rw [hread, hspecifier]
    exact .read_append front [.word w] more t
  | none =>
    have hspecifier : specifier (.word w :: more) = .error (.unknownWord w) := by
      simp [specifier, hstruct, hlong, hword]
    have hread : specifierAt (front ++ .word w :: more) front.length =
        .error (.fault (.unknownWord w)) := by
      simp [specifierAt, hstruct, hunsigned, hsigned, hword]
    rw [hread, hspecifier]
    exact .fault _

/-- The words that name a type are read alike. -/
theorem specifierAt_agrees (front more : List Token) (x : Token) :
    Agrees (front ++ x :: more) (specifierAt (front ++ x :: more) front.length)
      (specifier (x :: more)) := by
  cases x with
  | star =>
    have hread : specifierAt (front ++ .star :: more) front.length =
        .error (.fault (.unknownWord "*")) := by
      simp [specifierAt]
    rw [hread]
    exact .fault _
  | word w =>
    by_cases hstruct : w = "struct"
    · subst hstruct
      exact specifierAt_struct_agrees front more
    by_cases hunsigned : w = "unsigned"
    · subst hunsigned
      have hread : specifierAt (front ++ .word "unsigned" :: more) front.length =
          .ok ((integerAt (front ++ .word "unsigned" :: more) true (front.length + 1)).map
            .scalar id) := by
        simp [specifierAt]
      rw [hread]
      exact integerAt_agrees front more _ true
    by_cases hsigned : w = "signed"
    · subst hsigned
      have hread : specifierAt (front ++ .word "signed" :: more) front.length =
          .ok ((integerAt (front ++ .word "signed" :: more) false (front.length + 1)).map
            .scalar id) := by
        simp [specifierAt]
      rw [hread]
      exact integerAt_agrees front more _ false
    by_cases hlong : w = "long"
    · subst hlong
      have hread : specifierAt (front ++ .word "long" :: more) front.length =
          .ok ((longAt (front ++ .word "long" :: more) (front.length + 1)).map .scalar id) := by
        simp [specifierAt]
      rw [hread]
      exact longAt_agrees front more
    exact specifierAt_word_agrees hstruct hunsigned hsigned hlong front more

/-- An optional `const` and the words that name a type are read alike. -/
theorem qualifiedAt_agrees (hne : ts ≠ []) : Agrees ts (qualifiedAt ts) (qualified ts) := by
  obtain ⟨x, more, rfl⟩ := List.exists_cons_of_ne_nil hne
  have hfirst {β : Type} (f : Token → Except Stop β) : tokenAt (x :: more) 0 >>= f = f x := rfl
  by_cases hconst : x = .word "const"
  · subst hconst
    -- Behind `const` the position is looked at again, so it is compared with the length before.
    cases more with
    | nil => exact .fault _
    | cons y more =>
      have hread : qualifiedAt (.word "const" :: y :: more) =
          (specifierAt (.word "const" :: y :: more) 1).map (Prod.map .const id) := by
        rw [qualifiedAt, hfirst]
        cases specifierAt (.word "const" :: y :: more) 1 <;> rfl
      have hqualified : qualified (.word "const" :: y :: more) =
          (specifier (y :: more)).map (Prod.map .const id) := rfl
      rw [hread, hqualified]
      exact (specifierAt_agrees [.word "const"] more y).map_const
  · have hread : qualifiedAt (x :: more) = specifierAt (x :: more) 0 := by
      rw [qualifiedAt, hfirst, if_neg hconst]
    have hqualified : qualified (x :: more) = specifier (x :: more) := by
      simp [qualified, hconst]
    rw [hread, hqualified]
    exact specifierAt_agrees [] more x

/-! ### No position is out of range -/

theorem Agrees.ne_outOfRange {read : Except Stop (CType × Nat)}
    {read' : Except Fault (CType × List Token)} (h : Agrees ts read read') (pos : Nat) :
    read ≠ .error (.outOfRange pos) := by
  cases h <;> simp

/-- Where a reading by position finds a type, the position is not behind the end, and from there on
stands what the reading from the front returns. -/
theorem Agrees.of_eq_ok {read' : Except Fault (CType × List Token)}
    (h : Agrees ts (.ok (t, next)) read') :
    next ≤ ts.length ∧ read' = .ok (t, ts.drop next) := by
  cases h with
  | @read _ used rest hts =>
    subst hts
    exact ⟨by simp, by rw [List.drop_left]⟩

/-- Where a reading from the front returns nothing that follows, a reading by position reaches the
end. -/
theorem Agrees.eq_ok_length {read : Except Stop (CType × Nat)}
    (h : Agrees ts read (.ok (t, []))) : read = .ok (t, ts.length) := by
  cases h with
  | read _ hts => rw [hts, List.append_nil]

/-- The tokens that an optional `const` and the name of a type are read from are read to their end
if they stand alone. -/
theorem exists_used_of_qualified (h : qualified ts = .ok (t, rest)) :
    ∃ used, used ≠ [] ∧ ts = used ++ rest ∧ qualified used = .ok (t, []) := by
  obtain ⟨constant, base, u, hts, hnames, rfl⟩ := names_of_qualified h
  have hmarks : AreMarks [] := fun _ hx => absurd hx List.not_mem_nil
  have halone : qualified (leading constant ++ base ++ []) = .ok (qualify constant u, []) :=
    qualified_append hnames hmarks
  rw [List.append_nil] at halone
  exact ⟨leading constant ++ base, by simp [hnames.ne_nil], hts, halone⟩

/-- A text is read by position just as it is read from the front. -/
theorem parseAt_eq (input : String) : parseAt input = (parse input).mapError .fault := by
  rw [parseAt, parse, ofTokens]
  by_cases hne : Token.ofText input = []
  · rw [hne]
    rfl
  · have hagrees := qualifiedAt_agrees hne
    simp only [List.isEmpty_iff, hne, if_false]
    generalize qualifiedAt (Token.ofText input) = read at hagrees ⊢
    generalize qualified (Token.ofText input) = read' at hagrees ⊢
    cases hagrees with
    | fault cause => rfl
    | @read t used rest hts =>
      have hrest : tokensFrom (Token.ofText input) used.length = .ok rest := by
        simp [tokensFrom, hts]
      simp only [bind, Except.bind, hrest]

/-- Read by position, tokens are never asked for at a position that they do not have. If a type is
found, at least one token and at most all of them have been read; they are read in the same way if
they stand alone, and the other ones can be taken for the marks. So a text declares a type or has a
fault, and no reading ends in any other way. -/
theorem positions_in_range :
    (∀ ts : List Token, ts ≠ [] →
      (∀ pos, qualifiedAt ts ≠ .error (.outOfRange pos)) ∧
        Agrees ts (qualifiedAt ts) (qualified ts) ∧
        ∀ t next, qualifiedAt ts = .ok (t, next) →
          1 ≤ next ∧ next ≤ ts.length ∧ qualifiedAt (ts.take next) = .ok (t, next) ∧
            tokensFrom ts next = .ok (ts.drop next)) ∧
      ∀ input, (∃ t, parseAt input = .ok t ∧ parse input = .ok t) ∨
        ∃ cause, parseAt input = .error (.fault cause) ∧ parse input = .error cause := by
  constructor
  · intro ts hne
    have hagrees := qualifiedAt_agrees hne
    refine ⟨hagrees.ne_outOfRange, hagrees, fun t next hread => ?_⟩
    obtain ⟨hle, hqualified⟩ := (hread ▸ hagrees).of_eq_ok
    obtain ⟨used, hused, hts, halone⟩ := exists_used_of_qualified hqualified
    -- What has been read is all that stands in front of the position.
    obtain rfl : used = ts.take next :=
      List.append_cancel_right (hts.symm.trans (List.take_append_drop next ts).symm)
    have hlength : (ts.take next).length = next := List.length_take_of_le hle
    refine ⟨?_, hle, ?_, if_pos hle⟩
    · rw [← hlength]
      exact List.length_pos_iff.mpr hused
    · have hagrees := qualifiedAt_agrees hused
      rw [halone] at hagrees
      rw [hagrees.eq_ok_length, hlength]
  · intro input
    rw [parseAt_eq]
    cases parse input with
    | ok t => exact .inl ⟨t, rfl, rfl⟩
    | error cause => exact .inr ⟨cause, rfl, rfl⟩

/-- A name that may go on with one more word, in front of a star and at the end. -/
theorem positions_in_range_at_unsigned_long :
    [Token.word "const", .word "unsigned", .word "long", .star] ≠ [] ∧
      qualifiedAt [.word "const", .word "unsigned", .word "long", .star] =
        .ok (.const (.scalar .unsignedLong), 3) ∧
      (∀ pos, qualifiedAt [.word "const", .word "unsigned", .word "long", .star] ≠
        .error (.outOfRange pos)) ∧
      qualifiedAt [.word "const", .word "unsigned", .word "long"] =
        .ok (.const (.scalar .unsignedLong), 3) ∧
      tokensFrom [.word "const", .word "unsigned", .word "long", .star] 3 = .ok [.star] := by
  have hne : [Token.word "const", .word "unsigned", .word "long", .star] ≠ [] := by decide
  have hread : qualifiedAt [.word "const", .word "unsigned", .word "long", .star] =
      .ok (.const (.scalar .unsignedLong), 3) := by decide
  obtain ⟨hrange, -, hfound⟩ := positions_in_range.1 _ hne
  obtain ⟨-, -, halone, hrest⟩ := hfound _ _ hread
  exact ⟨hne, hread, hrange, halone, hrest⟩

/-- Without any token there is none at the position where reading starts. -/
example : qualifiedAt [] = .error (.outOfRange 0) := rfl

end Boilerplate.CType
