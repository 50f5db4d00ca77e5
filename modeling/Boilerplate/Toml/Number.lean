import Boilerplate.Toml.Digits

/-!
# Numbers in TOML

An integer is written in decimal with an optional sign, or in base sixteen, eight or two after a
marker; it has to fit sixty-four bits. A number with a fraction or an exponent has to stay below
the point from which a double precision number would be infinite. In either, an underscore may
stand between two digits.

## Main definitions

* `Toml.Number.ungroup` — digits without the underscores between them
* `Toml.Number.integer?` — the integer that a word stands for
* `Toml.Number.isFloat` — whether a word is a number with a fraction or an exponent
-/

namespace Boilerplate.Toml.Number

open Digits (isDigit ofDigits)

/-- Digits without the underscores between them. There is at least one digit, and an underscore
has a digit on either side. -/
def ungroup (base : Nat) : List Char → Option (List Char)
  | [] => none
  | [c] => if isDigit base c then some [c] else none
  | c :: '_' :: rest => if isDigit base c then (ungroup base rest).map (c :: ·) else none
  | c :: rest => if isDigit base c then (ungroup base rest).map (c :: ·) else none

/-- Takes an optional sign off a number: whether it is negative, and the rest. -/
def takeSign : List Char → Bool × List Char
  | '-' :: rest => (true, rest)
  | '+' :: rest => (false, rest)
  | cs => (false, cs)

/-- The digits of a decimal number, which has no zeros in front. -/
def plainDigits? (cs : List Char) : Option (List Char) :=
  (ungroup 10 cs).filter fun digits => digits.length == 1 || digits.head? != some '0'

/-- An integer, if it fits sixty-four bits. -/
def fitting? (n : Int) : Option Int :=
  if -Int.pow 2 63 ≤ n ∧ n < Int.pow 2 63 then some n else none

/-- The integer that a word stands for. -/
def integer? : List Char → Option Int
  | '0' :: 'x' :: cs => (ungroup 16 cs).bind fun digits => fitting? (ofDigits 16 digits)
  | '0' :: 'o' :: cs => (ungroup 8 cs).bind fun digits => fitting? (ofDigits 8 digits)
  | '0' :: 'b' :: cs => (ungroup 2 cs).bind fun digits => fitting? (ofDigits 2 digits)
  | cs => (plainDigits? (takeSign cs).2).bind fun digits =>
    fitting? (if (takeSign cs).1 then -(ofDigits 10 digits : Int) else ofDigits 10 digits)

/-- The least number that rounds to infinity in double precision: it lies half a unit in the last
place below two to the power of 1024. -/
def infinityBound : Nat := Nat.pow 2 1024 - Nat.pow 2 970

/-- Whether digits, taken as a whole number and then scaled by a power of ten, reach the infinity
bound. The bound has 309 digits, so only numbers with as many places need to be computed. -/
def overflows (digits : List Char) (exponent : Int) : Bool :=
  let n := ofDigits 10 digits
  let places : Int := (digits.dropWhile (· == '0')).length + exponent
  n != 0 && (places > 309 || (places == 309 &&
    n * Nat.pow 10 exponent.toNat ≥ infinityBound * Nat.pow 10 (-exponent).toNat))

/-- The value of an exponent: an optional sign, and digits. -/
def exponent? (cs : List Char) : Option Int :=
  (ungroup 10 (takeSign cs).2).map fun digits =>
    if (takeSign cs).1 then -(ofDigits 10 digits : Int) else ofDigits 10 digits

/-- Whether a character marks an exponent. -/
def isExponentMark (c : Char) : Bool := c == 'e' || c == 'E'

/-- The digits and the power of ten of a number that has a fraction or an exponent. -/
def scientific? (cs : List Char) : Option (List Char × Int) := do
  let mantissa := cs.takeWhile fun c => !isExponentMark c
  let whole ← plainDigits? (mantissa.takeWhile (· != '.'))
  let fraction ← match mantissa.dropWhile (· != '.') with
    | [] => some []
    | _ :: rest => ungroup 10 rest
  let exponent ← match cs.dropWhile fun c => !isExponentMark c with
    | [] => if fraction.isEmpty then none else some 0
    | _ :: rest => exponent? rest
  return (whole ++ fraction, exponent - fraction.length)

/-- Whether a word is a number with a fraction or an exponent, or one of the words for infinity
and for no number. Only a positive number can be too large. -/
def isFloat (cs : List Char) : Bool :=
  let (negative, rest) := takeSign cs
  rest == ['i', 'n', 'f'] || rest == ['n', 'a', 'n'] ||
    match scientific? rest with
    | none => false
    | some (digits, exponent) => negative || !overflows digits exponent

end Boilerplate.Toml.Number
