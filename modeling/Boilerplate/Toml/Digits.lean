/-!
# Digits

Numbers, dates and escapes all spell natural numbers by digits, in some base up to sixteen.

## Main definitions

* `Toml.Digits.isDigit` — whether a character is a digit in a base
* `Toml.Digits.ofDigits` — the number that digits stand for
* `Toml.Digits.number?` — the same, for characters that have to be digits
-/

namespace Boilerplate.Toml.Digits

/-- The value of a digit in bases up to sixteen; other characters count as sixteen. -/
def digitValue (c : Char) : Nat :=
  if c.isDigit then c.toNat - '0'.toNat
  else if 'a' ≤ c && c ≤ 'f' then c.toNat - 'a'.toNat + 10
  else if 'A' ≤ c && c ≤ 'F' then c.toNat - 'A'.toNat + 10
  else 16

/-- Whether a character is a digit in a base. -/
def isDigit (base : Nat) (c : Char) : Bool := digitValue c < base

/-- The number that digits stand for in a base, the first of them the highest. -/
def ofDigits (base : Nat) (digits : List Char) : Nat :=
  digits.foldl (fun n c => n * base + digitValue c) 0

/-- The number that characters stand for in a base, if all of them are digits. -/
def number? (base : Nat) (cs : List Char) : Option Nat :=
  if cs.all (isDigit base) then some (ofDigits base cs) else none

end Boilerplate.Toml.Digits
