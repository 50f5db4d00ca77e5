import Boilerplate.Digest.Sha256

/-!
# Digests

Every generated file names the digest of the input that it was generated from, so that a stale
file can be told from a current one. A digest is the SHA-256 hash of a text in UTF-8; files show
its first twelve hexadecimal digits.

## Main definitions

* `Digest.ofText` — the digest of a text
* `Digest.hexDigits` — all sixty-four hexadecimal digits
* `Digest.short` — the first twelve of them
-/

namespace Boilerplate

/-- The digest of a text: the hash of its bytes in UTF-8. -/
structure Digest where
  chain : Sha256.Chain
  deriving DecidableEq, Repr

namespace Digest

/-- The digest of a text. -/
def ofText (text : String) : Digest := ⟨Sha256.hash text.toUTF8.toList⟩

/-- The hexadecimal digit of a number below sixteen. -/
def hexDigit (n : Nat) : Char := ['0', '1', '2', '3', '4', '5', '6', '7', '8', '9',
  'a', 'b', 'c', 'd', 'e', 'f'].getD n '0'

/-- The eight hexadecimal digits of a word. -/
def wordDigits (w : UInt32) : List Char :=
  [28, 24, 20, 16, 12, 8, 4, 0].map fun shift => hexDigit ((w.toNat >>> shift) % 16)

/-- All hexadecimal digits of a digest. -/
def hexDigits (d : Digest) : List Char := d.chain.toList.flatMap wordDigits

/-- The first twelve hexadecimal digits, which is what files show. -/
def short (d : Digest) : String := String.ofList (d.hexDigits.take 12)

@[simp] theorem length_hexDigits (d : Digest) : d.hexDigits.length = 64 := by
  simp [hexDigits, Sha256.Chain.toList, wordDigits]

end Digest

end Boilerplate
