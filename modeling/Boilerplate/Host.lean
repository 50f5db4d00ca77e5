import Boilerplate.Text.Blank

/-!
# Hosts

The platform that code is built for is named by a text such as `x86_64-pc-linux-gnu`. The text is
kept as it was given and only has to hold something other than blanks. It is also split at its
dashes: into the processor, the vendor, the operating system, and the environment, which keeps any
further dashes. The vendor is often left out; then the second part is one of a few operating
systems.

## Main definitions

* `Host` — a text that is not blank
* `Triple` — the parts of a host
* `Host.triple` — splits a host into its parts
-/

namespace Boilerplate

/-- The name of a platform, which is any text that is not blank. -/
structure Host where
  text : String
  not_blank : ∃ c ∈ text.toList, Text.isBlank c = false
  deriving DecidableEq

/-- The parts of the name of a platform. -/
structure Triple where
  cpu : String
  vendor : Option String := none
  os : Option String := none
  environment : Option String := none
  deriving DecidableEq, Repr

namespace Host

/-- The host that a text names, unless the text is blank. -/
def ofText? (text : String) : Option Host :=
  if h : text.toList.any (!Text.isBlank ·) then some ⟨text, by simpa using h⟩ else none

/-- Splits a list at its first dash: what stands before it, and what stands after it if there is
one. -/
def splitDash : List Char → List Char × Option (List Char)
  | [] => ([], none)
  | c :: rest =>
    if c = '-' then ([], some rest) else (c :: (splitDash rest).1, (splitDash rest).2)

/-- The operating systems that may follow the processor directly, with no vendor in between. -/
def vendorlessSystems : List String :=
  ["linux", "darwin", "wasi", "windows", "mingw32", "freebsd"]

/-- Whether a part starts with the name of an operating system that may follow the processor. -/
def startsWithSystem (part : List Char) : Bool :=
  vendorlessSystems.any fun system => system.toList.isPrefixOf part

/-- The parts of a name, from its characters. -/
def split (cs : List Char) : Triple :=
  match splitDash cs with
  | (cpu, none) => ⟨String.ofList cpu, none, none, none⟩
  | (cpu, some rest) =>
    match splitDash rest with
    | (os, none) => ⟨String.ofList cpu, none, some (String.ofList os), none⟩
    | (second, some tail) =>
      if startsWithSystem second then
        ⟨String.ofList cpu, none, some (String.ofList second), some (String.ofList tail)⟩
      else
        ⟨String.ofList cpu, some (String.ofList second), some (String.ofList (splitDash tail).1),
          (splitDash tail).2.map String.ofList⟩

/-- The parts of a host. -/
def triple (host : Host) : Triple := split host.text.toList

/-- A host that a text names has that text. -/
theorem ofText?_eq_some_iff {text : String} {host : Host} :
    ofText? text = some host ↔ host.text = text := by
  unfold ofText?
  split
  · rename_i h
    constructor
    · intro h'; cases h'; rfl
    · rintro rfl; rfl
  · rename_i h
    refine ⟨fun h' => (by cases h'), ?_⟩
    rintro rfl
    exact absurd (by simpa using host.not_blank) h

/-- A text names no host exactly if it holds nothing but blanks. -/
theorem ofText?_eq_none_iff {text : String} :
    ofText? text = none ↔ ∀ c ∈ text.toList, Text.isBlank c = true := by
  simp [ofText?]

end Host

end Boilerplate
