import Boilerplate.Proofs.Record
import Mathlib.Data.List.Infix

/-!
# Function names as identifiers

A function is named by its record, a verb and its field, with underscores in between. Records and
fields are checked one by one, while the name that is put together from them is not. Most rules
pass on to it: its characters are those of its parts, and no keyword and no name of a standard
header has a verb between underscores.

The rule about names of the implementation does not pass on, since it looks at the first two
characters. A record may be named by a single underscore, and then the underscore behind it makes
two in a row. All functions of that record are reserved, and those of other records never are.

## Main results

* `Identifier.isImplementationName_append_underscore` — a seam at an underscore
* `Record.Checked.fault?_of_mem_names` — the fault in the name of a function, if there is one
* `Record.Checked.reserved_function_names` — a record whose functions are reserved
-/

namespace Boilerplate

namespace Identifier

variable {name : String}

theorem isImplementationName_of_fault? (h : fault? name = none) :
    isImplementationName name = false := by
  by_contra himplementation
  rw [Bool.not_eq_false] at himplementation
  simp only [fault?, himplementation, spellingFault?_of_fault? h] at h
  split at h <;> cases h

/-- A name that goes on with an underscore belongs to the implementation only if it is itself a
single underscore. -/
theorem isImplementationName_append_underscore (h : fault? name = none) (rest : String) :
    isImplementationName (name ++ "_" ++ rest) = decide (name = "_") := by
  obtain ⟨c, cs, hname, -, -⟩ := spellingFault?_eq_none_iff.mp (spellingFault?_of_fault? h)
  have hfree : isImplementationName name = false := isImplementationName_of_fault? h
  have hwhole : (name ++ "_" ++ rest).toList = c :: (cs ++ '_' :: rest.toList) := by simp [hname]
  have hsingle : name = "_" ↔ c = '_' ∧ cs = [] := by
    rw [← String.toList_inj, hname]
    exact List.cons_eq_cons
  rw [isImplementationName] at hfree ⊢
  rw [hname] at hfree
  simp only [hwhole, hsingle]
  by_cases hc : c = '_'
  · subst hc
    -- The second character is one of the name, which was checked, or else the underscore.
    cases cs with
    | nil => rfl
    | cons d cs => simpa using hfree
  · simp [hc]

end Identifier

namespace Accessor

variable {record field : String} {kind : Kind}

/-- A verb between underscores stands in no keyword and in no name of a standard header. -/
theorem not_isInfix_verb (kind : Kind) :
    ∀ name ∈ Identifier.reservedWords ++ Identifier.standardNames,
      ¬ ('_' :: kind.verb.toList ++ ['_']) <:+: name.toList := by
  cases kind <;> decide +kernel

/-- No function is named like a keyword or a name of a standard header. -/
theorem functionName_not_mem (record : String) (kind : Kind) (field : String) :
    functionName record kind field ∉ Identifier.reservedWords ++ Identifier.standardNames := by
  intro hmem
  refine not_isInfix_verb kind _ hmem ⟨record.toList, field.toList, ?_⟩
  simp [functionName]

/-- The name of a function is spelled as an identifier if the names of its record and its field
are. -/
theorem spellingFault?_functionName (kind : Kind)
    (hrecord : Identifier.spellingFault? record = none)
    (hfield : Identifier.spellingFault? field = none) :
    Identifier.spellingFault? (functionName record kind field) = none := by
  have hseparator : ("_" ++ kind.verb ++ "_").toList.all Identifier.isPart = true := by
    cases kind <;> decide
  have hrest : functionName record kind field = record ++ (("_" ++ kind.verb ++ "_") ++ field) := by
    simp only [functionName, String.append_assoc]
  rw [hrest]
  refine Identifier.spellingFault?_append hrecord ?_
  rw [String.toList_append, List.forall_mem_append]
  exact ⟨List.all_eq_true.mp hseparator, fun _ hc => Identifier.isPart_of_mem_of_spelled hfield hc⟩

theorem isImplementationName_functionName (hrecord : Identifier.fault? record = none) :
    Identifier.isImplementationName (functionName record kind field) = decide (record = "_") := by
  have hrest : functionName record kind field = record ++ "_" ++ (kind.verb ++ "_" ++ field) := by
    simp only [functionName, String.append_assoc]
  rw [hrest, Identifier.isImplementationName_append_underscore hrecord]

end Accessor

namespace Record.Checked

variable {unit : Checked} {function : String}

/-- The name of a function is an identifier, unless its record is named by a single underscore: then
it starts with two of them, and is reserved for the implementation. -/
theorem fault?_of_mem_names (h : function ∈ unit.names) :
    Identifier.fault? function =
      if unit.record.name = "_" then some .reservedForImplementation else none := by
  obtain ⟨field, hfield, kind, rfl⟩ := mem_names_iff.mp h
  have hrecord : Identifier.fault? unit.record.name = none := unit.name_faultless
  have hspelling := Accessor.spellingFault?_functionName kind
    (Identifier.spellingFault?_of_fault? hrecord)
    (Identifier.spellingFault?_of_fault? (unit.field_faultless hfield))
  have htaken := Accessor.functionName_not_mem unit.record.name kind field.name
  rw [List.mem_append, not_or] at htaken
  rw [Identifier.fault?_of_not_mem hspelling htaken.1 htaken.2,
    Accessor.isImplementationName_functionName hrecord]
  simp only [decide_eq_true_eq]

/-- A record whose name starts with an underscore and goes on has functions that may be declared. -/
theorem fault?_of_mem_names_at_underscored :
    ∃ unit : Checked, unit.record = ⟨"_r", [⟨"_", .scalar .int⟩]⟩ ∧ "_r_get__" ∈ unit.names ∧
      Identifier.fault? "_r_get__" = none := by
  let unit : Checked := ⟨⟨"_r", [⟨"_", .scalar .int⟩]⟩, by decide⟩
  have hmem : "_r_get__" ∈ unit.names := by decide
  exact ⟨unit, rfl, hmem, (fault?_of_mem_names hmem).trans (if_neg (by decide))⟩

/-- A record that is named by a single underscore is accepted, and its getters start with two. -/
theorem reserved_function_names :
    ∃ unit : Checked, unit.record = ⟨"_", [⟨"x", .scalar .int⟩]⟩ ∧ "__get_x" ∈ unit.names ∧
      Identifier.fault? "__get_x" = some .reservedForImplementation :=
  ⟨⟨⟨"_", [⟨"x", .scalar .int⟩]⟩, by decide⟩, rfl, by decide, by decide⟩

end Record.Checked

end Boilerplate
