import Boilerplate.Probe.Document
import Boilerplate.Proofs.Pass
import Boilerplate.Proofs.Toml.Table
import Mathlib

-- Documents are evaluated by `cbv`, whose equations are spread over the whole library.

/-!
# What probe documents declare

A document declares the probes that are written in it, in their order. Three members of a probe are
optional, so not every choice of members is a probe: it must have either a pattern or a function,
and only a function makes up for a missing symbol. A document of the right shape fails for the first
entry that is not a probe, even if there are probes before and behind it. A key that is not known
comes before all that.

## Main definitions

* `ProbeDeclaration.WrittenAs`, `Probe.WrittenIn` — how documents write probes
* `Probe.HasUnknownKey` — keys that are not known at their level
* `Probe.DeclaredBy` — the declarations of a probe
* `ProbeDeclaration.Offends`, `ProbeDeclaration.Labelled`, `Probe.FirstOffence` — what is wrong with
  a declaration, what it is called, and the first one that is wrong

## Main results

* `ProbeDeclaration.probe_eq_ok_iff`, `ProbeDeclaration.probe_eq_error_iff` — declarations either
  declare a probe or are wrong in one way
* `Probe.probe_documents_exact` — what is read from documents, and why some are refused
-/

namespace Boilerplate

/-! ### How documents are written -/

/-- The entry of a member, if it is there. -/
def ProbeDeclaration.entry (key : String) (member : Option String) : Toml.Table :=
  (member.map fun text => (key, Toml.Value.string text)).toList

/-- The entries of a declaration. -/
def ProbeDeclaration.entries (d : ProbeDeclaration) : Toml.Table :=
  entry "symbol" d.symbol ++ entry "pattern" d.pattern ++ entry "function" d.function

/-- How a document writes a declaration: as a table of its members in any order, or as an array that
starts with them, which must all be there. -/
inductive ProbeDeclaration.WrittenAs : ProbeDeclaration → Toml.Value → Prop
  | table {d : ProbeDeclaration} {t : Toml.Table} (h : t.Perm d.entries) : WrittenAs d (.table t)
  | array {symbol pattern function : String} {surplus : List Toml.Value} :
    WrittenAs ⟨some symbol, some pattern, some function⟩
      (.array (.string symbol :: .string pattern :: .string function :: surplus))

/-- How a table writes declarations: in an array, or not at all if there are none. -/
inductive Probe.WrittenIn (ds : List ProbeDeclaration) : Toml.Table → Prop
  | full {probes : List Toml.Value} (hprobes : List.Forall₂ ProbeDeclaration.WrittenAs ds probes) :
    WrittenIn ds [("probes", .array probes)]
  | bare (hprobes : ds = []) : WrittenIn ds []

/-- Whether a document that should hold probes has a key that is not known, at its top or in one of
its entries. -/
inductive Probe.HasUnknownKey (t : Toml.Table) : Prop
  | document (h : t.HasOther ["probes"])
  | probe {entry : Toml.Table} {probes : List Toml.Value}
    (hprobes : t.lookup "probes" = some (.array probes)) (hentry : .table entry ∈ probes)
    (h : entry.HasOther ["symbol", "pattern", "function"])

/-! ### What is read -/

namespace ProbeDeclaration

variable {d : ProbeDeclaration} {value : Toml.Value}

theorem nodup_entries (d : ProbeDeclaration) : (d.entries.map Prod.fst).Nodup := by
  rcases d with ⟨_ | _, _ | _, _ | _⟩ <;> simp [entries, entry]

theorem ofValue?_of_writtenAs (h : d.WrittenAs value) : ofValue? value = some d := by
  cases h with
  | table h =>
    simp only [ofValue?, member?, Toml.Table.onlyHas_of_perm h,
      Toml.Table.decodeOr_of_perm h d.nodup_entries]
    rcases d with ⟨_ | _, _ | _, _ | _⟩ <;> rfl
  | array => rfl

theorem ofValue?_of_hasOther {t : Toml.Table} (h : t.HasOther ["symbol", "pattern", "function"]) :
    ofValue? (.table t) = none := by
  simp [ofValue?, Toml.Table.onlyHas_eq_false_iff.mpr h]

end ProbeDeclaration

namespace Probe

variable {ds : List ProbeDeclaration} {t : Toml.Table}

/-- The declarations that are written in a table are read from it. -/
theorem declarations?_of_writtenIn (h : WrittenIn ds t) : declarations? t = some ds := by
  cases h with
  | full hprobes =>
    exact Toml.Table.items_eq_some (hprobes.imp fun _ _ => ProbeDeclaration.ofValue?_of_writtenAs)
  | bare hprobes =>
    obtain rfl := hprobes
    rfl

/-- A key that is not known leaves nothing of a document, whatever else is in it. -/
theorem declarations?_of_hasUnknownKey (h : HasUnknownKey t) : declarations? t = none := by
  cases h with
  | document h => simp [declarations?, Toml.Table.onlyHas_eq_false_iff.mpr h]
  | probe hprobes hentry h =>
    have hitems := Toml.Table.items_eq_none hentry (ProbeDeclaration.ofValue?_of_hasOther h)
    simp only [declarations?, Toml.Table.decodeOr, hprobes, hitems, ite_self]

end Probe

/-! ### What is declared -/

/-- The declaration of a probe. -/
def Probe.declaration : Probe → ProbeDeclaration
  | ⟨symbol, .host pattern⟩ => ⟨some symbol, some pattern, none⟩
  | ⟨symbol, .function function⟩ => ⟨some symbol, none, some function⟩

/-- How a probe may be declared: in full, or without its symbol if it is the one that is derived
from its function. -/
inductive Probe.DeclaredBy (probe : Probe) : ProbeDeclaration → Prop
  | full : DeclaredBy probe probe.declaration
  | unnamed {function : String} (hcheck : probe.check = .function function)
    (hsymbol : probe.symbol = symbolOf function) : DeclaredBy probe ⟨none, none, some function⟩

/-- How the members of a declaration are wrong. -/
inductive ProbeDeclaration.Offends (d : ProbeDeclaration) : Probe.MemberFault → Prop
  | both {pattern function : String} (hpattern : d.pattern = some pattern)
    (hfunction : d.function = some function) : Offends d .both
  | neither (hpattern : d.pattern = none) (hfunction : d.function = none) : Offends d .neither
  | noSymbol {pattern : String} (hsymbol : d.symbol = none) (hpattern : d.pattern = some pattern)
    (hfunction : d.function = none) : Offends d .noSymbol

/-- What a fault calls a declaration: its symbol, or else the one that its function gives it. -/
inductive ProbeDeclaration.Labelled (d : ProbeDeclaration) : String → Prop
  | symbol {symbol : String} (h : d.symbol = some symbol) : Labelled d symbol
  | function {function : String} (hsymbol : d.symbol = none) (h : d.function = some function) :
    Labelled d (Probe.symbolOf function)
  | unnamed (hsymbol : d.symbol = none) (hfunction : d.function = none) : Labelled d "<unnamed>"

/-- The fault of declarations of which some are wrong: it names the first of these. -/
inductive Probe.FirstOffence (ds : List ProbeDeclaration) : Probe.DocumentFault → Prop
  | mk {d : ProbeDeclaration} {front back : List ProbeDeclaration} {label : String}
    {cause : Probe.MemberFault} (hplace : ds = front ++ d :: back)
    (hfront : ∀ e ∈ front, ∀ cause, ¬ e.Offends cause) (hlabel : d.Labelled label)
    (h : d.Offends cause) : FirstOffence ds (.badMembers label cause)

namespace ProbeDeclaration

variable {d : ProbeDeclaration} {ds : List ProbeDeclaration} {probe : Probe} {probes : List Probe}
  {cause : Probe.MemberFault} {label : String} {fault : Probe.DocumentFault}

theorem probe_eq_ok_iff : d.probe = .ok probe ↔ probe.DeclaredBy d := by
  constructor
  · intro h
    obtain ⟨_ | symbol, _ | pattern, _ | function⟩ := d <;> cases h
    · exact .unnamed rfl rfl
    · exact .full
    · exact .full
  · rintro (_ | ⟨hcheck, hsymbol⟩)
    · obtain ⟨symbol, pattern | function⟩ := probe <;> rfl
    · obtain ⟨symbol, check⟩ := probe
      obtain rfl : check = _ := hcheck
      obtain rfl : symbol = _ := hsymbol
      rfl

theorem probe_eq_error_iff : d.probe = .error cause ↔ d.Offends cause := by
  obtain ⟨symbol, pattern, function⟩ := d
  constructor
  · intro h
    cases pattern <;> cases function
    · cases h
      exact .neither rfl rfl
    · cases symbol <;> cases h
    · cases symbol <;> cases h
      exact .noSymbol rfl rfl rfl
    · cases h
      exact .both rfl rfl
  · rintro (⟨rfl, rfl⟩ | ⟨rfl, rfl⟩ | ⟨rfl, rfl, rfl⟩) <;> rfl

theorem label_eq_iff : d.label = label ↔ d.Labelled label := by
  obtain ⟨symbol, pattern, function⟩ := d
  constructor
  · rintro rfl
    cases symbol with
    | some symbol => exact .symbol rfl
    | none =>
      cases function with
      | some function => exact .function rfl rfl
      | none => exact .unnamed rfl rfl
  · rintro (⟨rfl⟩ | ⟨rfl, rfl⟩ | ⟨rfl, rfl⟩) <;> rfl

theorem resolve_eq_ok_iff : d.resolve = .ok probe ↔ probe.DeclaredBy d := by
  rw [← probe_eq_ok_iff, resolve]
  cases d.probe <;> simp

theorem resolve_eq_error_iff : d.resolve = .error fault ↔
    ∃ label cause, d.Labelled label ∧ d.Offends cause ∧ fault = .badMembers label cause := by
  simp only [← label_eq_iff, ← probe_eq_error_iff, resolve]
  cases d.probe <;> simp [eq_comm]

/-- A declaration is that of a probe unless it is wrong. -/
theorem exists_resolve_iff : (∃ probe, d.resolve = .ok probe) ↔ ∀ cause, ¬ d.Offends cause := by
  simp only [resolve_eq_ok_iff, ← probe_eq_ok_iff, ← probe_eq_error_iff]
  cases d.probe <;> simp

theorem resolveAll_eq_mapM (ds : List ProbeDeclaration) : resolveAll ds = ds.mapM resolve := by
  induction ds with
  | nil => rfl
  | cons d ds ih => rw [resolveAll, List.mapM_cons, ih]

theorem resolveAll_eq_ok_iff : resolveAll ds = .ok probes ↔
    List.Forall₂ (fun d probe => Probe.DeclaredBy probe d) ds probes := by
  simp only [resolveAll_eq_mapM, mapM_eq_ok_iff, resolve_eq_ok_iff]

/-- Declarations are resolved up to the first one that is wrong. -/
theorem resolveAll_eq_error_iff :
    resolveAll ds = .error fault ↔ Probe.FirstOffence ds fault := by
  simp only [resolveAll_eq_mapM, mapM_eq_error_iff, exists_resolve_iff, resolve_eq_error_iff]
  constructor
  · rintro ⟨d, front, back, hplace, hfront, label, cause, hlabel, h, rfl⟩
    exact .mk hplace hfront hlabel h
  · rintro ⟨hplace, hfront, hlabel, h⟩
    exact ⟨_, _, _, hplace, hfront, _, _, hlabel, h, rfl⟩

theorem exists_resolve_eq_error_iff :
    (∃ fault, d.resolve = .error fault) ↔ ∃ cause, d.Offends cause := by
  simp only [resolve_eq_error_iff]
  constructor
  · rintro ⟨_, _, cause, -, h, -⟩
    exact ⟨cause, h⟩
  · rintro ⟨cause, h⟩
    exact ⟨_, d.label, cause, label_eq_iff.mp rfl, h, rfl⟩

theorem exists_resolveAll_eq_error_iff :
    (∃ fault, resolveAll ds = .error fault) ↔ ∃ d ∈ ds, ∃ cause, d.Offends cause := by
  simp only [resolveAll_eq_mapM, exists_mapM_eq_error_iff, exists_resolve_eq_error_iff]

end ProbeDeclaration

/-! ### Documents -/

namespace Probe

variable {text : String} {t : Toml.Table} {ds : List ProbeDeclaration} {probes : List Probe}

theorem parseDocument_of_writtenIn (htext : Toml.parse? text = some t) (h : WrittenIn ds t) :
    parseDocument text = ProbeDeclaration.resolveAll ds := by
  simp only [parseDocument, htext, ofTable, declarations?_of_writtenIn h]

/-- Probes are read back from a document that they are written in, in their order, and also if the
symbols that their functions give them are left out. A document of the right shape fails exactly if
some declaration is wrong; the fault is that of the first such declaration and calls it by its
symbol, or by the one that its function would give it. A key that is not known makes a document
invalid, at its top as well as in an entry, whatever else the document holds. -/
theorem probe_documents_exact (htext : Toml.parse? text = some t) :
    (∀ probes, WrittenIn (probes.map declaration) t → parseDocument text = .ok probes) ∧
    (∀ ds probes, WrittenIn ds t → (parseDocument text = .ok probes ↔
      List.Forall₂ (fun d probe => DeclaredBy probe d) ds probes)) ∧
    (∀ ds, WrittenIn ds t → ((∃ fault, parseDocument text = .error fault) ↔
      ∃ d ∈ ds, ∃ cause, d.Offends cause)) ∧
    (∀ ds fault, WrittenIn ds t → (parseDocument text = .error fault ↔ FirstOffence ds fault)) ∧
    (HasUnknownKey t → parseDocument text = .error .invalid) := by
  refine ⟨?_, ?_, ?_, ?_, ?_⟩
  · intro probes h
    rw [parseDocument_of_writtenIn htext h, ProbeDeclaration.resolveAll_eq_ok_iff,
      List.forall₂_map_left_iff, List.forall₂_same]
    exact fun _ _ => .full
  · intro ds probes h
    rw [parseDocument_of_writtenIn htext h, ProbeDeclaration.resolveAll_eq_ok_iff]
  · intro ds h
    rw [parseDocument_of_writtenIn htext h, ProbeDeclaration.exists_resolveAll_eq_error_iff]
  · intro ds fault h
    rw [parseDocument_of_writtenIn htext h, ProbeDeclaration.resolveAll_eq_error_iff]
  · intro h
    simp only [parseDocument, htext, ofTable, declarations?_of_hasUnknownKey h]

/-- The probes of a good document, one of them without its symbol; the name of the first of two
probes that are wrong; and a key that is misspelled behind a probe that is wrong. -/
theorem probe_documents_exact_at_texts :
    parseDocument "[[probes]]\nsymbol='A'\npattern='*'\n[[probes]]\nfunction='f'" =
        .ok [⟨"A", .host "*"⟩, ⟨"HAVE_F", .function "f"⟩] ∧
      parseDocument "[[probes]]\nfunction='f'\n[[probes]]\nfunction='g'\npattern='*'\n[[probes]]" =
        .error (.badMembers "HAVE_G" .both) ∧
      parseDocument "[[probes]]\npattern='*'\n[[probes]]\nfunctoin='f'" = .error .invalid := by
  have hgood : Toml.parse?
      "[[probes]]\nsymbol='A'\npattern='*'\n[[probes]]\nfunction='f'" =
        some [("probes", .array [.table [("symbol", .string "A"), ("pattern", .string "*")],
          .table [("function", .string "f")]])] := by cbv
  have hwrong : Toml.parse?
      "[[probes]]\nfunction='f'\n[[probes]]\nfunction='g'\npattern='*'\n[[probes]]" =
        some [("probes", .array [.table [("function", .string "f")],
          .table [("function", .string "g"), ("pattern", .string "*")], .table []])] := by cbv
  have hmisspelled : Toml.parse? "[[probes]]\npattern='*'\n[[probes]]\nfunctoin='f'" =
        some [("probes", .array [.table [("pattern", .string "*")],
          .table [("functoin", .string "f")]])] := by cbv
  refine ⟨((probe_documents_exact hgood).2.1 [⟨some "A", some "*", none⟩, ⟨none, none, some "f"⟩] _
      ?_).mpr ?_,
    ((probe_documents_exact hwrong).2.2.2.1
      [⟨none, none, some "f"⟩, ⟨none, some "*", some "g"⟩, ⟨none, none, none⟩] _ ?_).mpr ?_,
    (probe_documents_exact hmisspelled).2.2.2.2 ?_⟩
  · exact .full (.cons (.table (.refl _)) (.cons (.table (.refl _)) .nil))
  · exact .cons (.full) (.cons (.unnamed rfl (by decide)) .nil)
  · exact .full (.cons (.table (.refl _)) (.cons (.table (.swap _ _ _)) (.cons (.table .nil) .nil)))
  · exact ProbeDeclaration.resolveAll_eq_error_iff.mp (by decide)
  · refine .probe rfl (List.mem_cons_of_mem _ (List.mem_singleton_self _)) ?_
    exact ⟨_, List.mem_singleton_self _, by decide⟩

end Probe

end Boilerplate
