import Boilerplate.Proofs.Record.Code
import Boilerplate.Proofs.Schema

/-!
# What the accessors of a schema do

A program calls the accessors of a schema by their names. It holds objects, each of one of the
records, and a call passes one of them and perhaps a value. The name decides which function runs:
one that returns a field of the object, or one that stores the value in it.

Each field of each object then is a cell of its own. What a getter returns is what the setter of the
same field stored last in the same object, and no other call matters. This needs that a name stands
for one function only, which generation makes sure of. Calls that do not fit are part of this: a
name that no function has, an object of another record, a value too many or too few. They are
refused, and change nothing.

## Main definitions

* `Schema.Object`, `Schema.Call` — objects, and calls by name
* `Schema.call` — the effect of one call
* `Schema.answers` — what the calls of a sequence give back
* `Schema.lastStored` — the value that a sequence of calls leaves in a cell

## Main results

* `Schema.filter_name_functions` — a name stands for one function
* `Schema.cells_after` — one call and one cell
* `Schema.cells_foldl_after` — a sequence of calls and one cell
* `Schema.answers_getter` — getters return what was stored last
-/

namespace Boilerplate

/-- The type of the object that a function is called on. -/
def Accessor.receiverType? (a : Accessor) : Option CType := a.parameters.head?.map Prod.snd

theorem Accessor.receiverType?_eq (a : Accessor) :
    a.receiverType? = some (.pointer (.named a.record)) := by
  cases h : a.kind <;> simp [receiverType?, parameters, h]

namespace Schema

/-! ### Calls -/

/-- An object: the record that it is of, and a value for each field. -/
structure Object (V : Type) where
  record : String
  cells : String → V

/-- A call of a function by its name, on an object, with the value that is passed if there is one.
-/
structure Call (O V : Type) where
  function : String
  target : O
  argument : Option V

/-- Why a call is refused. -/
inductive Refusal
  | unknownFunction
  | wrongObject
  | wrongArguments
  deriving DecidableEq, Repr

/-- All functions of a schema. -/
def functions (units : List Record.Checked) : List Accessor :=
  units.flatMap Record.Checked.accessors

variable {O V : Type}

/-- Runs the body of a function on the fields of an object: the fields afterwards, and the value
that is returned if there is one. -/
def runBody (a : Accessor) (cells : String → V) :
    Option V → Except Refusal ((String → V) × Option V)
  | none =>
    match a.body with
    | .returnField => .ok (cells, some (cells a.field))
    | .storeField => .error .wrongArguments
  | some value =>
    match a.body with
    | .returnField => .error .wrongArguments
    | .storeField => .ok (Function.update cells a.field value, none)

variable [DecidableEq O]

/-- A call: the objects afterwards, and the value that is returned if there is one. -/
def call (units : List Record.Checked) (heap : O → Object V) (c : Call O V) :
    Except Refusal ((O → Object V) × Option V) :=
  match (functions units).find? (·.name = c.function) with
  | none => .error .unknownFunction
  | some a =>
    if a.receiverType? = some (.pointer (.named (heap c.target).record)) then
      (runBody a (heap c.target).cells c.argument).map fun (cells, result) =>
        (Function.update heap c.target { heap c.target with cells := cells }, result)
    else .error .wrongObject

/-- The objects after a call. A call that is refused leaves them as they were. -/
def after (units : List Record.Checked) (heap : O → Object V) (c : Call O V) : O → Object V :=
  match call units heap c with
  | .ok (heap', _) => heap'
  | .error _ => heap

/-- What the calls of a sequence give back, one after another. -/
def answers (units : List Record.Checked) (heap : O → Object V) :
    List (Call O V) → List (Except Refusal (Option V))
  | [] => []
  | c :: rest => (call units heap c).map Prod.snd :: answers units (after units heap c) rest

/-- The value that a call stores if it is one of the given function on the given object. -/
def stored? (function : String) (target : O) (c : Call O V) : Option V :=
  if c.function = function ∧ c.target = target then c.argument else none

/-- The value that the calls of a function store in an object: the last one that was passed, or
otherwise the initial value. -/
def lastStored (function : String) (target : O) (initial : V) (calls : List (Call O V)) : V :=
  (calls.filterMap (stored? function target)).getLastD initial

variable {units : List Record.Checked} {heap heap' : O → Object V} {c : Call O V} {a : Accessor}
  {unit : Record.Checked} {field : Field} {o : O} {result : Option V}

theorem lastStored_cons (function : String) (target : O) (initial : V) (c : Call O V)
    (calls : List (Call O V)) :
    lastStored function target initial (c :: calls) =
      lastStored function target ((stored? function target c).getD initial) calls := by
  cases h : stored? function target c <;>
    simp only [lastStored, List.filterMap_cons, h, List.getLastD_cons, Option.getD_none,
      Option.getD_some]

/-! ### Names -/

theorem map_name_functions (units : List Record.Checked) :
    (functions units).map Accessor.name = units.flatMap Record.Checked.names :=
  List.map_flatMap

/-- The functions of a schema are those of the fields of its records. -/
theorem mem_functions (hunit : unit ∈ units) (hfield : field ∈ unit.record.fields)
    (kind : Accessor.Kind) :
    ⟨kind, unit.record.name, field.name, field.type.cType⟩ ∈ functions units :=
  List.mem_flatMap.mpr
    ⟨unit, hunit, Record.Checked.mem_accessors_iff.mpr ⟨field, hfield, kind, rfl⟩⟩

/-- A name stands for one function, and no other function has it. -/
theorem filter_name_functions (hnames : (units.flatMap Record.Checked.names).Nodup)
    (ha : a ∈ functions units) : (functions units).filter (·.name = a.name) = [a] := by
  rw [← map_name_functions] at hnames
  have hsame : ∀ b ∈ functions units, decide (b.name = a.name) = (b == a) := by
    intro b hb
    rw [beq_eq_decide, decide_eq_decide]
    exact ⟨fun h => List.inj_on_of_nodup_map hnames hb ha h, fun h => by rw [h]⟩
  rw [List.filter_congr hsame, List.filter_beq, List.count_eq_one_of_mem hnames.of_map ha]
  rfl

/-- Looking for the name of a function finds it. -/
theorem find?_functions {function : String}
    (hnames : (units.flatMap Record.Checked.names).Nodup) (ha : a ∈ functions units)
    (hname : a.name = function) : (functions units).find? (·.name = function) = some a := by
  subst hname
  rw [← List.head?_filter, filter_name_functions hnames ha]
  rfl

/-! ### One call -/

/-- What a call does that is not refused: a function has its name and takes its object, and either
returns a field or replaces one. -/
theorem call_eq_ok_iff :
    call units heap c = .ok (heap', result) ↔
      ∃ a, (functions units).find? (·.name = c.function) = some a ∧
        a.record = (heap c.target).record ∧
          ((a.body = .returnField ∧ c.argument = none ∧ heap' = heap ∧
              result = some ((heap c.target).cells a.field)) ∨
            ∃ value, a.body = .storeField ∧ c.argument = some value ∧
              heap' = Function.update heap c.target { heap c.target with
                cells := Function.update (heap c.target).cells a.field value } ∧
              result = none) := by
  unfold call
  cases hfind : (functions units).find? (·.name = c.function) with
  | none => simp
  | some a =>
    simp only [Option.some.injEq, exists_eq_left', a.receiverType?_eq, CType.pointer.injEq,
      CType.named.injEq]
    by_cases hrecord : a.record = (heap c.target).record
    · -- The body decides which of the two cases applies, if the arguments fit.
      cases hbody : a.body <;> cases hargument : c.argument <;>
        simp [hrecord, runBody, hbody, Except.map, eq_comm]
    · simp [hrecord]

/-- Where a call stores nothing, it leaves the objects as they were. Otherwise it replaces one field
of one object. -/
theorem after_cases (units : List Record.Checked) (heap : O → Object V) (c : Call O V) :
    after units heap c = heap ∨
      ∃ (a : Accessor) (value : V), a.name = c.function ∧ a.kind = .setter ∧
        a.record = (heap c.target).record ∧ c.argument = some value ∧
        after units heap c = Function.update heap c.target { heap c.target with
          cells := Function.update (heap c.target).cells a.field value } := by
  cases hcall : call units heap c with
  | error refusal => exact .inl (by rw [after, hcall])
  | ok outcome =>
    obtain ⟨heap', result⟩ := outcome
    have hafter : after units heap c = heap' := by rw [after, hcall]
    obtain ⟨a, hfind, hrecord, hbody⟩ := call_eq_ok_iff.mp hcall
    rcases hbody with ⟨-, -, hheap, -⟩ | ⟨value, hstore, hargument, hheap, -⟩
    · exact .inl (hafter.trans hheap)
    · have hname : a.name = c.function := by simpa using List.find?_some hfind
      have hkind : a.kind = .setter := by
        cases hkind : a.kind with
        | getter => simp [Accessor.body, hkind] at hstore
        | setter => rfl
      exact .inr ⟨a, value, hname, hkind, hrecord, hargument, hafter.trans hheap⟩

/-- No call turns an object into one of another record. -/
theorem record_after (units : List Record.Checked) (heap : O → Object V) (c : Call O V) (o : O) :
    (after units heap c o).record = (heap o).record := by
  rcases after_cases units heap c with h | ⟨a, value, -, -, -, -, h⟩
  · rw [h]
  · by_cases htarget : o = c.target
    · subst htarget
      simp [h]
    · rw [h, Function.update_of_ne htarget]

/-- A getter returns what its field holds. -/
theorem call_getter (hnames : (units.flatMap Record.Checked.names).Nodup) (hunit : unit ∈ units)
    (hfield : field ∈ unit.record.fields) (ho : (heap o).record = unit.record.name) :
    call units heap ⟨Accessor.functionName unit.record.name .getter field.name, o, none⟩ =
      .ok (heap, some ((heap o).cells field.name)) := by
  rw [call_eq_ok_iff]
  exact ⟨⟨.getter, unit.record.name, field.name, field.type.cType⟩,
    find?_functions hnames (mem_functions hunit hfield .getter) rfl, ho.symm,
    .inl ⟨rfl, rfl, rfl, rfl⟩⟩

/-- A setter stores the value that it is given. -/
theorem call_setter (hnames : (units.flatMap Record.Checked.names).Nodup) (hunit : unit ∈ units)
    (hfield : field ∈ unit.record.fields) (ho : (heap o).record = unit.record.name) (value : V) :
    call units heap ⟨Accessor.functionName unit.record.name .setter field.name, o, some value⟩ =
      .ok (Function.update heap o { heap o with
        cells := Function.update (heap o).cells field.name value }, none) := by
  rw [call_eq_ok_iff]
  exact ⟨⟨.setter, unit.record.name, field.name, field.type.cType⟩,
    find?_functions hnames (mem_functions hunit hfield .setter) rfl, ho.symm,
    .inr ⟨value, rfl, rfl, rfl, rfl⟩⟩

/-- A call changes a cell exactly if it stores a value through the setter of the cell. -/
theorem cells_after (hnames : (units.flatMap Record.Checked.names).Nodup) (hunit : unit ∈ units)
    (hfield : field ∈ unit.record.fields) (ho : (heap o).record = unit.record.name)
    (c : Call O V) :
    (after units heap c o).cells field.name =
      (stored? (Accessor.functionName unit.record.name .setter field.name) o c).getD
        ((heap o).cells field.name) := by
  cases hstored : stored? (Accessor.functionName unit.record.name .setter field.name) o c with
  | some value =>
    obtain ⟨⟨hfunction, htarget⟩, hargument⟩ := Option.ite_none_right_eq_some.mp hstored
    have hcall :
        c = ⟨Accessor.functionName unit.record.name .setter field.name, o, some value⟩ := by
      rw [← hfunction, ← htarget, ← hargument]
    rw [after, hcall, call_setter hnames hunit hfield ho value]
    simp
  | none =>
    rw [Option.getD_none]
    rcases after_cases units heap c with h | ⟨a, value, hname, hkind, hrecord, hargument, h⟩
    · rw [h]
    · by_cases htarget : c.target = o
      · subst htarget
        -- A setter of this record that stores in this cell has the name that was excluded.
        have hother : field.name ≠ a.field := by
          intro heq
          have hfunction : c.function =
              Accessor.functionName unit.record.name .setter field.name := by
            rw [← hname, Accessor.name, hrecord, hkind, ho, heq]
          simp [stored?, hfunction, hargument] at hstored
        simp [h, hother]
      · rw [h, Function.update_of_ne (Ne.symm htarget)]

/-! ### Sequences of calls -/

theorem cells_foldl_after (hnames : (units.flatMap Record.Checked.names).Nodup)
    (hunit : unit ∈ units) (hfield : field ∈ unit.record.fields)
    (ho : (heap o).record = unit.record.name) (calls : List (Call O V)) :
    (calls.foldl (after units) heap o).cells field.name =
      lastStored (Accessor.functionName unit.record.name .setter field.name) o
        ((heap o).cells field.name) calls := by
  -- The first call makes the initial value of the others.
  induction calls generalizing heap with
  | nil => rfl
  | cons c calls ih =>
    have hafter : (after units heap c o).record = unit.record.name := by
      rw [record_after, ho]
    rw [List.foldl_cons, ih hafter, cells_after hnames hunit hfield ho, lastStored_cons]

theorem record_foldl_after (calls : List (Call O V)) :
    (calls.foldl (after units) heap o).record = (heap o).record := by
  induction calls generalizing heap with
  | nil => rfl
  | cons c calls ih => rw [List.foldl_cons, ih, record_after]

theorem length_answers (calls : List (Call O V)) :
    (answers units heap calls).length = calls.length := by
  induction calls generalizing heap with
  | nil => rfl
  | cons c calls ih => rw [answers, List.length_cons, ih, List.length_cons]

theorem answers_append (front back : List (Call O V)) :
    answers units heap (front ++ back) =
      answers units heap front ++ answers units (front.foldl (after units) heap) back := by
  induction front generalizing heap with
  | nil => rfl
  | cons c front ih =>
    rw [List.cons_append, answers, ih, answers, List.cons_append, List.foldl_cons]

/-- In an accepted schema the name of each function stands for it alone. In every sequence of calls
by name, the getter of a field that is called on an object of its record returns what the setter of
the same field stored in this object last, or what the field held at the start if nothing was
stored. No other call has a part in it, be it of other functions, on other objects, or refused. -/
theorem answers_getter {records : List Record} (h : generate records = .ok units)
    (heap : O → Object V) :
    (∀ a ∈ functions units, (functions units).filter (·.name = a.name) = [a]) ∧
      ∀ unit ∈ units, ∀ field ∈ unit.record.fields, ∀ o, (heap o).record = unit.record.name →
        ∀ front back : List (Call O V),
          (answers units heap (front ++
              ⟨Accessor.functionName unit.record.name .getter field.name, o, none⟩ ::
                back))[front.length]? =
            some (.ok (some (lastStored
              (Accessor.functionName unit.record.name .setter field.name) o
                ((heap o).cells field.name) front))) := by
  obtain ⟨-, -, houtputs⟩ := generate_eq_ok_iff.mp h
  have hnames : (units.flatMap Record.Checked.names).Nodup := nodup_names_of_outputs houtputs
  refine ⟨fun a ha => filter_name_functions hnames ha, ?_⟩
  -- The getter runs on the objects that the calls in front of it leave behind.
  intro unit hunit field hfield o ho front back
  have hnow : (front.foldl (after units) heap o).record = unit.record.name := by
    rw [record_foldl_after, ho]
  rw [answers_append, List.getElem?_append_right (length_answers front).le, length_answers,
    Nat.sub_self, answers, List.getElem?_cons_zero, call_getter hnames hunit hfield hnow,
    cells_foldl_after hnames hunit hfield ho]
  rfl

/-- Two records, one of which has a field that is named like one of the other. -/
def resemblingUnits : List Record.Checked :=
  [⟨⟨"A", [⟨"n", .scalar .int⟩, ⟨"m", .scalar .bool⟩]⟩, by decide⟩,
    ⟨⟨"B", [⟨"n", .scalar .int⟩]⟩, by decide⟩]

/-- An object of each of them, with zero in all fields. -/
def zeroes (isFirst : Bool) : Object Nat := ⟨if isFirst then "A" else "B", fun _ => 0⟩

/-- Calls that store in three cells, and one that is refused. -/
def storingCalls : List (Call Bool Nat) :=
  [⟨"A_set_n", true, some 1⟩, ⟨"A_set_m", true, some 2⟩, ⟨"B_set_n", false, some 3⟩,
    ⟨"A_set_n", false, some 4⟩]

/-- After these calls, the getter of the first cell returns what was stored there. -/
theorem answers_getter_at_storingCalls :
    generate (resemblingUnits.map (·.record)) = .ok resemblingUnits ∧
      (zeroes true).record = "A" ∧
      (answers resemblingUnits zeroes (storingCalls ++ [⟨"A_get_n", true, none⟩]))[4]? =
        some (.ok (some 1)) := by
  have hgenerate : generate (resemblingUnits.map (·.record)) = .ok resemblingUnits := by
    decide +kernel
  have hgetter : Accessor.functionName "A" .getter "n" = "A_get_n" := by decide
  have hstored : lastStored (Accessor.functionName "A" .setter "n") true
      ((zeroes true).cells "n") storingCalls = 1 := by decide
  have hanswer := (answers_getter hgenerate zeroes).2
    ⟨⟨"A", [⟨"n", .scalar .int⟩, ⟨"m", .scalar .bool⟩]⟩, by decide⟩ List.mem_cons_self
    ⟨"n", .scalar .int⟩ List.mem_cons_self true rfl storingCalls []
  rw [hgetter, hstored] at hanswer
  exact ⟨hgenerate, rfl, hanswer⟩

end Schema

end Boilerplate
