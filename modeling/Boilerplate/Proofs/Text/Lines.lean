import Boilerplate.Text.Lines

/-!
# The lines of a text

A generated text is put together from lines, and can be read back line by line as long as no line
holds a line feed. Behind the line feed that closes the last line there is one more line, which is
empty.

A line may be looked for by the signs at its end. It is then found together with the lines before
and after it, so that what is said about a line can be told from where the line stands.

## Main definitions

* `Text.lines` — the lines of a text
* `Text.endsIn` — whether a line ends in given signs
* `Text.placesOf` — the lines of a text that end in given signs, each with its neighbours

## Main results

* `Text.lines_unlines` — the lines that a text was made of
* `Text.lines_unlines_eq_flatMap` — the same if some of these lines are several
* `Text.unlines_inj` — a text determines the lines that it was made of
* `Text.places_append` — the places of lines that are put one after another
* `Text.map_placesOf` — what is found in groups of lines
-/

namespace Boilerplate.Text

/-- The lines of a text, which stand between its line feeds. -/
def lines (text : String) : List String := (text.toList.splitOn '\n').map String.ofList

/-- A text of closed lines splits into these lines and an empty one behind the last line feed. -/
theorem splitOn_closedLines {lines : List (List Char)} (h : ∀ line ∈ lines, '\n' ∉ line) :
    (lines.flatMap (· ++ ['\n'])).splitOn '\n' = lines ++ [[]] := by
  induction lines with
  | nil => rfl
  | cons line lines ih =>
    rw [List.forall_mem_cons] at h
    rw [List.flatMap_cons, List.append_assoc, List.singleton_append,
      List.splitOn_append_cons_self, List.splitOn_eq_singleton h.1, ih h.2,
      List.singleton_append, List.cons_append]

variable {front back : List String}

/-- The lines that a text was made of are read back, and an empty line behind the last line feed. -/
theorem lines_unlines (h : ∀ line ∈ front, '\n' ∉ line.toList) :
    lines (unlines front) = front ++ [""] := by
  have hlines : (unlines front).toList = (front.map String.toList).flatMap (· ++ ['\n']) := by
    rw [toList_unlines, List.flatMap_map]
  rw [lines, hlines, splitOn_closedLines (by simpa using h)]
  simp [Function.comp_def]

/-- Lines are put together to a text line by line, even if some of them hold line feeds. -/
theorem lines_unlines_eq_flatMap (front : List String) :
    lines (unlines front) = front.flatMap lines ++ [""] := by
  rw [lines, toList_unlines]
  induction front with
  | nil => rfl
  | cons line front ih =>
    rw [List.flatMap_cons, List.append_assoc, List.singleton_append,
      List.splitOn_append_cons_self, List.map_append, ih, List.flatMap_cons, List.append_assoc]
    rfl

/-- Lines without line feeds are single lines. -/
theorem flatMap_lines (h : ∀ line ∈ front, '\n' ∉ line.toList) : front.flatMap lines = front := by
  rw [← List.append_left_inj [""], ← lines_unlines_eq_flatMap, lines_unlines h]

/-- Texts are the same only if they were made of the same lines. -/
theorem unlines_inj (hfront : ∀ line ∈ front, '\n' ∉ line.toList)
    (hback : ∀ line ∈ back, '\n' ∉ line.toList) : unlines front = unlines back ↔ front = back := by
  refine ⟨fun h => ?_, congrArg unlines⟩
  have hlines : front ++ [""] = back ++ [""] := by
    rw [← lines_unlines hfront, h, lines_unlines hback]
  exact List.append_cancel_right hlines

/-! ### The ends of lines -/

/-- Whether a line ends in the given signs. -/
def endsIn (ending line : String) : Bool := ending.toList.isSuffixOf line.toList

variable {ending line before after : String} {c : Char}

theorem endsIn_append (line ending : String) : endsIn ending (line ++ ending) = true := by
  simp [endsIn]

theorem endsIn_eq_false_of_not_mem (hending : c ∈ ending.toList) (hline : c ∉ line.toList) :
    endsIn ending line = false := by
  rw [Bool.eq_false_iff]
  intro h
  exact hline ((List.isSuffixOf_iff_suffix.mp h).subset hending)

theorem endsIn_eq_false_of_getLast? (hending : ending.toList ≠ [])
    (hline : line.toList.getLast? ≠ ending.toList.getLast?) : endsIn ending line = false := by
  rw [Bool.eq_false_iff]
  intro h
  obtain ⟨front, hfront⟩ := List.isSuffixOf_iff_suffix.mp h
  refine hline ?_
  rw [← hfront, List.getLast?_append, List.getLast?_eq_some_getLast hending, Option.some_or]

/-! ### Lines and their neighbours -/

/-- A line of a text, with the lines before and after it. -/
structure Place where
  before : String
  line : String
  after : String
  deriving DecidableEq, Repr

/-- The places of lines that stand between two others. -/
def places (before : String) : List String → String → List Place
  | [], _ => []
  | line :: rest, after => ⟨before, line, rest.headD after⟩ :: places line rest after

/-- The lines of a text that end in the given signs, in their places. The neighbours that the first
and the last line lack count as empty. -/
def placesOf (ending text : String) : List Place :=
  (places "" (lines text) "").filter fun place => endsIn ending place.line

theorem map_line_places : (places before front after).map Place.line = front := by
  induction front generalizing before with
  | nil => rfl
  | cons line front ih => rw [places, List.map_cons, ih]

theorem map_line_placesOf (ending text : String) :
    (placesOf ending text).map Place.line = (lines text).filter (endsIn ending) := by
  have hlines := List.filter_map (p := endsIn ending) (f := Place.line)
    (l := places "" (lines text) "")
  rw [map_line_places] at hlines
  rw [hlines]
  rfl

/-- Where lines are put one after another, the last line before a cut and the first one behind it
become neighbours. -/
theorem places_append (before : String) (front back : List String) (after : String) :
    places before (front ++ back) after =
      places before front (back.headD after) ++ places (front.getLastD before) back after := by
  induction front generalizing before with
  | nil => rfl
  | cons line front ih =>
    have hnext : (front ++ back).headD after = front.headD (back.headD after) := by
      cases front <;> rfl
    rw [List.cons_append, places, ih, hnext, places, List.cons_append, List.getLastD_cons]

/-- No place is left where no line ends in the given signs. -/
theorem filter_places_eq_nil (h : ∀ line ∈ front, endsIn ending line = false) :
    ((places before front after).filter fun place => endsIn ending place.line) = [] := by
  rw [List.filter_eq_nil_iff]
  intro place hplace
  have hline : place.line ∈ (places before front after).map Place.line :=
    List.mem_map_of_mem hplace
  rw [map_line_places] at hline
  simp [h _ hline]

section Groups

variable {α β : Type} {xs : List α} {f : α → List String} {found : Place → β} {g : α → List β}

/-- In groups of lines, places can be looked for group by group if what is found does not depend on
the lines around a group. -/
theorem map_filter_places_flatMap
    (h : ∀ x ∈ xs, ∀ before after,
      ((places before (f x) after).filter fun place => endsIn ending place.line).map found = g x) :
    ((places before (xs.flatMap f) after).filter fun place => endsIn ending place.line).map found =
      xs.flatMap g := by
  induction xs generalizing before with
  | nil => rfl
  | cons x xs ih =>
    rw [List.forall_mem_cons] at h
    rw [List.flatMap_cons, places_append, List.filter_append, List.map_append, h.1, ih h.2,
      List.flatMap_cons]

/-- In a text that has groups of lines between others, what is looked for is found in the groups if
the others hold none of it. -/
theorem map_placesOf {text : String} (hlines : lines text = front ++ (xs.flatMap f ++ back))
    (hfront : ∀ line ∈ front, endsIn ending line = false)
    (hback : ∀ line ∈ back, endsIn ending line = false)
    (h : ∀ x ∈ xs, ∀ before after,
      ((places before (f x) after).filter fun place => endsIn ending place.line).map found = g x) :
    (placesOf ending text).map found = xs.flatMap g := by
  rw [placesOf, hlines, places_append, places_append, List.filter_append, List.filter_append,
    filter_places_eq_nil hfront, filter_places_eq_nil hback, List.nil_append, List.append_nil]
  exact map_filter_places_flatMap h

end Groups

end Boilerplate.Text
