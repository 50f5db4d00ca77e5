import Boilerplate.Proofs.Config

/-!
# Configurations in JSON

A reader for one kind of JSON text: a single object whose values are truth values. White space may
stand between any two tokens. The members come as the text has them, in its order and with every
repeated key, so nothing that the text says is hidden by the reader. A text with an escape in a key
or with a value of another kind is refused.

The JSON text of a configuration is such an object, and its members are the entries.

## Main definitions

* `Json.Token`, `Json.tokens` — the tokens of a text
* `Json.object?` — the members of the object that a text is

## Main results

* `Config.tokens_jsonLine` — the tokens of one member
* `Config.object?_json` — the text of a configuration gives back its entries
-/

namespace Boilerplate

namespace Json

/-- The tokens of objects of truth values. -/
inductive Token
  | openBrace | closeBrace | colon | comma
  | string (text : String)
  | truth (value : Bool)
  deriving DecidableEq, Repr

/-- The tokens of a text, or none if some part of it is no token. Within a string, the characters
that were read so far are given, the latest first. -/
def tokens : Option (List Char) → List Char → Option (List Token)
  | none, [] => some []
  | none, '\x7b' :: rest => (tokens none rest).map (.openBrace :: ·)
  | none, '\x7d' :: rest => (tokens none rest).map (.closeBrace :: ·)
  | none, ':' :: rest => (tokens none rest).map (.colon :: ·)
  | none, ',' :: rest => (tokens none rest).map (.comma :: ·)
  | none, '"' :: rest => tokens (some []) rest
  | none, 't' :: 'r' :: 'u' :: 'e' :: rest => (tokens none rest).map (.truth true :: ·)
  | none, 'f' :: 'a' :: 'l' :: 's' :: 'e' :: rest => (tokens none rest).map (.truth false :: ·)
  | none, c :: rest => if c.isWhitespace then tokens none rest else none
  -- A string that is not closed is no token.
  | some _, [] => none
  | some read, '"' :: rest => (tokens none rest).map (.string (String.ofList read.reverse) :: ·)
  | some read, c :: rest =>
    -- A backslash starts an escape, and control characters may only stand in a string as one.
    if c = '\\' ∨ c.toNat < 0x20 then none else tokens (some (c :: read)) rest

/-- The members of an object, from the tokens behind its opening brace. -/
def members : List Token → Option (List (String × Bool))
  | [.string key, .colon, .truth value, .closeBrace] => some [(key, value)]
  | .string key :: .colon :: .truth value :: .comma :: rest =>
    (members rest).map ((key, value) :: ·)
  | _ => none

/-- The members of the object that a text is, in the order of the text. -/
def object? (text : String) : Option (List (String × Bool)) :=
  match tokens none text.toList with
  | some [.openBrace, .closeBrace] => some []
  | some (.openBrace :: rest) => members rest
  | _ => none

variable {name read rest : List Char} {c : Char}

/-- The characters of identifiers stand for themselves in a string. -/
theorem tokens_isPart_cons (h : Identifier.isPart c = true) :
    tokens (some read) (c :: rest) = tokens (some (c :: read)) rest := by
  have hquote : c ≠ '"' := by
    rintro rfl
    exact absurd h (by decide)
  have hescape : c ≠ '\\' := by
    rintro rfl
    exact absurd h (by decide)
  have hcontrol : ¬ c.toNat < 0x20 := by
    have hlow : ∀ n < 0x20, Identifier.isPart (Char.ofNat n) = false := by decide
    intro hc
    rw [← Char.ofNat_toNat c, hlow c.toNat hc] at h
    exact Bool.noConfusion h
  rw [tokens, if_neg (not_or.mpr ⟨hescape, hcontrol⟩)]
  exact hquote

/-- An identifier needs no escape, so it is read up to its closing quote. -/
theorem tokens_string (h : ∀ c ∈ name, Identifier.isPart c = true) :
    tokens (some read) (name ++ '"' :: rest) =
      (tokens none rest).map (.string (String.ofList (read.reverse ++ name)) :: ·) := by
  induction name generalizing read with
  | nil => simp [tokens]
  | cons c name ih =>
    rw [List.forall_mem_cons] at h
    rw [List.cons_append, tokens_isPart_cons h.1, ih h.2, List.reverse_cons, List.append_assoc,
      List.singleton_append]

end Json

namespace Config

open Json (tokens members object?)

variable {config : Config} {entry : String × Bool} {entries : List (String × Bool)}
  {rest : List Char}

/-- The tokens of a member. -/
def memberTokens (entry : String × Bool) : List Json.Token :=
  [.string entry.1, .colon, .truth entry.2]

/-- The line of an entry is one member. -/
theorem tokens_jsonLine (h : Identifier.fault? entry.1 = none) :
    tokens none ((jsonLine entry).toList ++ rest) =
      (tokens none rest).map (memberTokens entry ++ ·) := by
  have hname : ∀ c ∈ entry.1.toList, Identifier.isPart c = true :=
    fun _ hc => Identifier.isPart_of_mem h hc
  have hline : (jsonLine entry).toList ++ rest = ' ' :: ' ' :: '"' :: (entry.1.toList ++
      '"' :: ':' :: ' ' :: ((if entry.2 then "true" else "false").toList ++ rest)) := by
    simp [jsonLine]
  rw [hline]
  cases hvalue : entry.2 <;>
    simp [tokens, Json.tokens_string hname, memberTokens, hvalue, Function.comp_def]

/-- The text behind the opening brace: the members with commas between them, and the other brace. -/
def jsonBody (entries : List (String × Bool)) : List Char :=
  ",\n".toList.intercalate (entries.map fun entry => (jsonLine entry).toList) ++ "\n\x7d".toList

theorem jsonBody_singleton (entry : String × Bool) :
    jsonBody [entry] = (jsonLine entry).toList ++ ['\n', '\x7d'] := by
  simp [jsonBody]

theorem jsonBody_cons_cons (entry other : String × Bool) (entries : List (String × Bool)) :
    jsonBody (entry :: other :: entries) =
      (jsonLine entry).toList ++ ',' :: '\n' :: jsonBody (other :: entries) := by
  simp [jsonBody]

/-- The members that are read behind the opening brace are the entries. -/
theorem members_jsonBody (h : ∀ e ∈ entry :: entries, Identifier.fault? e.1 = none) :
    (tokens none (jsonBody (entry :: entries))).bind members = some (entry :: entries) := by
  -- One member is read off the front, and the comma behind it leads on to the next.
  induction entries generalizing entry with
  | nil =>
    rw [jsonBody_singleton, tokens_jsonLine (h entry (by simp))]
    simp [tokens, memberTokens, members]
  | cons other entries ih =>
    rw [List.forall_mem_cons] at h
    have hstep : tokens none (jsonBody (entry :: other :: entries)) =
        (tokens none (jsonBody (other :: entries))).map (memberTokens entry ++ .comma :: ·) := by
      rw [jsonBody_cons_cons, tokens_jsonLine h.1]
      simp [tokens, Function.comp_def]
    have hmembers : (members ∘ fun ts => memberTokens entry ++ .comma :: ts) =
        fun ts => (members ts).map (entry :: ·) := by
      funext ts
      simp [memberTokens, members]
    calc (tokens none (jsonBody (entry :: other :: entries))).bind members
        = (tokens none (jsonBody (other :: entries))).bind
            fun ts => (members ts).map (entry :: ·) := by rw [hstep, Option.bind_map, hmembers]
      _ = ((tokens none (jsonBody (other :: entries))).bind members).map (entry :: ·) :=
          (Option.map_bind ..).symm
      _ = some (entry :: other :: entries) := by rw [ih h.2, Option.map_some]

/-- The JSON text of a configuration, read as an object, has the entries as its members: every
symbol is a key, in order, with its value. -/
theorem object?_json (hconfig : ∀ entry ∈ config.entries, Identifier.fault? entry.1 = none) :
    object? config.json = some config.entries := by
  obtain ⟨entries⟩ := config
  cases entries with
  | nil => rfl
  | cons entry entries =>
    have hjson : (json ⟨entry :: entries⟩).toList =
        '\x7b' :: '\n' :: jsonBody (entry :: entries) := by
      simp [json, jsonBody, Function.comp_def]
    have hbody : ∃ ts, tokens none (jsonBody (entry :: entries)) = some ts ∧
        members ts = some (entry :: entries) :=
      Option.bind_eq_some_iff.mp (members_jsonBody hconfig)
    obtain ⟨ts, htokens, hmembers⟩ := hbody
    have hall : tokens none (json ⟨entry :: entries⟩).toList = some (.openBrace :: ts) := by
      simp [hjson, tokens, htokens]
    -- The object is not the empty one, whose text is read by a case of its own.
    have hclose : ts ≠ [.closeBrace] := by
      rintro rfl
      simp [members] at hmembers
    simp [object?, hall, hmembers]

end Config

end Boilerplate
