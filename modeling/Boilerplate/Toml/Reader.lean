import Boilerplate.Toml.Quoted

/-!
# Reading pieces of a document

A reader takes characters off the front of a text and returns what they mean, or refuses the text.
The readers here are the ones that every part of a document needs: blanks, comments, the ends of
lines, and keys.

## Main definitions

* `Toml.Reader` — readers
* `Toml.Reader.lineEnd` — the rest of a line after a statement
* `Toml.Reader.filler` — blanks, comments and line breaks within an array
* `Toml.Reader.path` — a dotted key
-/

namespace Boilerplate.Toml

/-- Takes characters off the front of a text and returns what they mean, or refuses the text. -/
abbrev Reader := StateT (List Char) Option

namespace Reader

/-- The next character, which stays where it is. -/
def next? : Reader (Option Char) := return (← get).head?

/-- Takes off a character that must be the next one. -/
def expect (c : Char) : Reader PUnit := do
  match ← get with
  | [] => failure
  | d :: rest => if d = c then set rest else failure

/-- Takes off all characters of a kind that come next. -/
def takeAll (p : Char → Bool) : Reader (List Char) := do
  let cs ← get
  set (cs.dropWhile p)
  return cs.takeWhile p

/-- Skips the blanks that come next. -/
def blanks : Reader PUnit := modify fun cs => cs.dropWhile Quoted.isGap

/-- Reads a quoted string. -/
def quoted : Reader String := do
  let (contents, rest) ← Quoted.read (← get)
  set rest
  return String.ofList contents

/-- Skips a comment, if one comes next. -/
def comment : Reader PUnit := do
  if (← next?) = some '#' then modify fun cs => cs.dropWhile Quoted.isPlain

/-- Reads the rest of a line after a statement, which holds at most a comment. The text may end
there. -/
def lineEnd : Reader PUnit := do
  blanks
  comment
  match ← get with
  | [] => return
  | cs =>
    let rest ← Quoted.lineBreak? cs
    set rest

/-- Skips blanks, comments and line breaks; the flag says whether a comment has been started. -/
def skipFiller (commented : Bool) : List Char → Option (List Char)
  | [] => some []
  | '\n' :: rest => skipFiller false rest
  | '\r' :: '\n' :: rest => skipFiller false rest
  | c :: rest =>
    if commented then (if Quoted.isPlain c then skipFiller true rest else none)
    else if Quoted.isGap c then skipFiller false rest
    else if c = '#' then skipFiller true rest
    else some (c :: rest)

/-- Skips what may stand between the items of an array. -/
def filler : Reader PUnit := do
  let rest ← skipFiller false (← get)
  set rest

/-- Whether a character may stand in a key without quotes. -/
def isBare (c : Char) : Bool := c.isAlphanum || c == '_' || c == '-'

/-- Reads one part of a key: quoted on one line, or bare. -/
def key : Reader String := do
  match ← next? with
  | some '"' | some '\'' =>
    let (contents, rest) ← Quoted.readLine (← get)
    set rest
    return String.ofList contents
  | _ =>
    match ← takeAll isBare with
    | [] => failure
    | cs => return String.ofList cs

/-- Reads the parts of a dotted key, of which there may be no more than the given number. Blanks
may surround each part. -/
def parts : Nat → Reader (List String)
  | 0 => failure
  | room + 1 => do
    blanks
    let part ← key
    blanks
    if (← next?) = some '.' then
      expect '.'
      return part :: (← parts room)
    else return [part]

/-- How many parts a dotted key may have, and how deep values may be nested. -/
def limit : Nat := 79

/-- Reads a dotted key, with the blanks around it. -/
def path : Reader (List String) := parts limit

end Reader

end Boilerplate.Toml
