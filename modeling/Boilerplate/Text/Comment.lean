/-!
# Text inside a comment

A generated comment quotes text that the program did not write, such as the name of a host. The
text must not end the comment early, so each `*/` in it is written `* /`.

## Main definitions

* `Text.escapeEnds` — the escape on a list of characters
* `Text.commentText` — the escape on a text
-/

namespace Boilerplate.Text

/-- Puts a space between a star and a slash that follows it directly. -/
def escapeEnds : List Char → List Char
  | '*' :: '/' :: rest => '*' :: ' ' :: '/' :: escapeEnds rest
  | c :: rest => c :: escapeEnds rest
  | [] => []

/-- A text as it may stand inside a comment: each `*/` is written `* /`. -/
def commentText (s : String) : String := String.ofList (escapeEnds s.toList)

@[simp] theorem escapeEnds_end (rest : List Char) :
    escapeEnds ('*' :: '/' :: rest) = '*' :: ' ' :: '/' :: escapeEnds rest := rfl

@[simp] theorem toList_commentText (s : String) :
    (commentText s).toList = escapeEnds s.toList := by
  simp [commentText]

end Boilerplate.Text
