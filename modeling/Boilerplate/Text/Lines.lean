/-!
# Texts made of lines

Every generated file is built as a list of lines and turned into one text at the very end, each
line closed by a line feed.

## Main definitions

* `Text.unlines` — the text of a list of lines
-/

namespace Boilerplate.Text

/-- The text of a list of lines, each of them closed by a line feed. -/
def unlines (lines : List String) : String := String.join (lines.map (· ++ "\n"))

@[simp] theorem toList_unlines (lines : List String) :
    (unlines lines).toList = lines.flatMap fun line => line.toList ++ ['\n'] := by
  simp [unlines, List.flatMap_map]

/-- The text of two lists of lines is the text of the first, followed by that of the second. -/
theorem unlines_append (front back : List String) :
    unlines (front ++ back) = unlines front ++ unlines back := by
  simp [← String.toList_inj]

end Boilerplate.Text
