import Boilerplate.Digest
import Boilerplate.Identifier
import Boilerplate.Style
import Boilerplate.Text.Comment
import Boilerplate.Text.Lines

/-!
# The frame of a generated file

Every generated file may open with a banner, and every header keeps its contents between the lines
of an include guard. Both are given as lines.

## Main definitions

* `Frame.includeGuard` — the macro that guards a file
* `Frame.banner` — the comment that says what a file was generated from
* `Frame.guarded` — the lines of a header, with the guard around them
-/

namespace Boilerplate.Frame

/-- The macro that guards a header: the start that the style chooses, and the file name in
capitals. -/
def includeGuard (fileName : String) (style : Style) : String :=
  style.guardPrefix ++ Identifier.macroCase fileName

/-- The comment at the top of a file, with a blank line after it. It names what the file was
generated from and the digest of that; a style may leave it out. -/
def banner (subject : String) (digest : Digest) (style : Style) : List String :=
  if style.banner then
    ["/* Generated by scaffold from " ++ Text.commentText subject ++ ". Do not edit.",
      " * input digest: sha256:" ++ digest.short,
      " */",
      ""]
  else []

/-- The lines of a header between those that define its guard and the one that ends it. -/
def guarded (guardName : String) (body : List String) : List String :=
  ["#ifndef " ++ guardName, "#define " ++ guardName, ""] ++ body ++
    ["", "#endif /* " ++ guardName ++ " */"]

end Boilerplate.Frame
