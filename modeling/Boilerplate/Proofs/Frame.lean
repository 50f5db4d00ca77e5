import Boilerplate.Frame
import Boilerplate.Proofs.Identifier.Macro
import Boilerplate.Proofs.Preprocessor

/-!
# What a frame says

A generated file frames its contents by a banner and by the lines of an include guard. The banner is
one comment, whatever the file was generated from, and the guard is named by letters, digits and
underscores alone, as long as its start is. So all that the preprocessor sees of a frame is the
conditional group of the guard, the definition of the guard in it, and the end of the group.

## Main definitions

* `Frame.Spelled` — whether the start of the guards is empty or spelled as an identifier

## Main results

* `Frame.isPart_of_mem_includeGuard` — the characters of an include guard
* `Frame.leaves_banner`, `Frame.leaves_guarded` — the code in a banner and in guarded lines
* `Frame.directives_guarded` — the directives of a file, given those of its contents
-/

namespace Boilerplate

/-! ### Characters -/

namespace Digest

theorem isPart_hexDigit (n : Nat) : Identifier.isPart (hexDigit n) = true := by
  by_cases h : n < 16
  · interval_cases n <;> decide
  · have hzero : hexDigit n = '0' := List.getD_eq_default _ _ (by simpa using h)
    rw [hzero]
    decide

theorem isPart_of_mem_short {d : Digest} {c : Char} (h : c ∈ d.short.toList) :
    Identifier.isPart c = true := by
  rw [short, String.toList_ofList] at h
  obtain ⟨w, -, hdigit⟩ := List.mem_flatMap.mp (List.mem_of_mem_take h)
  obtain ⟨shift, -, rfl⟩ := List.mem_map.mp hdigit
  exact isPart_hexDigit _

theorem slash_not_mem_short (d : Digest) : '/' ∉ d.short.toList :=
  fun h => absurd (isPart_of_mem_short h) (by decide)

end Digest

namespace Frame

open Preprocessor (words Directive directives)
open Text (Leaves commentEnds leaves_nil)

variable {fileName guardName : String} {style : Style} {c : Char} {body : List String}
  {codes : List (List Char)}

/-- Whether the start that a style chooses for guards is empty or spelled as an identifier. -/
def Spelled (style : Style) : Prop :=
  style.guardPrefix = "" ∨ Identifier.spellingFault? style.guardPrefix = none

/-- Behind a start that is spelled, a guard holds nothing but letters, digits and underscores. -/
theorem isPart_of_mem_includeGuard (hstyle : Spelled style)
    (hc : c ∈ (includeGuard fileName style).toList) : Identifier.isPart c = true := by
  rw [includeGuard, String.toList_append] at hc
  rcases List.mem_append.mp hc with hc | hc
  · rcases hstyle with hempty | hspelled
    · simp [hempty] at hc
    · exact Identifier.isPart_of_mem_of_spelled hspelled hc
  · exact Identifier.isPart_of_mem_macroCase hc

/-! ### The banner -/

/-- Whatever a file was generated from, the banner is one comment that is not closed early, and a
blank line. -/
theorem exists_comment_of_banner (subject : String) (digest : Digest)
    (hbanner : style.banner = true) :
    ∃ inside, commentEnds inside = 0 ∧ (Text.unlines (banner subject digest style)).toList =
      '/' :: '*' :: (inside ++ ['*', '/']) ++ ['\n', '\n'] := by
  refine ⟨" Generated by scaffold from ".toList ++ ((Text.commentText subject).toList ++
    (". Do not edit.".toList ++ '\n' :: (" * input digest: sha256:".toList ++
      (digest.short.toList ++ ['\n', ' '])))), ?_, ?_⟩
  · -- Only the subject is foreign text, and it is escaped.
    have hsubject : commentEnds (Text.commentText subject).toList = 0 := by
      rw [Text.toList_commentText, Text.commentEnds_escapeEnds]
    refine (Text.commentEnds_surround ?_ ?_ ?_).trans hsubject
    · simp
    · simp
    · simp [digest.slash_not_mem_short]
  · -- The marks of the comment are split off the literals that hold them.
    have hopen : "/* Generated by scaffold from ".toList =
        '/' :: '*' :: " Generated by scaffold from ".toList := by decide
    have hclose : " */".toList = [' ', '*', '/'] := by decide
    simp only [banner, hbanner, if_true, Text.toList_unlines, List.flatMap_cons, List.flatMap_nil,
      String.toList_append, String.toList_empty, hopen, hclose, List.append_assoc,
      List.cons_append, List.nil_append, List.append_nil]

/-- The code of the banner: the rest of the line that closes it, and a blank line. -/
def bannerCode (style : Style) : List (List Char) := if style.banner then [[], []] else []

theorem eq_nil_of_mem_bannerCode {line : List Char} (h : line ∈ bannerCode style) : line = [] := by
  by_cases hbanner : style.banner = true
  · simpa [bannerCode, hbanner] using h
  · simp [bannerCode, hbanner] at h

theorem leaves_banner (subject : String) (digest : Digest) (style : Style) :
    Leaves (Text.unlines (banner subject digest style)).toList
      ((bannerCode style).flatMap (· ++ ['\n'])) := by
  by_cases hbanner : style.banner = true
  · obtain ⟨inside, hinside, htext⟩ := exists_comment_of_banner subject digest hbanner
    have hfeeds : Leaves ['\n', '\n'] ['\n', '\n'] := Text.leaves_of_slash_not_mem (by decide)
    have hcode : (bannerCode style).flatMap (· ++ ['\n']) = [] ++ ['\n', '\n'] := by
      simp [bannerCode, hbanner]
    rw [htext, hcode]
    exact Text.leaves_append (Text.leaves_comment hinside) hfeeds
  · simpa [banner, bannerCode, hbanner] using Text.leaves_nil

/-! ### The guard -/

/-- The code of guarded lines: the comment behind the last directive is gone. -/
def guardedCode (guardName : String) (codes : List (List Char)) : List (List Char) :=
  [("#ifndef " ++ guardName).toList, ("#define " ++ guardName).toList, []] ++ codes ++
    [[], "#endif ".toList]

theorem leaves_guarded (hguard : '/' ∉ guardName.toList)
    (hbody : List.Forall₂ (fun line code => Leaves line.toList code) body codes) :
    Leaves (Text.unlines (guarded guardName body)).toList
      ((guardedCode guardName codes).flatMap (· ++ ['\n'])) := by
  have hplain {line : String} (h : '/' ∉ line.toList) : Leaves line.toList line.toList :=
    Text.leaves_of_slash_not_mem h
  have hfirst : List.Forall₂ (fun line code => Leaves (String.toList line) code)
      ["#ifndef " ++ guardName, "#define " ++ guardName, ""]
      [("#ifndef " ++ guardName).toList, ("#define " ++ guardName).toList, []] :=
    .cons (hplain (by simp [hguard])) (.cons (hplain (by simp [hguard])) (.cons leaves_nil .nil))
  -- The last line is code and a comment that repeats the guard.
  have hendif : Leaves ("#endif /* " ++ guardName ++ " */").toList "#endif ".toList := by
    have hcomment : Leaves ('/' :: '*' :: ((" " ++ guardName ++ " ").toList ++ ['*', '/'])) [] :=
      Text.leaves_comment (Text.commentEnds_of_slash_not_mem (by simp [hguard]))
    have hline : ("#endif /* " ++ guardName ++ " */").toList =
        "#endif ".toList ++ '/' :: '*' :: ((" " ++ guardName ++ " ").toList ++ ['*', '/']) := by
      simp
    rw [hline]
    exact Text.leaves_append (hplain (by decide)) hcomment
  have hlast : List.Forall₂ (fun line code => Leaves (String.toList line) code)
      ["", "#endif /* " ++ guardName ++ " */"] [[], "#endif ".toList] :=
    .cons leaves_nil (.cons hendif .nil)
  exact Text.leaves_lines (List.rel_append (List.rel_append hfirst hbody) hlast)

/-- The directives of a file with a banner and a guard: those of its contents, between the start and
the end of the guard. -/
theorem directives_guarded (subject : String) (digest : Digest) (style : Style)
    (hguard : guardName ≠ "") (hpart : ∀ c ∈ guardName.toList, Identifier.isPart c = true)
    (hbody : List.Forall₂ (fun line code => Leaves line.toList code) body codes)
    (hcodes : ∀ code ∈ codes, '\n' ∉ code) :
    directives (Text.unlines (banner subject digest style ++ guarded guardName body)).toList =
      .ifndef guardName :: .define guardName "" ::
        ((codes.filterMap fun code => Directive.ofWords (words code)) ++ [.endif]) := by
  have hslash : '/' ∉ guardName.toList := fun hmem => absurd (hpart _ hmem) (by decide)
  have hfeed : '\n' ∉ guardName.toList := fun hmem => absurd (hpart _ hmem) (by decide)
  have hleaves : Leaves
      (Text.unlines (banner subject digest style ++ guarded guardName body)).toList
      ((bannerCode style ++ guardedCode guardName codes).flatMap (· ++ ['\n'])) := by
    rw [Text.unlines_append, String.toList_append, List.flatMap_append]
    exact Text.leaves_append (leaves_banner subject digest style) (leaves_guarded hslash hbody)
  have hlines : ∀ line ∈ bannerCode style ++ guardedCode guardName codes, '\n' ∉ line := by
    intro line hline
    rcases List.mem_append.mp hline with hline | hline
    · rw [eq_nil_of_mem_bannerCode hline]
      exact List.not_mem_nil
    · simp only [guardedCode, List.mem_append, List.mem_cons, List.not_mem_nil, or_false] at hline
      rcases hline with ((rfl | rfl | rfl) | hline) | rfl | rfl
      · simp [hfeed]
      · simp [hfeed]
      · simp
      · exact hcodes line hline
      · simp
      · decide
  have hbanner :
      (bannerCode style).filterMap (fun line => Directive.ofWords (words line)) = [] := by
    rw [List.filterMap_eq_nil_iff]
    intro line hline
    rw [eq_nil_of_mem_bannerCode hline, Preprocessor.ofWords_nil]
  have hendif : Directive.ofWords (words "#endif ".toList) = some .endif := by decide
  -- What is left is to read the lines one by one.
  rw [Preprocessor.directives_of_leaves hleaves hlines, List.filterMap_append, hbanner]
  simp only [guardedCode, List.filterMap_append, List.filterMap_cons, List.filterMap_nil,
    Preprocessor.ofWords_nil, Preprocessor.ofWords_ifndef hguard hpart,
    Preprocessor.ofWords_define hguard hpart, hendif, List.nil_append, List.cons_append]

end Frame

end Boilerplate
