import Boilerplate.Proofs.Comments

/-!
# Comments and spliced lines

Before a compiler looks for comments, it splices lines: a backslash directly before a line feed is
deleted together with it. A star and a slash that were parted by nothing else come together then,
and end a comment. Escaped text was split only where the two stood together from the start, so it
keeps every end that is hidden like this.

Hosts are free text, and may hide an end. The comment that names the host and the banner then end
early. Both are as safe as the host: they end where they should exactly if it hides no end.

## Main definitions

* `Text.spliced` — a text with its lines spliced
* `Text.splices` — any number of splices in a row
* `Text.HidesEnd` — whether a star and a slash are parted by splices alone

## Main results

* `Text.commentEnds_spliced_escapeEnds` — what the escape takes out of a text
* `Text.commentEnds_spliced_escapeEnds_eq_zero_iff` — when escaped text is safe
* `Config.commentEnds_spliced_hostLine`, `Frame.commentEnds_spliced_banner` — the ends of comments
* `Config.spliced_comments_end_iff` — when the comments of a configuration header are safe
* `Config.host_hiding_end` — a host that ends both of them early
-/

namespace Boilerplate

namespace Text

/-- A text with its lines spliced: every backslash that stands directly before a line feed is
deleted, and the line feed with it. -/
def spliced : List Char → List Char
  | '\\' :: '\n' :: rest => spliced rest
  | c :: rest => c :: spliced rest
  | [] => []

/-- Splices in a row. -/
def splices : Nat → List Char
  | 0 => []
  | n + 1 => '\\' :: '\n' :: splices n

/-- Whether somewhere in a text a star and a slash are parted by splices alone, one or more. -/
def HidesEnd (text : List Char) : Prop := ∃ n, '*' :: (splices (n + 1) ++ ['/']) <:+: text

variable {c : Char} {cs xs ys rest : List Char}

/-! ### Splicing -/

/-- A character that no splice starts with stays. -/
theorem spliced_cons (h : c = '\\' → rest.head? ≠ some '\n') :
    spliced (c :: rest) = c :: spliced rest := by
  rw [spliced]
  rintro tail rfl rfl
  exact h rfl rfl

theorem head?_ne_of_no_splice (h : ∀ tail, c = '\\' → rest = '\n' :: tail → False) :
    c = '\\' → rest.head? ≠ some '\n' := by
  intro hc hfeed
  obtain ⟨tail, rfl⟩ := List.head?_eq_some_iff.mp hfeed
  exact h tail hc rfl

theorem spliced_of_backslash_not_mem (h : '\\' ∉ cs) : spliced cs = cs := by
  induction cs with
  | nil => rfl
  | cons c rest ih =>
    rw [List.mem_cons, not_or] at h
    rw [spliced_cons fun hc => absurd hc.symm h.1, ih h.2]

/-- No splice arises between two texts unless the first ends with a backslash and the second starts
with a line feed. -/
theorem spliced_append (h : xs.getLast? = some '\\' → ys.head? ≠ some '\n') :
    spliced (xs ++ ys) = spliced xs ++ spliced ys := by
  fun_induction spliced xs with
  | case1 rest ih =>
    rw [List.cons_append, List.cons_append, spliced]
    apply ih
    intro hlast
    exact h (by simp [List.getLast?_cons, hlast])
  | case2 c rest hc ih =>
    have hseam : c = '\\' → (rest ++ ys).head? ≠ some '\n' := by
      rintro rfl
      cases rest with
      | nil => exact h rfl
      | cons d rest =>
        intro hd
        obtain rfl : d = '\n' := by simpa using hd
        exact hc rest rfl rfl
    have hrest : spliced (rest ++ ys) = spliced rest ++ spliced ys := by
      apply ih
      intro hlast
      exact h (by simp [List.getLast?_cons, hlast])
    rw [List.cons_append, spliced_cons hseam, hrest, List.cons_append]
  | case3 => rfl

/-- A slash comes first in a spliced text exactly if nothing but splices stand before it. -/
theorem head?_spliced_eq_slash_iff :
    (spliced cs).head? = some '/' ↔ ∃ n, splices n ++ ['/'] <+: cs := by
  fun_induction spliced cs with
  | case1 rest ih =>
    rw [ih]
    constructor
    · intro ⟨n, hn⟩
      exact ⟨n + 1, by simpa [splices] using hn⟩
    · intro ⟨n, hn⟩
      cases n with
      | zero => simp [splices] at hn
      | succ n => exact ⟨n, by simpa [splices] using hn⟩
  | case2 c rest hc ih =>
    constructor
    · intro hhead
      obtain rfl : c = '/' := by simpa using hhead
      exact ⟨0, by simp [splices]⟩
    · intro ⟨n, hn⟩
      cases n with
      | zero => simpa [splices, eq_comm] using hn
      | succ n =>
        -- The text would start with a splice, which was excluded.
        obtain ⟨back, hback⟩ := hn
        obtain ⟨rfl, hrest⟩ := List.cons.inj hback
        exact (hc _ rfl hrest.symm).elim
  | case3 => simp

/-! ### Hidden ends -/

theorem head?_spliced_of_slash (h : rest.head? = some '/') :
    (spliced rest).head? = some '/' := by
  obtain ⟨tail, rfl⟩ := List.head?_eq_some_iff.mp h
  exact head?_spliced_eq_slash_iff.mpr ⟨0, by simp [splices]⟩

/-- The escape leaves the character that comes first in a spliced text as it is. -/
theorem head?_spliced_escapeEnds (cs : List Char) :
    (spliced (escapeEnds cs)).head? = (spliced cs).head? := by
  fun_induction spliced cs with
  | case1 rest ih =>
    rw [escapeEnds_cons (by simp), escapeEnds_cons (by simp), spliced, ih]
  | case2 c rest hc ih =>
    by_cases hend : c = '*' ∧ rest.head? = some '/'
    · obtain ⟨rfl, hslash⟩ := hend
      obtain ⟨tail, rfl⟩ := List.head?_eq_some_iff.mp hslash
      rw [escapeEnds_end, spliced_cons (by simp)]
      rfl
    · rw [escapeEnds_cons fun hstar hslash => hend ⟨hstar, hslash⟩, spliced_cons]
      · rfl
      · rw [head?_escapeEnds]
        exact head?_ne_of_no_splice hc
  | case3 => rfl

/-- What a character adds to the ends of an escaped and spliced text: one, if it is a star that a
slash follows after splices, and not directly. -/
theorem commentEnds_spliced_escapeEnds_cons (h : c = '\\' → rest.head? ≠ some '\n') :
    commentEnds (spliced (escapeEnds (c :: rest))) =
      commentEnds (spliced (escapeEnds rest)) +
        if c = '*' ∧ rest.head? ≠ some '/' ∧ (spliced rest).head? = some '/' then 1 else 0 := by
  by_cases hend : c = '*' ∧ rest.head? = some '/'
  · -- The escape parts the two, and leaves the rest.
    obtain ⟨rfl, hslash⟩ := hend
    obtain ⟨tail, rfl⟩ := List.head?_eq_some_iff.mp hslash
    rw [escapeEnds_end, escapeEnds_cons (by simp), spliced_cons (by simp), spliced_cons (by simp),
      commentEnds_cons_eq, commentEnds_cons_eq]
    simp
  · have hescape : escapeEnds (c :: rest) = c :: escapeEnds rest :=
      escapeEnds_cons fun hc hslash => hend ⟨hc, hslash⟩
    rw [hescape, spliced_cons (by rwa [head?_escapeEnds]), commentEnds_cons_eq,
      head?_spliced_escapeEnds]
    have hiff : (c = '*' ∧ (spliced rest).head? = some '/') ↔
        c = '*' ∧ rest.head? ≠ some '/' ∧ (spliced rest).head? = some '/' := by tauto
    simp only [hiff]

/-- The escape takes out of a text the ends that it has as it stands. Those that splicing adds to
them stay. -/
theorem commentEnds_spliced_escapeEnds (cs : List Char) :
    commentEnds (spliced (escapeEnds cs)) + commentEnds cs = commentEnds (spliced cs) := by
  fun_induction spliced cs with
  | case1 rest ih =>
    rw [escapeEnds_cons (by simp), escapeEnds_cons (by simp), spliced, commentEnds_cons (by simp),
      commentEnds_cons (by simp), ih]
  | case2 c rest hc ih =>
    rw [commentEnds_spliced_escapeEnds_cons (head?_ne_of_no_splice hc), commentEnds_cons_eq c rest,
      commentEnds_cons_eq c (spliced rest), ← ih]
    by_cases hslash : rest.head? = some '/'
    · have hspliced := head?_spliced_of_slash hslash
      simp only [hslash, hspliced, ne_eq, not_true_eq_false, false_and, and_false, if_false]
      omega
    · simp only [hslash, ne_eq, not_false_eq_true, true_and, and_false, if_false]
      omega
  | case3 => rfl

/-- A text hides an end at its first character exactly if that is a star that a slash follows after
splices, and not directly. -/
theorem hidesEnd_cons : HidesEnd (c :: rest) ↔
    (c = '*' ∧ rest.head? ≠ some '/' ∧ (spliced rest).head? = some '/') ∨ HidesEnd rest := by
  have hfirst : (∃ n, '*' :: (splices (n + 1) ++ ['/']) <+: c :: rest) ↔
      c = '*' ∧ rest.head? ≠ some '/' ∧ (spliced rest).head? = some '/' := by
    simp only [List.cons_prefix_cons, exists_and_left, eq_comm (a := '*'),
      head?_spliced_eq_slash_iff]
    refine and_congr_right fun _ => ?_
    constructor
    · intro ⟨n, hn⟩
      obtain ⟨back, rfl⟩ := hn
      exact ⟨by simp [splices], n + 1, List.prefix_append _ _⟩
    · intro ⟨hslash, n, hn⟩
      cases n with
      | zero =>
        obtain ⟨back, rfl⟩ := hn
        exact absurd rfl hslash
      | succ n => exact ⟨n, hn⟩
  simp only [HidesEnd, List.infix_cons_iff, exists_or, hfirst]

/-- Escaped text ends no comment after splicing exactly if the text hides no end. -/
theorem commentEnds_spliced_escapeEnds_eq_zero_iff (cs : List Char) :
    commentEnds (spliced (escapeEnds cs)) = 0 ↔ ¬ HidesEnd cs := by
  induction cs using spliced.induct with
  | case1 rest ih =>
    have hhides : HidesEnd ('\\' :: '\n' :: rest) ↔ HidesEnd rest := by
      simp [hidesEnd_cons]
    rw [escapeEnds_cons (by simp), escapeEnds_cons (by simp), spliced, ih, hhides]
  | case2 c rest hc ih =>
    rw [commentEnds_spliced_escapeEnds_cons (head?_ne_of_no_splice hc), Nat.add_eq_zero_iff, ih,
      hidesEnd_cons, not_or, and_comm]
    refine and_congr_left fun _ => ?_
    split_ifs with hend
    · simp [hend]
    · simp [hend]
  | case3 =>
    have hhides : ¬ HidesEnd [] := fun ⟨n, hn⟩ => by simp at hn
    simpa [commentEnds, escapeEnds, spliced] using hhides

/-- A text without stars hides no more ends than what stands behind it. -/
theorem hidesEnd_append_of_star_not_mem (h : '*' ∉ xs) : HidesEnd (xs ++ ys) ↔ HidesEnd ys := by
  induction xs with
  | nil => rfl
  | cons c xs ih =>
    rw [List.mem_cons, not_or] at h
    rw [List.cons_append, hidesEnd_cons, ih h.2]
    exact or_iff_right fun hstar => h.1 hstar.1.symm

/-! ### Lines -/

/-- Around a text, other text that holds no backslash stays, unless it starts with a line feed. -/
theorem spliced_surround {body : List Char} (hfront : '\\' ∉ xs) (hback : '\\' ∉ ys)
    (hfeed : ys.head? ≠ some '\n') : spliced (xs ++ (body ++ ys)) = xs ++ (spliced body ++ ys) := by
  have hseam : xs.getLast? = some '\\' → (body ++ ys).head? ≠ some '\n' :=
    fun hlast => absurd (List.mem_of_getLast? hlast) hfront
  rw [spliced_append hseam, spliced_append fun _ => hfeed, spliced_of_backslash_not_mem hfront,
    spliced_of_backslash_not_mem hback]

/-- A comment on a line of its own ends once after splicing, and where its body does. -/
theorem commentEnds_spliced_comment (body : String) :
    commentEnds (spliced ("/* " ++ body ++ " */").toList) =
      commentEnds (spliced body.toList) + 1 := by
  have hline : spliced ("/* " ++ body ++ " */").toList =
      ("/* " ++ String.ofList (spliced body.toList) ++ " */").toList := by
    have hmarks : spliced ("/* ".toList ++ (body.toList ++ " */".toList)) =
        "/* ".toList ++ (spliced body.toList ++ " */".toList) :=
      spliced_surround (by decide) (by decide) (by decide)
    simpa using hmarks
  rw [hline, commentEnds_comment, String.toList_ofList]

/-- Lines that do not end in a backslash are spliced one by one. -/
theorem commentEnds_spliced_unlines {lines : List String}
    (h : ∀ line ∈ lines, line.toList.getLast? ≠ some '\\') :
    commentEnds (spliced (unlines lines).toList) =
      (lines.map fun line => commentEnds (spliced line.toList)).sum := by
  rw [toList_unlines]
  induction lines with
  | nil => rfl
  | cons line lines ih =>
    rw [List.forall_mem_cons] at h
    have hfeed (rest : List Char) : spliced ('\n' :: rest) = '\n' :: spliced rest :=
      spliced_cons (by simp)
    rw [List.flatMap_cons, List.append_assoc, List.singleton_append,
      spliced_append fun hlast => absurd hlast h.1, hfeed,
      commentEnds_append_cons '\n' (by decide) (by decide), ih h.2, List.map_cons, List.sum_cons]

end Text

namespace Frame

open Text (commentEnds spliced)

variable {style : Style}

/-- The first line of a banner does not end its comment, unless the text does that it quotes. -/
theorem commentEnds_spliced_subjectLine (subject : String) :
    commentEnds (spliced ("/* Generated by scaffold from " ++ Text.commentText subject ++
      ". Do not edit.").toList) = commentEnds (spliced (Text.commentText subject).toList) := by
  have hopen : commentEnds "/* Generated by scaffold from ".toList = 0 := by decide
  have hspliced : spliced ("/* Generated by scaffold from ".toList ++
      ((Text.commentText subject).toList ++ ". Do not edit.".toList)) =
        "/* Generated by scaffold from ".toList ++
          (spliced (Text.commentText subject).toList ++ ". Do not edit.".toList) :=
    Text.spliced_surround (by decide) (by decide) (by decide)
  rw [String.toList_append, String.toList_append, List.append_assoc, hspliced,
    Text.commentEnds_append (by simp), hopen, Nat.zero_add,
    Text.commentEnds_append_of_slash_not_mem (by decide)]

/-- After splicing, the banner ends its comment once, and where the text does that it quotes. -/
theorem commentEnds_spliced_banner (subject : String) (digest : Digest)
    (hbanner : style.banner = true) :
    commentEnds (spliced (Text.unlines (banner subject digest style)).toList) =
      commentEnds (spliced (Text.commentText subject).toList) + 1 := by
  have hlines : banner subject digest style =
      ["/* Generated by scaffold from " ++ Text.commentText subject ++ ". Do not edit.",
        " * input digest: sha256:" ++ digest.short, " */", ""] := if_pos hbanner
  -- The other lines quote nothing, so splicing leaves them as they are.
  have hbackslash : '\\' ∉ (" * input digest: sha256:" ++ digest.short).toList := by
    have hshort : '\\' ∉ digest.short.toList :=
      fun h => absurd (Digest.isPart_of_mem_short h) (by decide)
    simp [hshort]
  have hdigest : commentEnds (spliced (" * input digest: sha256:" ++ digest.short).toList) = 0 := by
    rw [Text.spliced_of_backslash_not_mem hbackslash]
    exact Text.commentEnds_of_slash_not_mem (by simp [digest.slash_not_mem_short])
  have hclose : commentEnds (spliced " */".toList) = 1 := by decide
  have hempty : commentEnds (spliced "".toList) = 0 := by decide
  rw [hlines, Text.commentEnds_spliced_unlines]
  · simp only [List.map_cons, List.map_nil, List.sum_cons, List.sum_nil, hdigest, hclose, hempty,
      commentEnds_spliced_subjectLine]
    omega
  · intro line hline
    simp only [List.mem_cons, List.not_mem_nil, or_false] at hline
    rcases hline with rfl | rfl | rfl | rfl
    · simp [List.getLast?_cons, List.getLast?_append]
    · exact fun h => hbackslash (List.mem_of_getLast? h)
    · decide
    · decide

end Frame

namespace Config

open Text (commentEnds spliced HidesEnd)

variable {host : Host} {style : Style}

theorem commentEnds_spliced_hostLine (host : Host) :
    commentEnds (spliced (hostLine host).toList) =
      commentEnds (spliced (Text.commentText host.text).toList) + 1 := by
  have hline : hostLine host = "/* " ++ ("Host: " ++ Text.commentText host.text) ++ " */" := by
    simp [hostLine, ← String.toList_inj]
  have hbody : spliced ("Host: " ++ Text.commentText host.text).toList =
      "Host: ".toList ++ (spliced (Text.commentText host.text).toList ++ []) := by
    rw [← Text.spliced_surround (by decide) (by simp) (by simp), String.toList_append,
      List.append_nil]
  rw [hline, Text.commentEnds_spliced_comment, hbody, List.append_nil,
    Text.commentEnds_append_of_front (by decide) (by decide)]

/-- After lines are spliced, an escaped text still holds each `*/` that splicing adds to the text,
and no other. There is none of them exactly if the text hides no end. So the comment that names the
host in a configuration header ends where it should, and only there, exactly if the host hides no
end, and so does the banner, unless the style leaves it out. -/
theorem spliced_comments_end_iff (config : Config) (host : Host) (style : Style) :
    (∀ text : String, commentEnds (spliced (Text.commentText text).toList) +
        commentEnds text.toList = commentEnds (spliced text.toList)) ∧
      (∀ text : String, commentEnds (spliced (Text.commentText text).toList) = 0 ↔
        ¬ HidesEnd text.toList) ∧
      (commentEnds (spliced (hostLine host).toList) = 1 ↔ ¬ HidesEnd host.text.toList) ∧
      (commentEnds (spliced (Text.unlines
          (Frame.banner ("host " ++ host.text) (config.digest host) style)).toList) =
          style.bannerComments ↔
        (style.banner = true → ¬ HidesEnd host.text.toList)) := by
  have htext (text : String) : commentEnds (spliced (Text.commentText text).toList) = 0 ↔
      ¬ HidesEnd text.toList := by
    rw [Text.toList_commentText]
    exact Text.commentEnds_spliced_escapeEnds_eq_zero_iff text.toList
  refine ⟨fun text => ?_, htext, ?_, ?_⟩
  · rw [Text.toList_commentText]
    exact Text.commentEnds_spliced_escapeEnds text.toList
  · rw [commentEnds_spliced_hostLine, Nat.add_eq_right]
    exact htext host.text
  · by_cases hbanner : style.banner = true
    · -- The banner quotes the host behind a word that hides nothing.
      have hsubject : HidesEnd ("host " ++ host.text).toList ↔ HidesEnd host.text.toList := by
        rw [String.toList_append]
        exact Text.hidesEnd_append_of_star_not_mem (by decide)
      rw [Frame.commentEnds_spliced_banner _ _ hbanner, Style.bannerComments,
        if_pos hbanner, Nat.add_eq_right, htext, hsubject]
      exact (imp_iff_right hbanner).symm
    · simp [Frame.banner, Style.bannerComments, hbanner, Text.unlines, commentEnds, spliced]

/-- A host with a splice between a star and a slash. -/
def splittingHost : Host := ⟨"*\\\n/", '*', by decide, by decide⟩

/-- Escaping leaves that host as it is. After splicing, the comment that names it ends twice, and so
does the banner. -/
theorem host_hiding_end :
    Host.ofText? "*\\\n/" = some splittingHost ∧
      commentEnds (spliced (Text.commentText splittingHost.text).toList) = 1 ∧
      commentEnds (spliced (hostLine splittingHost).toList) = 2 ∧
      commentEnds (spliced (Text.unlines (Frame.banner ("host " ++ splittingHost.text)
        (digest {} splittingHost) {})).toList) = 2 := by
  have htext : commentEnds (spliced (Text.commentText splittingHost.text).toList) = 1 := by decide
  have hsubject : commentEnds (spliced
      (Text.commentText ("host " ++ splittingHost.text)).toList) = 1 := by decide
  refine ⟨Host.ofText?_eq_some_iff.mpr rfl, htext, ?_, ?_⟩
  · rw [commentEnds_spliced_hostLine, htext]
  · rw [Frame.commentEnds_spliced_banner _ _ rfl, hsubject]

end Config

end Boilerplate
