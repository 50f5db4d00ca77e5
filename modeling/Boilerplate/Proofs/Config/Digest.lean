import Boilerplate.Config.Header
import Boilerplate.Proofs.Config
import Boilerplate.Proofs.Joined

/-!
# What the digest of a configuration pins

The digest of a configuration header is taken over one text: the host on a line of its own, and
then a line for each symbol. The lines of the symbols can be read back, since identifiers hold
neither line feeds nor equals signs. A host, however, is any text that is not blank, and may hold
line feeds. So a host can go on with lines that look like those of symbols, and then the text does
not say where the host ends.

This is the only way in which two inputs share a text. In particular the text pins the host and
the configuration as long as hosts are single lines.

## Main definitions

* `Config.Absorbs` — whether a host is another one followed by the first lines of a configuration

## Main results

* `Config.digestInput_eq_iff` — which inputs share a text
* `Config.host_and_config_pinned_iff` — the same for results of evaluation, and single lines
* `Config.digestInput_shared` — two inputs that share a text
-/

namespace Boilerplate.Config

/-- The line of an entry in the canonical text, without its line feed. -/
def entryText (entry : String × Bool) : String :=
  entry.1 ++ "=" ++ (if entry.2 then "1" else "0")

/-- Whether the second host is the first one, followed by the lines that the first configuration
starts with and the second one lacks. -/
def Absorbs (host : Host) (config : Config) (host' : Host) (config' : Config) : Prop :=
  ∃ front, front ≠ [] ∧ config.entries = front ++ config'.entries ∧
    host'.text = host.text ++ String.join (front.map fun entry => "\n" ++ entryText entry)

variable {entry other : String × Bool} {entries others front : List (String × Bool)}
  {host host' : Host} {config config' : Config}

/-! ### Single lines -/

theorem toList_entryText (entry : String × Bool) :
    (entryText entry).toList = entry.1.toList ++ '=' :: [if entry.2 then '1' else '0'] := by
  cases hvalue : entry.2 <;> simp [entryText, hvalue]

theorem lineFeed_not_mem_entryText (h : Identifier.fault? entry.1 = none) :
    '\n' ∉ (entryText entry).toList := by
  have hname : '\n' ∉ entry.1.toList := Identifier.not_mem_of_not_isPart h rfl
  cases hvalue : entry.2 <;> simp [toList_entryText, hname, hvalue]

/-- The line of an entry gives back its symbol and its value. -/
theorem entryText_inj (h : Identifier.fault? entry.1 = none)
    (hother : Identifier.fault? other.1 = none) (heq : entryText entry = entryText other) :
    entry = other := by
  rw [← String.toList_inj, toList_entryText, toList_entryText,
    append_cons_inj (Identifier.not_mem_of_not_isPart h rfl)
      (Identifier.not_mem_of_not_isPart hother rfl), String.toList_inj] at heq
  obtain ⟨hsymbol, hdigit⟩ := heq
  have hvalue : entry.2 = other.2 := by
    cases hentry : entry.2 <;> cases hother : other.2 <;> simp_all
  exact Prod.ext hsymbol hvalue

/-! ### The lines behind a host -/

/-- Entries as they stand behind a host, each on a new line. -/
def newLines (entries : List (String × Bool)) : List Char :=
  entries.flatMap fun entry => '\n' :: (entryText entry).toList

theorem newLines_concat (entries : List (String × Bool)) (entry : String × Bool) :
    newLines (entries ++ [entry]) = newLines entries ++ '\n' :: (entryText entry).toList := by
  simp [newLines]

theorem toList_join_newLines (entries : List (String × Bool)) :
    (String.join (entries.map fun entry => "\n" ++ entryText entry)).toList = newLines entries := by
  simp [newLines, List.flatMap_map]

theorem lineFeed_mem_newLines (h : entries ≠ []) : '\n' ∈ newLines entries := by
  obtain ⟨entry, rest, rfl⟩ := List.exists_cons_of_ne_nil h
  simp [newLines]

/-- A line feed may be counted to the line after it instead of the line before it. -/
theorem lineFeed_cons_canonical (entries : List (String × Bool)) :
    '\n' :: (canonical ⟨entries⟩).toList = newLines entries ++ ['\n'] := by
  induction entries with
  | nil => rfl
  | cons entry rest ih =>
    have hline : (canonicalLine entry).toList = (entryText entry).toList ++ ['\n'] := by
      simp [canonicalLine, entryText]
    have hrest : (canonical ⟨entry :: rest⟩).toList =
        (entryText entry).toList ++ '\n' :: (canonical ⟨rest⟩).toList := by
      simp [canonical, hline]
    rw [hrest, ih]
    simp [newLines]

theorem toList_digestInput (config : Config) (host : Host) :
    (config.digestInput host).toList =
      "host=".toList ++ (host.text.toList ++ newLines config.entries ++ ['\n']) := by
  rw [List.append_assoc, ← lineFeed_cons_canonical]
  simp [digestInput]

/-- If two texts agree that go on with the lines of entries, one list of entries ends with the
other, and the text in front of the shorter list has taken the lines that it lacks. -/
theorem exists_front_of_append_newLines {s t : List Char}
    (hentries : ∀ entry ∈ entries, Identifier.fault? entry.1 = none)
    (hothers : ∀ entry ∈ others, Identifier.fault? entry.1 = none)
    (h : s ++ newLines entries = t ++ newLines others) :
    (∃ front, entries = front ++ others ∧ t = s ++ newLines front) ∨
      ∃ front, others = front ++ entries ∧ s = t ++ newLines front := by
  -- The texts are compared from their ends, one line of each list at a time.
  induction entries using List.reverseRecOn generalizing others with
  | nil => exact .inr ⟨others, (List.append_nil others).symm, by simpa [newLines] using h⟩
  | append_singleton entries entry ih =>
    rcases List.eq_nil_or_concat others with rfl | ⟨others, other, rfl⟩
    · exact .inl ⟨entries ++ [entry], (List.append_nil _).symm, by simpa [newLines] using h.symm⟩
    · rw [List.concat_eq_append] at hothers h ⊢
      have hentry := hentries entry (by simp)
      have hother := hothers other (by simp)
      rw [newLines_concat, newLines_concat, ← List.append_assoc, ← List.append_assoc,
        append_cons_inj_last (lineFeed_not_mem_entryText hentry)
          (lineFeed_not_mem_entryText hother), String.toList_inj] at h
      obtain ⟨hfront, hlast⟩ := h
      obtain rfl : entry = other := entryText_inj hentry hother hlast
      have hshorter := ih (fun e he => hentries e (List.mem_append_left _ he))
        (fun e he => hothers e (List.mem_append_left _ he)) hfront
      -- Both lists end with the same entry, which leaves the front of the longer one as it was.
      rcases hshorter with ⟨front, rfl, ht⟩ | ⟨front, rfl, hs⟩
      · exact .inl ⟨front, List.append_assoc _ _ _, ht⟩
      · exact .inr ⟨front, List.append_assoc _ _ _, hs⟩

/-! ### Hosts and configurations -/

theorem Absorbs.append_newLines (h : Absorbs host config host' config') :
    host.text.toList ++ newLines config.entries =
      host'.text.toList ++ newLines config'.entries := by
  obtain ⟨front, -, hentries, htext⟩ := h
  rw [hentries, htext, String.toList_append, toList_join_newLines]
  simp [newLines]

/-- A host that has taken lines of a configuration is not a single line. -/
theorem Absorbs.lineFeed_mem (h : Absorbs host config host' config') :
    '\n' ∈ host'.text.toList := by
  obtain ⟨front, hfront, -, htext⟩ := h
  rw [htext, String.toList_append, toList_join_newLines]
  exact List.mem_append_right _ (lineFeed_mem_newLines hfront)

theorem Absorbs.config_ne (h : Absorbs host config host' config') : config ≠ config' := by
  rintro rfl
  obtain ⟨front, hfront, hentries, -⟩ := h
  exact hfront (List.self_eq_append_left.mp hentries)

/-- Lines that may be none at all: either the two inputs agree, or the second host has taken lines
of the first configuration. -/
theorem eq_or_absorbs (hentries : config.entries = front ++ config'.entries)
    (htext : host'.text.toList = host.text.toList ++ newLines front) :
    (host = host' ∧ config = config') ∨ Absorbs host config host' config' := by
  by_cases hfront : front = []
  · subst hfront
    have hhost : host'.text = host.text := by simpa [newLines, String.toList_inj] using htext
    have hconfig : config.entries = config'.entries := by simpa using hentries
    cases host; cases host'; cases config; cases config'
    exact .inl ⟨by simp_all, by simp_all⟩
  · refine .inr ⟨front, hfront, hentries, ?_⟩
    rw [← String.toList_inj, String.toList_append, toList_join_newLines, htext]

/-- Two inputs whose symbols are identifiers share their text exactly if they agree or one host has
taken lines of the configuration of the other. -/
theorem digestInput_eq_iff
    (hconfig : ∀ entry ∈ config.entries, Identifier.fault? entry.1 = none)
    (hconfig' : ∀ entry ∈ config'.entries, Identifier.fault? entry.1 = none) :
    config.digestInput host = config'.digestInput host' ↔
      (host = host' ∧ config = config') ∨ Absorbs host config host' config' ∨
        Absorbs host' config' host config := by
  rw [← String.toList_inj, toList_digestInput, toList_digestInput, List.append_right_inj,
    List.append_left_inj]
  constructor
  · intro h
    rcases exists_front_of_append_newLines hconfig hconfig' h with
      ⟨front, hentries, htext⟩ | ⟨front, hentries, htext⟩
    · exact (eq_or_absorbs hentries htext).imp_right .inl
    · exact (eq_or_absorbs hentries htext).imp (fun ⟨hh, hc⟩ => ⟨hh.symm, hc.symm⟩) .inr
  · rintro (⟨rfl, rfl⟩ | h | h)
    · rfl
    · exact h.append_newLines
    · exact h.append_newLines.symm

/-- The text under the digest pins the hosts and the results of two inputs exactly if neither host
has taken lines of the result of the other. Hosts that are single lines take none, so among them
the text always pins both. -/
theorem host_and_config_pinned_iff (hconfig : config.IsResult) (hconfig' : config'.IsResult) :
    ((config.digestInput host = config'.digestInput host' → host = host' ∧ config = config') ↔
      ¬ Absorbs host config host' config' ∧ ¬ Absorbs host' config' host config) ∧
    ('\n' ∉ host.text.toList → '\n' ∉ host'.text.toList →
      config.digestInput host = config'.digestInput host' → host = host' ∧ config = config') := by
  have hshared : config.digestInput host = config'.digestInput host' ↔
      (host = host' ∧ config = config') ∨ Absorbs host config host' config' ∨
        Absorbs host' config' host config :=
    digestInput_eq_iff hconfig.fault?_of_mem_entries hconfig'.fault?_of_mem_entries
  constructor
  · constructor
    · -- Inputs that share their text by way of a host have different configurations.
      intro hpinned
      constructor
      · intro habsorbs
        exact habsorbs.config_ne (hpinned (hshared.mpr (.inr (.inl habsorbs)))).2
      · intro habsorbs
        exact habsorbs.config_ne (hpinned (hshared.mpr (.inr (.inr habsorbs)))).2.symm
    · intro ⟨hleft, hright⟩ heq
      rcases hshared.mp heq with hsame | habsorbs | habsorbs
      · exact hsame
      · exact absurd habsorbs hleft
      · exact absurd habsorbs hright
  · intro hline hline' heq
    rcases hshared.mp heq with hsame | habsorbs | habsorbs
    · exact hsame
    · exact absurd habsorbs.lineFeed_mem hline'
    · exact absurd habsorbs.lineFeed_mem hline

/-- The plain host, with a second line that looks like that of a symbol. -/
def longHost : Host := ⟨"a\nFOO=1", 'a', by decide, by decide⟩

theorem isResult_foo : IsResult ⟨[("FOO", true)]⟩ :=
  ⟨"a", [⟨"FOO", .host "*"⟩], {}, by decide⟩

theorem isResult_empty : IsResult {} := ⟨"a", [], {}, by decide⟩

/-- The two hosts above are not pinned, since the second one has taken the line of the symbol. -/
theorem host_and_config_pinned_iff_at_longHost :
    IsResult ⟨[("FOO", true)]⟩ ∧ IsResult {} ∧
      ((digestInput ⟨[("FOO", true)]⟩ plainHost = digestInput {} longHost →
          plainHost = longHost ∧ (⟨[("FOO", true)]⟩ : Config) = {}) ↔
        ¬ Absorbs plainHost ⟨[("FOO", true)]⟩ longHost {} ∧
          ¬ Absorbs longHost {} plainHost ⟨[("FOO", true)]⟩) :=
  ⟨isResult_foo, isResult_empty, (host_and_config_pinned_iff isResult_foo isResult_empty).1⟩

/-- The host that took the line of the symbol, with no symbols, shares its text with the host that
did not. Their headers then show the same digest. -/
theorem digestInput_shared :
    IsResult ⟨[("FOO", true)]⟩ ∧ IsResult {} ∧
      digestInput ⟨[("FOO", true)]⟩ plainHost = digestInput {} longHost ∧
      plainHost ≠ longHost ∧ (⟨[("FOO", true)]⟩ : Config) ≠ {} :=
  ⟨isResult_foo, isResult_empty, by decide +kernel, by decide, by decide⟩

end Boilerplate.Config
