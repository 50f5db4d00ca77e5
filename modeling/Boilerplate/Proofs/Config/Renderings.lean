import Boilerplate.Proofs.Config.Digest
import Boilerplate.Proofs.Config.Json
import Boilerplate.Proofs.Text.Lines
import Mathlib.Tactic.TFAE

/-!
# What the renderings of a configuration keep

A configuration is written in three ways: as a JSON object, as canonical lines, and as a header.
Each of them tells configurations apart. The JSON text is read back into the entries. The canonical
lines and the lines of a header are read back one by one, since identifiers hold neither line feeds
nor the signs that stand around them. The banner of a header shows a digest of the configuration,
and so may differ as well, but it takes the same room for all of them.

## Main results

* `Config.entries_eq_of_unlines` — lines that tell entries apart tell configurations apart
* `Config.entries_eq_of_header` — headers tell configurations apart
* `Config.renderings_tfae` — the three renderings agree exactly when the entries do
-/

namespace Boilerplate

/-! ### The banner -/

theorem Digest.length_short (d : Digest) : d.short.toList.length = 12 := by
  rw [short, String.toList_ofList, List.length_take, length_hexDigits]
  rfl

/-- The banner of a subject has one length, whatever the digest is. -/
theorem Frame.length_banner (subject : String) (d d' : Digest) (style : Style) :
    (Text.unlines (banner subject d style)).toList.length =
      (Text.unlines (banner subject d' style)).toList.length := by
  by_cases hbanner : style.banner = true
  · -- The digest stands in one line, and takes twelve digits of it.
    simp [banner, hbanner, Text.toList_unlines, Digest.length_short]
  · simp [banner, hbanner]

namespace Config

open Text (unlines)

variable {config config' : Config} {host : Host} {style : Style} {entry other : String × Bool}
  {entries others : List (String × Bool)} {line : String × Bool → String}

/-! ### Lines -/

/-- If each entry has a line of its own, the lines of a configuration determine its entries. -/
theorem entries_eq_of_unlines
    (hline : ∀ e : String × Bool, Identifier.fault? e.1 = none → '\n' ∉ (line e).toList)
    (hinj : ∀ e e' : String × Bool, Identifier.fault? e.1 = none → Identifier.fault? e'.1 = none →
      line e = line e' → e = e')
    (hentries : ∀ e ∈ entries, Identifier.fault? e.1 = none)
    (hothers : ∀ e ∈ others, Identifier.fault? e.1 = none)
    (h : unlines (entries.map line) = unlines (others.map line)) : entries = others := by
  have hlines : entries.map line = others.map line := by
    refine (Text.unlines_inj ?_ ?_).mp h
    · exact List.forall_mem_map.mpr fun e he => hline e (hentries e he)
    · exact List.forall_mem_map.mpr fun e he => hline e (hothers e he)
  have hsame : entries.map id = others.map id := by
    refine map_eq_map_of_map_eq_map ?_ hlines
    intro e he e' he' heq
    exact hinj e e' (hentries e he) (hothers e' he') heq
  simpa using hsame

theorem canonical_eq_unlines (config : Config) :
    config.canonical = unlines (config.entries.map entryText) := by
  rw [canonical, unlines, List.map_map]
  rfl

/-- The line of an identifier in a header is one line. -/
theorem lineFeed_not_mem_symbolLine (h : Identifier.fault? entry.1 = none) :
    '\n' ∉ (symbolLine style entry).toList := by
  have hname : '\n' ∉ entry.1.toList := Identifier.not_mem_of_not_isPart h rfl
  cases hvalue : entry.2 <;> cases hnegatives : style.negatives <;>
    simp [symbolLine, hvalue, hnegatives, hname]

/-- The line of an entry in a header gives back its symbol and its value. -/
theorem symbolLine_inj (h : Identifier.fault? entry.1 = none)
    (hother : Identifier.fault? other.1 = none)
    (heq : symbolLine style entry = symbolLine style other) : entry = other := by
  -- Behind the mark of its line, a symbol goes on to the first blank.
  have hcut {as bs : List Char} :
      entry.1.toList ++ ' ' :: as = other.1.toList ++ ' ' :: bs ↔ entry.1 = other.1 ∧ as = bs := by
    rw [append_cons_inj (Identifier.not_mem_of_not_isPart h rfl)
      (Identifier.not_mem_of_not_isPart hother rfl), String.toList_inj]
  obtain ⟨name, value⟩ := entry
  obtain ⟨name', value'⟩ := other
  rw [← String.toList_inj] at heq
  -- Lines of different values differ in their marks, or else behind the symbol.
  cases value <;> cases value' <;> cases hnegatives : style.negatives <;>
    simp_all [symbolLine]

/-! ### Texts -/

/-- In a header, the lines of the symbols stand between others that do not depend on them. -/
theorem headerLines_eq (config : Config) (host : Host) (style : Style) :
    config.headerLines host style =
      Frame.banner ("host " ++ host.text) (config.digest host) style ++
        (["#ifndef " ++ Frame.includeGuard headerName style,
          "#define " ++ Frame.includeGuard headerName style, "", hostLine host] ++
          (config.entries.map (symbolLine style) ++
            ["", "#endif /* " ++ Frame.includeGuard headerName style ++ " */"])) := by
  simp [headerLines, Frame.guarded]

/-- The lines of the symbols are found in the text of a header again, since what stands before them
has one length. -/
theorem unlines_symbolLines_eq (h : config.header host style = config'.header host style) :
    unlines (config.entries.map (symbolLine style)) =
      unlines (config'.entries.map (symbolLine style)) := by
  let guardName : String := Frame.includeGuard headerName style
  have htext (c : Config) : (c.header host style).toList =
      (unlines (Frame.banner ("host " ++ host.text) (c.digest host) style)).toList ++
        ((unlines ["#ifndef " ++ guardName, "#define " ++ guardName, "", hostLine host]).toList ++
          ((unlines (c.entries.map (symbolLine style))).toList ++
            (unlines ["", "#endif /* " ++ guardName ++ " */"]).toList)) := by
    simp only [header, headerLines_eq, Text.unlines_append, String.toList_append, guardName]
  -- The digests may differ, but the banners are as long as each other and can be cut off.
  rw [← String.toList_inj, htext, htext] at h
  have hbehind := List.append_inj_right h (Frame.length_banner _ _ _ _)
  rw [List.append_right_inj, List.append_left_inj, String.toList_inj] at hbehind
  exact hbehind

theorem entries_eq_of_header (hconfig : ∀ e ∈ config.entries, Identifier.fault? e.1 = none)
    (hconfig' : ∀ e ∈ config'.entries, Identifier.fault? e.1 = none)
    (h : config.header host style = config'.header host style) :
    config.entries = config'.entries :=
  entries_eq_of_unlines (fun _ he => lineFeed_not_mem_symbolLine he)
    (fun _ _ he he' => symbolLine_inj he he') hconfig hconfig' (unlines_symbolLines_eq h)

theorem entries_eq_of_canonical (hconfig : ∀ e ∈ config.entries, Identifier.fault? e.1 = none)
    (hconfig' : ∀ e ∈ config'.entries, Identifier.fault? e.1 = none)
    (h : config.canonical = config'.canonical) : config.entries = config'.entries := by
  rw [canonical_eq_unlines, canonical_eq_unlines] at h
  exact entries_eq_of_unlines (fun _ he => lineFeed_not_mem_entryText he)
    (fun _ _ he he' => entryText_inj he he') hconfig hconfig' h

theorem entries_eq_of_json (hconfig : ∀ e ∈ config.entries, Identifier.fault? e.1 = none)
    (hconfig' : ∀ e ∈ config'.entries, Identifier.fault? e.1 = none)
    (h : config.json = config'.json) : config.entries = config'.entries := by
  apply Option.some.inj
  rw [← object?_json hconfig, ← object?_json hconfig', h]

/-- The renderings of two results agree exactly if the results have the same entries in the same
order: the JSON texts, the canonical texts, and the headers for one host in one style. The JSON text
of a result is an object whose keys are the symbols of the probes, each once and in their order,
with the values of the entries. -/
theorem renderings_tfae {text text' : String} {probes probes' : List Probe}
    {available available' : Availability} (heval : evaluate text probes available = .ok config)
    (heval' : evaluate text' probes' available' = .ok config') (host : Host) (style : Style) :
    List.TFAE [config.entries = config'.entries,
      config.json = config'.json,
      config.canonical = config'.canonical,
      config.header host style = config'.header host style] ∧
    Json.object? config.json = some config.entries ∧
      config.symbols = probes.map Probe.symbol ∧ config.symbols.Nodup := by
  have hresult : config.IsResult := ⟨text, probes, available, heval⟩
  have hresult' : config'.IsResult := ⟨text', probes', available', heval'⟩
  have hconfig : ∀ e ∈ config.entries, Identifier.fault? e.1 = none :=
    hresult.fault?_of_mem_entries
  have hconfig' : ∀ e ∈ config'.entries, Identifier.fault? e.1 = none :=
    hresult'.fault?_of_mem_entries
  refine ⟨?_, object?_json hconfig, ?_, hresult.nodup_symbols⟩
  · -- A configuration is its entries, so all texts follow from them, and each leads back to them.
    have hsame : config.entries = config'.entries → config = config' := by
      intro h
      rwa [Config.mk.injEq]
    tfae_have 1 → 2 := fun h => by rw [hsame h]
    tfae_have 1 → 3 := fun h => by rw [hsame h]
    tfae_have 1 → 4 := fun h => by rw [hsame h]
    tfae_have 2 → 1 := entries_eq_of_json hconfig hconfig'
    tfae_have 3 → 1 := entries_eq_of_canonical hconfig hconfig'
    tfae_have 4 → 1 := entries_eq_of_header hconfig hconfig'
    tfae_finish
  · obtain ⟨-, -, -, -, hentries⟩ := evaluate_eq_ok_iff.mp heval
    rw [symbols, hentries, List.map_map]
    rfl

/-- The renderings of two results whose only symbol has different values. -/
theorem renderings_tfae_at_foo :
    evaluate "a" [⟨"FOO", .host "*"⟩] {} = .ok ⟨[("FOO", true)]⟩ ∧
      evaluate "a" [⟨"FOO", .host "b"⟩] {} = .ok ⟨[("FOO", false)]⟩ ∧
      List.TFAE [[("FOO", true)] = [("FOO", false)],
        json ⟨[("FOO", true)]⟩ = json ⟨[("FOO", false)]⟩,
        canonical ⟨[("FOO", true)]⟩ = canonical ⟨[("FOO", false)]⟩,
        header ⟨[("FOO", true)]⟩ plainHost {} = header ⟨[("FOO", false)]⟩ plainHost {}] ∧
      Json.object? (json ⟨[("FOO", true)]⟩) = some [("FOO", true)] ∧
        symbols ⟨[("FOO", true)]⟩ = ["FOO"] ∧ (symbols ⟨[("FOO", true)]⟩).Nodup := by
  have heval : evaluate "a" [⟨"FOO", .host "*"⟩] {} = .ok ⟨[("FOO", true)]⟩ := by decide +kernel
  have heval' : evaluate "a" [⟨"FOO", .host "b"⟩] {} = .ok ⟨[("FOO", false)]⟩ := by decide +kernel
  exact ⟨heval, heval', renderings_tfae heval heval' plainHost {}⟩

end Config

end Boilerplate
