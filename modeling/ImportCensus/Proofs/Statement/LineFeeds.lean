import ImportCensus.Proofs.Statement.Decoding
import ImportCensus.Proofs.Statement.LeftmostLongest
import ImportCensus.Proofs.Statement.Sources
/-!
# Line feeds in symbols

A clause stays on its line, so a symbol can have a line feed only if it comes from gathered text,
and that has one only if its text mixes line ends.
-/

namespace ImportCensus.Statement

/-- A line feed stands between two characters of one symbol of the text. -/
def BreaksSymbol (text : Text) : Prop :=
  ∃ s, s <:+: text ∧ '\n' ∈ s ∧ ',' ∉ s ∧ (∀ c ∈ s.head?, Text.isBlank c = false) ∧
    ∀ c ∈ s.getLast?, Text.isBlank c = false

section Symbols

variable {symbol text line : Text}

theorem lineFeed_not_mem_of_mem_symbols_captured (h : symbol ∈ (Fragment.captured line).symbols) :
    '\n' ∉ symbol := by
  intro hmem
  have honLine := symbolList_onLine line '\n' ((isInfix_of_mem_symbols h).subset hmem)
  cases honLine

theorem exists_lineFeed_mem_symbols_raw_iff :
    (∃ symbol ∈ (Fragment.raw text).symbols, '\n' ∈ symbol) ↔ BreaksSymbol text := by
  constructor
  · rintro ⟨symbol, hsymbol, hmem⟩
    obtain ⟨hcomma, hfirst, hlast⟩ := of_mem_symbols hsymbol
    exact ⟨symbol, isInfix_of_mem_symbols hsymbol, hmem, hcomma, hfirst, hlast⟩
  · rintro ⟨s, hin, hmem, hcomma, hfirst, hlast⟩
    obtain ⟨part, hpart, hs⟩ := (Text.exists_mem_splitOn_iff hcomma).mpr hin
    refine ⟨Text.trim Text.isBlank part, mem_symbols_iff.mpr ⟨part, hpart, rfl⟩, ?_⟩
    exact (Text.isInfix_trim hs hfirst hlast).subset hmem

end Symbols

section Texts

variable {package : PackageFilter} {text t : Text} {texts : List Text}

theorem exists_lineFeed_mem_imports_iff :
    (∃ symbol ∈ imports package text, '\n' ∈ symbol) ↔
      ∃ t, Fragment.raw t ∈ fragments package text ∧ BreaksSymbol t := by
  simp only [imports, List.mem_flatMap]
  constructor
  · rintro ⟨symbol, ⟨fragment, hfragment, hsymbol⟩, hmem⟩
    cases fragment with
    | captured line => exact absurd hmem (lineFeed_not_mem_of_mem_symbols_captured hsymbol)
    | raw t =>
      exact ⟨t, hfragment, exists_lineFeed_mem_symbols_raw_iff.mp ⟨symbol, hsymbol, hmem⟩⟩
  · rintro ⟨t, hfragment, hbreaks⟩
    obtain ⟨symbol, hsymbol, hmem⟩ := exists_lineFeed_mem_symbols_raw_iff.mpr hbreaks
    exact ⟨symbol, ⟨_, hfragment, hsymbol⟩, hmem⟩

/-- The list of imported symbols has a line feed exactly if one of the texts has gathered text with
a line feed within a symbol. -/
theorem lineFeed_mem_render_importSet_iff :
    '\n' ∈ (importSet package texts).render ↔
      ∃ text ∈ texts, ∃ t, Fragment.raw t ∈ fragments package text ∧ BreaksSymbol t := by
  rw [importSet, ImportSet.mem_render_ofList_iff (by decide)]
  simp only [← exists_lineFeed_mem_imports_iff, List.mem_flatMap]
  constructor
  · rintro ⟨symbol, ⟨text, htext, hsymbol⟩, hmem⟩
    exact ⟨text, htext, symbol, hsymbol, hmem⟩
  · rintro ⟨text, htext, symbol, hsymbol, hmem⟩
    exact ⟨symbol, ⟨text, htext, hsymbol⟩, hmem⟩

theorem mixesLineEnds_of_breaksSymbol (hfragment : Fragment.raw t ∈ fragments package text)
    (h : BreaksSymbol t) : Text.MixesLineEnds text := by
  obtain ⟨s, hin, hmem, -⟩ := h
  rw [← Text.exists_lineFeed_mem_lines_iff]
  exact exists_mem_lines_of_mem_text hfragment (hin.subset hmem)

end Texts

end ImportCensus.Statement
