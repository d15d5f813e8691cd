import ImportCensus.Proofs.ImportSet
import ImportCensus.Proofs.Text.Pieces
import ImportCensus.Proofs.Text.Trimming
import ImportCensus.Statement.Scan
/-!
# Symbols read back from their list

No symbol has a comma or a blank at its ends, whatever the text that it comes from.  So the list
of a set of symbols is cut back into its members, and the only two such sets with different
members and the same list are the empty set and the set of the empty symbol.
-/

namespace ImportCensus

namespace ImportSet

variable {s t : ImportSet}

theorem render_eq_nil_iff : s.render = [] ↔ s.members = [] ∨ s.members = [[]] := by
  rw [render]
  match s.members with
  | [] => simp
  | [symbol] => simp [List.intercalate_singleton]
  | first :: second :: symbols => simp [List.intercalate_cons_cons]

theorem splitOn_render (hne : s.members ≠ []) (h : ∀ symbol ∈ s.members, ',' ∉ symbol) :
    Text.splitOn ',' s.render = s.members :=
  Text.splitOn_intercalate hne h

/-- Without commas in the members, only the set of the empty symbol can be taken for another. -/
theorem render_eq_render_iff (hs : ∀ symbol ∈ s.members, ',' ∉ symbol)
    (ht : ∀ symbol ∈ t.members, ',' ∉ symbol) :
    s.render = t.render ↔ s.members = t.members ∨
      (s.members = [] ∧ t.members = [[]]) ∨ (s.members = [[]] ∧ t.members = []) := by
  constructor
  · intro heq
    by_cases hsnil : s.members = []
    · have htnil : t.render = [] := by rw [← heq, render_eq_nil_iff.mpr (Or.inl hsnil)]
      rcases render_eq_nil_iff.mp htnil with htnil | htnil
      · exact Or.inl (hsnil.trans htnil.symm)
      · exact Or.inr (Or.inl ⟨hsnil, htnil⟩)
    by_cases htnil : t.members = []
    · have hrender : s.render = [] := by rw [heq, render_eq_nil_iff.mpr (Or.inl htnil)]
      exact Or.inr (Or.inr ⟨(render_eq_nil_iff.mp hrender).resolve_left hsnil, htnil⟩)
    · rw [← splitOn_render hsnil hs, heq, splitOn_render htnil ht]
      exact Or.inl rfl
  · rintro (heq | ⟨hs, ht⟩ | ⟨hs, ht⟩)
    · rw [render, heq, render]
    · rw [render_eq_nil_iff.mpr (Or.inl hs), render_eq_nil_iff.mpr (Or.inr ht)]
    · rw [render_eq_nil_iff.mpr (Or.inr hs), render_eq_nil_iff.mpr (Or.inl ht)]

theorem mem_render_ofList_iff {xs : List Text} {c : Char} (hc : c ≠ ',') :
    c ∈ (ofList xs).render ↔ ∃ x ∈ xs, c ∈ x := by
  rw [render, Text.mem_intercalate_singleton_iff hc, members_ofList]
  simp only [List.mem_eraseDups]

end ImportSet

namespace Statement

def importSet (package : PackageFilter) (texts : List Text) : ImportSet :=
  ImportSet.ofList (texts.flatMap (imports package))

section Symbols

variable {fragment : Fragment} {symbol : Text} {package : PackageFilter} {texts : List Text}

theorem mem_symbols_iff :
    symbol ∈ fragment.symbols ↔
      ∃ part ∈ Text.splitOn ',' fragment.symbolList, Text.trim Text.isBlank part = symbol :=
  List.mem_map

theorem isInfix_of_mem_symbols (h : symbol ∈ fragment.symbols) :
    symbol <:+: fragment.symbolList := by
  obtain ⟨part, hpart, rfl⟩ := mem_symbols_iff.mp h
  exact Text.trim_isInfix.trans (Text.isInfix_of_mem_splitOn hpart)

theorem of_mem_symbols (h : symbol ∈ fragment.symbols) :
    ',' ∉ symbol ∧ (∀ c ∈ symbol.head?, Text.isBlank c = false) ∧
      ∀ c ∈ symbol.getLast?, Text.isBlank c = false := by
  obtain ⟨part, hpart, rfl⟩ := mem_symbols_iff.mp h
  refine ⟨fun hcomma => ?_, Text.head?_trim, Text.getLast?_trim⟩
  exact Text.not_mem_of_mem_splitOn hpart (Text.trim_isInfix.subset hcomma)

theorem mem_importSet_iff :
    symbol ∈ (importSet package texts).members ↔ ∃ text ∈ texts, symbol ∈ imports package text := by
  rw [importSet, ImportSet.members_ofList, List.mem_eraseDups, List.mem_flatMap]

theorem of_mem_importSet (h : symbol ∈ (importSet package texts).members) :
    ',' ∉ symbol ∧ (∀ c ∈ symbol.head?, Text.isBlank c = false) ∧
      ∀ c ∈ symbol.getLast?, Text.isBlank c = false := by
  obtain ⟨text, -, himports⟩ := mem_importSet_iff.mp h
  obtain ⟨fragment, -, hsymbol⟩ := List.mem_flatMap.mp himports
  exact of_mem_symbols hsymbol

end Symbols

/-- The members of a set of imported symbols have no comma and no blank at their ends, and unless
the set is empty they are the parts between the commas of its list.  Two such sets with one list
have the same members in the same order, but for the empty set and the set of the empty symbol,
of which both lists are empty. -/
theorem render_decodable (package package' : PackageFilter) (texts texts' : List Text) :
    (∀ symbol ∈ (importSet package texts).members,
      ',' ∉ symbol ∧ (∀ c ∈ symbol.head?, Text.isBlank c = false) ∧
        ∀ c ∈ symbol.getLast?, Text.isBlank c = false) ∧
    ((importSet package texts).isEmpty = false →
      Text.splitOn ',' (importSet package texts).render = (importSet package texts).members) ∧
    ((importSet package texts).render = [] ↔
      (importSet package texts).members = [] ∨ (importSet package texts).members = [[]]) ∧
    ((importSet package texts).render = (importSet package' texts').render ↔
      (importSet package texts).members = (importSet package' texts').members ∨
        ((importSet package texts).members = [] ∧ (importSet package' texts').members = [[]]) ∨
        ((importSet package texts).members = [[]] ∧ (importSet package' texts').members = [])) := by
  have hcomma : ∀ symbol ∈ (importSet package texts).members, ',' ∉ symbol :=
    fun _ hsymbol => (of_mem_importSet hsymbol).1
  have hcomma' : ∀ symbol ∈ (importSet package' texts').members, ',' ∉ symbol :=
    fun _ hsymbol => (of_mem_importSet hsymbol).1
  refine ⟨fun _ hsymbol => of_mem_importSet hsymbol, fun hne => ?_, ImportSet.render_eq_nil_iff,
    ImportSet.render_eq_render_iff hcomma hcomma'⟩
  rw [ImportSet.isEmpty, List.isEmpty_eq_false_iff] at hne
  exact ImportSet.splitOn_render hne hcomma

/-- A re-export gives an empty symbol, and its list cannot be told from that of no text. -/
example : (importSet none ["export \x7ba\x7d from 'x'"]).members = [[]] := by
  decide

end Statement

end ImportCensus
