import ImportCensus.Proofs.Text.Lines
import ImportCensus.Statement.Fragment
/-!
# Symbols between commas

A plain symbol is one that nothing of a clause's notation can be mistaken for.  Plain symbols
with a comma and a space between them are read back one by one.
-/

namespace ImportCensus

namespace Text

variable {p : Char → Bool} {text : Text}

theorem dropWhile_eq_self (h : ∀ c ∈ text.head?, p c = false) : text.dropWhile p = text := by
  cases text with
  | nil => rfl
  | cons c rest => simp [h c rfl]

theorem trim_eq_self (hfirst : ∀ c ∈ text.head?, p c = false)
    (hlast : ∀ c ∈ text.getLast?, p c = false) : trim p text = text := by
  rw [trim, dropWhile_eq_self hfirst, dropWhile_eq_self, List.reverse_reverse]
  rwa [List.head?_reverse]

theorem trim_cons {c : Char} (h : p c = true) : trim p (c :: text) = trim p text := by
  rw [trim, List.dropWhile_cons_of_pos h, trim]

theorem map_trim_splitOn_cons {sep c : Char} (hc : p c = true) (hne : c ≠ sep) :
    (splitOn sep (c :: text)).map (trim p) = (splitOn sep text).map (trim p) := by
  cases hs : splitOn sep text with
  | nil => exact absurd hs (splitOn_ne_nil text)
  | cons part parts =>
    rw [splitOn_cons_of_ne hne hs, List.map_cons, trim_cons hc, List.map_cons]

end Text

namespace Statement

/-- A symbol that is read as it is written. -/
structure IsPlain (symbol : Text) : Prop where
  inner : ∀ c ∈ symbol, c ≠ ',' ∧ c ≠ '{' ∧ c ≠ '}' ∧ Text.isLineEnd c = false
  first : ∀ c ∈ symbol.head?, Text.isBlank c = false
  last : ∀ c ∈ symbol.getLast?, Text.isBlank c = false

theorem IsPlain.trim {symbol : Text} (h : IsPlain symbol) :
    Text.trim Text.isBlank symbol = symbol :=
  Text.trim_eq_self h.first h.last

theorem IsPlain.comma_not_mem {symbol : Text} (h : IsPlain symbol) : ',' ∉ symbol :=
  fun hm => (h.inner _ hm).1 rfl

def listed (symbols : List Text) : Text :=
  [',', ' '].intercalate symbols

theorem listed_cons_cons (s t : Text) (symbols : List Text) :
    listed (s :: t :: symbols) = s ++ ',' :: ' ' :: listed (t :: symbols) := by
  simp [listed]

theorem symbols_listed {symbols : List Text} (hne : symbols ≠ [])
    (h : ∀ s ∈ symbols, IsPlain s) :
    (Text.splitOn ',' (listed symbols)).map (Text.trim Text.isBlank) = symbols := by
  induction symbols with
  | nil => exact absurd rfl hne
  | cons s symbols ih =>
    have hs := h s (by simp)
    cases symbols with
    | nil =>
      rw [listed, List.intercalate_singleton, Text.splitOn_of_not_mem hs.comma_not_mem,
        List.map_singleton, hs.trim]
    | cons t symbols =>
      have hrest := ih (by simp) fun u hu => h u (List.mem_cons_of_mem _ hu)
      rw [listed_cons_cons, Text.splitOn_append_cons hs.comma_not_mem, List.map_cons, hs.trim,
        Text.map_trim_splitOn_cons (by decide) (by decide), hrest]

theorem inner_listed {symbols : List Text} (h : ∀ s ∈ symbols, IsPlain s) :
    ∀ c ∈ listed symbols, c ≠ '{' ∧ c ≠ '}' ∧ Text.isLineEnd c = false := by
  intro c hc
  rcases Text.mem_intercalate hc with hc | ⟨s, hs, hc⟩
  · have hsep : ∀ d ∈ [',', ' '], d ≠ '{' ∧ d ≠ '}' ∧ Text.isLineEnd d = false := by
      simp [Text.isLineEnd]
    exact hsep c hc
  · exact ((h s hs).inner c hc).2

end Statement

end ImportCensus
