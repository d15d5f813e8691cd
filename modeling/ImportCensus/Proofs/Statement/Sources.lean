import ImportCensus.Proofs.Statement.Gathering
/-!
# The lines that a fragment comes from

A fragment is put together from whole lines: a line of the wanted package with the keyword from
itself, and gathered text from the held line and the open lines before the line that gives it out.
Nothing else of the text gets into a fragment.
-/

namespace ImportCensus.Statement

def Fragment.text : Fragment → Text
  | captured line => line
  | raw text => text

/-- What the fragment of a line is put together from, when the lines `before` come before it. -/
def sources (package : PackageFilter) (before : List Text) (line : Text) : List Text :=
  if mentionsImport line then [line] else heldText package before :: openLines package before

section Lines

variable {package : PackageFilter} {before : List Text} {line source : Text} {fragment : Fragment}

theorem fragmentAt?_eq_some_iff :
    fragmentAt? package before line = some fragment ↔
      package.admits line = true ∧ fragment =
        if mentionsImport line then .captured line
          else .raw (heldText package before ++ (openLines package before).flatten) := by
  rw [fragmentAt?]
  by_cases h : package.admits line = true
  · rw [if_pos h, Option.some.injEq, and_iff_right h, eq_comm]
  · rw [if_neg h]
    simp [h]

theorem admits_of_fragmentAt? (h : fragmentAt? package before line = some fragment) :
    package.admits line = true :=
  (fragmentAt?_eq_some_iff.mp h).1

theorem text_of_fragmentAt? (h : fragmentAt? package before line = some fragment) :
    fragment.text = (sources package before line).flatten := by
  obtain ⟨-, rfl⟩ := fragmentAt?_eq_some_iff.mp h
  unfold sources
  split
  · simp [Fragment.text]
  · rfl

theorem exists_fragmentAt? (h : package.admits line = true) :
    ∃ fragment, fragmentAt? package before line = some fragment :=
  ⟨_, fragmentAt?_eq_some_iff.mpr ⟨h, rfl⟩⟩

theorem heldText_eq_nil_or_mem :
    heldText package before = [] ∨ heldText package before ∈ before := by
  by_cases hk : ∃ k, IsHeld package before k
  · obtain ⟨k, hk⟩ := hk
    obtain ⟨held, hheld, -⟩ := lineIs_iff.mp hk.passes
    rw [heldText_of_isHeld hk, List.getD_eq_getElem?_getD, hheld]
    exact Or.inr (List.mem_of_getElem? hheld)
  · exact Or.inl (heldText_of_not_isHeld (not_exists.mp hk))

theorem mem_of_mem_openLines (h : source ∈ openLines package before) : source ∈ before :=
  List.mem_of_mem_drop (List.mem_filter.mp h).1

theorem mem_of_mem_sources (h : source ∈ sources package before line) :
    source = [] ∨ source ∈ before ∨ source = line := by
  unfold sources at h
  split at h
  · exact Or.inr (Or.inr (List.mem_singleton.mp h))
  · rcases List.mem_cons.mp h with rfl | hopen
    · exact heldText_eq_nil_or_mem.imp_right Or.inl
    · exact Or.inr (Or.inl (mem_of_mem_openLines hopen))

end Lines

section Texts

variable {package : PackageFilter} {text : Text} {fragment : Fragment}

/-- The fragments of a text are those of its lines, each with the lines before it. -/
theorem mem_fragments_iff :
    fragment ∈ fragments package text ↔ ∃ (i : Nat) (line : Text),
      (Text.lines text)[i]? = some line ∧
        fragmentAt? package ((Text.lines text).take i) line = some fragment := by
  have hgiven : fragments package text = givenFragments package (Text.lines text) :=
    (tracks_run package (Text.lines text)).fragments
  rw [hgiven, givenFragments, List.mem_filterMap]
  constructor
  · rintro ⟨⟨line, i⟩, hmem, hfragment⟩
    exact ⟨i, line, List.mk_mem_zipIdx_iff_getElem?.mp hmem, hfragment⟩
  · rintro ⟨i, line, hline, hfragment⟩
    exact ⟨(line, i), List.mk_mem_zipIdx_iff_getElem?.mpr hline, hfragment⟩

theorem exists_mem_lines_of_mem_text (h : fragment ∈ fragments package text) {c : Char}
    (hc : c ∈ fragment.text) : ∃ line ∈ Text.lines text, c ∈ line := by
  obtain ⟨i, line, hline, hfragment⟩ := mem_fragments_iff.mp h
  rw [text_of_fragmentAt? hfragment, List.mem_flatten] at hc
  obtain ⟨source, hsource, hc⟩ := hc
  rcases mem_of_mem_sources hsource with rfl | hbefore | rfl
  · cases hc
  · exact ⟨source, List.mem_of_mem_take hbefore, hc⟩
  · exact ⟨source, List.mem_of_getElem? hline, hc⟩

end Texts

end ImportCensus.Statement
