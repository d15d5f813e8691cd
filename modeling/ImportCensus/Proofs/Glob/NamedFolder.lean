import ImportCensus.Proofs.Glob.Below
import Mathlib.Data.List.TakeWhile
/-!
# Globs for a name anywhere

A double star and a plain name match every path that ends in the name, and with the ending for
what is below a folder everything below such a path.
-/

namespace ImportCensus.Glob

open Discovery.FileFilter (belowFolder)

def isPlain (c : Char) : Bool :=
  c != '?' && c != '*' && c != '[' && c != '\x7b' && c != '\x7d' && c != ',' && c != '\\'

/-- Whether a text is a name that stands for itself in a glob. -/
structure IsPlainName (name : Text) : Prop where
  plain : ∀ c ∈ name, isPlain c = true
  slash_notMem : slash ∉ Text.utf8 name
  ne_nil : name ≠ []
  ne_above : Text.utf8 name ≠ Path.above

def IsNamed (name path : List UInt8) : Prop :=
  path = name ∨ ∃ before, path = before ++ slash :: name

variable {name : Text} {fold : Bool} {g : Glob} {path rest : List UInt8}

theorem stepPlain_of_isPlain {c : Char} (h : isPlain c = true) (r : Reader) :
    r.stepPlain c = .ok { r.push (.literal c) with last := some c, mode := .plain } := by
  unfold Reader.stepPlain
  split <;> first | rfl | exact absurd h (by decide)

theorem foldlM_isPlain (h : ∀ c ∈ name, isPlain c = true) {r : Reader} (hmode : r.mode = .plain) :
    ∃ r', name.foldlM Reader.step r = .ok r' ∧ r'.mode = .plain ∧ r'.outer = r.outer ∧
      r'.current.tokens = r.current.tokens ++ name.map .literal := by
  induction name generalizing r with
  | nil => exact ⟨r, rfl, hmode, rfl, by simp⟩
  | cons c name ih =>
    have hstep : r.step c = .ok { r.push (.literal c) with last := some c, mode := .plain } := by
      rw [Reader.step, hmode]
      exact stepPlain_of_isPlain (h c (by simp)) r
    obtain ⟨r', hr', hmode', houter, htokens⟩ := ih (fun c' hc' => h c' (by simp [hc']))
      (r := { r.push (.literal c) with last := some c, mode := .plain }) rfl
    refine ⟨r', ?_, hmode', houter, ?_⟩
    · rw [List.foldlM_cons, hstep]
      exact hr'
    · rw [htokens]
      simp [Reader.push]

theorem parse_starFolder_append (h : ∀ c ∈ name, isPlain c = true) :
    parse (starFolder ++ name) = .ok (.leading :: name.map .literal) := by
  obtain ⟨r, hr, hmode, houter, htokens⟩ :=
    foldlM_isPlain h (r := ⟨⟨[], [.leading]⟩, [], some '/', .plain⟩) rfl
  rw [parse, List.foldlM_append, foldlM_starFolders .one]
  change name.foldlM Reader.step _ >>= Reader.finish = _
  rw [hr]
  change r.finish = _
  rw [Reader.finish, Reader.settle, hmode]
  change (if r.outer.isEmpty then _ else _) = _
  rw [houter, htokens]
  rfl

theorem seqMatches_literal (name : Text) :
    SeqMatches fold (name.map .literal) (Text.utf8 name) := by
  induction name with
  | nil => rfl
  | cons c name ih => exact ⟨String.utf8EncodeChar c, Text.utf8 name, by simp, rfl, ih⟩

theorem lastComponent_of_isNamed {name path : List UInt8} (hslash : slash ∉ name)
    (h : IsNamed name path) : lastComponent path = name := by
  have hall : ∀ b ∈ name.reverse, (b != slash) = true := by
    intro b hb
    rw [List.mem_reverse] at hb
    simpa using fun heq : b = slash => hslash (heq ▸ hb)
  rw [lastComponent, List.reverse_eq_iff]
  rcases h with rfl | ⟨before, rfl⟩
  · exact List.takeWhile_eq_self_iff.mpr hall
  · rw [List.reverse_append, List.reverse_cons, List.append_assoc,
      List.takeWhile_append_of_pos hall]
    simp

theorem isMatch_of_isNamed (hname : IsPlainName name)
    (hg : Glob.compile fold (starFolder ++ name) = .ok g) (h : IsNamed (Text.utf8 name) path) :
    g.isMatch path = true := by
  obtain ⟨hparse, -⟩ := parse_of_compile hg
  have htokens := Except.ok.inj (hparse.symm.trans (parse_starFolder_append hname.plain))
  rw [isMatch_iff, Glob.Matches, htokens]
  refine ⟨Or.inr ?_, ?_⟩
  · rcases h with rfl | ⟨before, rfl⟩
    · exact ⟨[], _, rfl, Or.inl rfl, seqMatches_literal name⟩
    · exact ⟨before ++ [slash], _, by simp, Or.inr ⟨before, rfl⟩, seqMatches_literal name⟩
  · rintro ⟨-, hnameless⟩
    rw [isNameless, lastComponent_of_isNamed hname.slash_notMem h, beq_iff_eq] at hnameless
    exact hname.ne_above hnameless

theorem getLast?_of_starFolders {folder : Text} (h : StarFolders folder) :
    folder.getLast? = some '/' := by
  cases h with
  | one => rfl
  | more _ => simp [starFolder]

theorem IsPlainName.not_starFolders (hname : IsPlainName name) :
    ¬ StarFolders (starFolder ++ name) := by
  intro hstars
  obtain ⟨before, last, rfl⟩ := (List.eq_nil_or_concat' name).resolve_left hname.ne_nil
  have hlast := getLast?_of_starFolders hstars
  rw [← List.append_assoc, List.getLast?_concat, Option.some.injEq] at hlast
  subst hlast
  apply hname.slash_notMem
  rw [Text.utf8_append, List.mem_append]
  exact Or.inr (by decide)

theorem isMatch_below_of_isNamed (hname : IsPlainName name)
    (hg : Glob.compile fold (starFolder ++ name ++ belowFolder) = .ok g)
    (h : IsNamed (Text.utf8 name) path) : g.isMatch (path ++ slash :: rest) = true := by
  have hfolder : Glob.compile fold (starFolder ++ name) =
      .ok ⟨starFolder ++ name, fold, .leading :: name.map .literal⟩ := by
    rw [Glob.compile, parse_starFolder_append hname.plain]
  exact isMatch_below hfolder hg hname.not_starFolders (isMatch_of_isNamed hname hfolder h)

end ImportCensus.Glob
