import ImportCensus.Proofs.CommandLine.Words
import Mathlib.Data.List.Basic
/-!
# Values read back from a command line

The words for some values may stand in any order; only the globs to exclude keep theirs, whether
they are given together or in several words.  What the words give depends on which words there are
of each kind, so the values are read back as they are.  One more word for a switch that can be
given once makes the command line senseless, and so does verbosity beside quietness.
-/

namespace ImportCensus.CommandLine

namespace Word

def packageName? : Word → Option Text
  | packageName _ value => some value
  | _ => none

def pattern? : Word → Option Text
  | glob pattern => some pattern
  | _ => none

def path? : Word → Option Text
  | config path => some path
  | _ => none

def globs? : Word → Option (List Text)
  | exclude globs => some globs
  | _ => none

def format? : Word → Option OutputFormat
  | outputFormat format => some format
  | _ => none

end Word

namespace Arguments

def has (a : Arguments) : Flag → Bool
  | .node => a.node
  | .time => a.time
  | .noColor => a.noColor
  | .quiet => a.quiet
  | .generateConfig => a.generateConfig

/-- The words for some values: `camel` chooses the name of the package option, and `groups` are the
globs to exclude as they are spread over words. -/
def words (a : Arguments) (camel : Bool) (groups : List (List Text)) : List Word :=
  a.packageName.toList.map (.packageName camel) ++ a.glob.toList.map .glob ++
    a.config.toList.map .config ++ a.outputFormat.toList.map .outputFormat ++
      groups.map .exclude ++ (Flag.all.filter a.has).map .flag ++ List.replicate a.verbose .verbose

/-- Whether a command line can give some values. -/
structure IsSayable (a : Arguments) : Prop where
  dir : a.dir ≠ some []
  config : a.config ≠ some []
  exclude : a.exclude ≠ some []
  comma_notMem : ∀ glob ∈ a.exclude.getD [], ',' ∉ glob
  verbose : a.verbose ≤ maxVerbose
  quiet : a.quiet = true → a.verbose = 0

end Arguments

/-- Whether some words are those for some values, in whatever order; the globs to exclude stand in
theirs. -/
structure Spell (ws : List Word) (a : Arguments) : Prop where
  perm : ∃ camel, ws.Perm (a.words camel (ws.filterMap Word.globs?))
  groups : ∀ globs ∈ ws.filterMap Word.globs?, globs ≠ []
  exclude : (ws.filterMap Word.globs?).flatten = a.exclude.getD []

variable {a : Arguments} {w : Word} {ws : List Word} {camel : Bool} {groups : List (List Text)}
  {closing : List Text}

/-! ## What a row of words gives, by the kinds of its words -/

theorem values_put (a : Arguments) (w : Word) :
    (w.put a).packageName = w.packageName?.or a.packageName ∧
    (w.put a).glob = w.pattern?.or a.glob ∧
    (w.put a).config = w.path?.or a.config ∧
    (w.put a).outputFormat = w.format?.or a.outputFormat := by
  cases w with
  | flag f => cases f <;> exact ⟨rfl, rfl, rfl, rfl⟩
  | _ => exact ⟨rfl, rfl, rfl, rfl⟩

theorem said_value {α : Type} (value : Arguments → Option α) (pick : Word → Option α)
    (hstart : value {} = none) (hput : ∀ a w, value (w.put a) = (pick w).or (value a))
    (ws : List Word) : value (said ws) = (ws.filterMap pick).getLast? := by
  induction ws using List.reverseRecOn with
  | nil => exact hstart
  | append_singleton ws w ih =>
    rw [said_concat, hput, ih, List.filterMap_append]
    cases hpick : pick w with
    | none => simp [hpick]
    | some x => simp [hpick]

theorem said_value_of_perm {α : Type} {o : Option α} (value : Arguments → Option α)
    (pick : Word → Option α) (hstart : value {} = none)
    (hput : ∀ a w, value (w.put a) = (pick w).or (value a))
    (h : (ws.filterMap pick).Perm o.toList) : value (said ws) = o := by
  rw [said_value value pick hstart hput]
  cases o with
  | none => rw [List.perm_nil.mp h]; rfl
  | some x => rw [List.perm_singleton.mp h]; rfl

/-- Globs without commas are told apart where they are cut, so no word adds to what another says. -/
theorem exclude_said
    (h : ∀ globs ∈ ws.filterMap Word.globs?, globs ≠ [] ∧ ∀ glob ∈ globs, ',' ∉ glob) :
    (said ws).exclude =
      if ws.filterMap Word.globs? = [] then none else some (ws.filterMap Word.globs?).flatten := by
  induction ws using List.reverseRecOn with
  | nil => rfl
  | append_singleton ws w ih =>
    rw [List.filterMap_append] at h ⊢
    rw [List.forall_mem_append] at h
    have hold := ih h.1
    rw [said_concat]
    cases hw : w.globs? with
    | none =>
      have hput : (w.put (said ws)).exclude = (said ws).exclude := by
        cases w with
        | exclude globs => cases hw
        | flag f => cases f <;> rfl
        | _ => rfl
      rw [hput, hold]
      simp [hw]
    | some globs =>
      cases w with
      | exclude given =>
        cases hw
        have hglobs := h.2 globs (by simp [Word.globs?])
        change some ((said ws).exclude.getD [] ++ Text.splitOn ',' ([','].intercalate globs)) = _
        rw [hold, Text.splitOn_intercalate hglobs.1 hglobs.2]
        split
        · rename_i hnil
          simp [Word.globs?, hnil]
        · simp [Word.globs?]
      | _ => cases hw

/-! ## What the words for some values are -/

theorem mem_words_flag_iff (f : Flag) : .flag f ∈ a.words camel groups ↔ a.has f = true := by
  have hall : f ∈ Flag.all := by cases f <;> decide
  simp [Arguments.words, hall]

theorem count_words_verbose : (a.words camel groups).count .verbose = a.verbose := by
  have hother : ∀ {α : Type} (word : α → Word) (xs : List α), (∀ x, word x ≠ .verbose) →
      (xs.map word).count .verbose = 0 := by
    intro α word xs hword
    refine List.count_eq_zero.mpr ?_
    rw [List.mem_map]
    rintro ⟨x, -, hx⟩
    exact hword x hx
  simp [Arguments.words, hother]

theorem filterMap_words_packageName :
    (a.words camel groups).filterMap Word.packageName? = a.packageName.toList := by
  simp [Arguments.words, List.filterMap_map, Function.comp_def, Word.packageName?]

theorem filterMap_words_pattern :
    (a.words camel groups).filterMap Word.pattern? = a.glob.toList := by
  simp [Arguments.words, List.filterMap_map, Function.comp_def, Word.pattern?]

theorem filterMap_words_path :
    (a.words camel groups).filterMap Word.path? = a.config.toList := by
  simp [Arguments.words, List.filterMap_map, Function.comp_def, Word.path?]

theorem filterMap_words_format :
    (a.words camel groups).filterMap Word.format? = a.outputFormat.toList := by
  simp [Arguments.words, List.filterMap_map, Function.comp_def, Word.format?]

theorem config_nil_not_mem_words (h : a.config ≠ some []) :
    .config [] ∉ a.words camel groups := by
  simpa [Arguments.words] using h

theorem nodup_singles_words : (singles (a.words camel groups)).Nodup := by
  have hgiven : ∀ {α : Type} (o : Option α) (switch : Switch),
      (o.toList.map fun _ => switch).Sublist [switch] := by
    intro α o switch
    cases o <;> simp
  have hflag : ∀ flags : List Flag, (flags.map Flag.switch).filter Switch.isSingle =
      flags.map Flag.switch := by
    intro flags
    rw [List.filter_eq_self, List.forall_mem_map]
    intro f _
    cases f <;> rfl
  have hsingles : singles (a.words camel groups) =
      a.packageName.toList.map (fun _ => .packageName) ++ a.glob.toList.map (fun _ => .glob) ++
        a.config.toList.map (fun _ => .config) ++
          a.outputFormat.toList.map (fun _ => .outputFormat) ++
            (Flag.all.filter a.has).map Flag.switch := by
    simp only [singles, Arguments.words, List.map_append, List.map_map, List.filter_append,
      List.map_replicate, Function.comp_def, Word.switch, hflag]
    simp [List.filter_replicate, Switch.isSingle]
  have hsublist := ((((hgiven a.packageName .packageName).append (hgiven a.glob .glob)).append
    (hgiven a.config .config)).append (hgiven a.outputFormat .outputFormat)).append
      (List.filter_sublist.map Flag.switch : ((Flag.all.filter a.has).map _).Sublist _)
  rw [hsingles]
  exact hsublist.nodup (by decide)

/-! ## Reading the words for some values -/

theorem Spell.isReadable (h : Spell ws a) (ha : a.IsSayable) : IsReadable ws := by
  obtain ⟨camel, hperm⟩ := h.perm
  have hsingles := (hperm.map Word.switch).filter Switch.isSingle
  refine ⟨hsingles.nodup_iff.mpr nodup_singles_words, ?_⟩
  rw [hperm.mem_iff]
  exact config_nil_not_mem_words ha.config

theorem Spell.mem_flag_iff (h : Spell ws a) (f : Flag) : .flag f ∈ ws ↔ a.has f = true := by
  obtain ⟨camel, hperm⟩ := h.perm
  rw [hperm.mem_iff, mem_words_flag_iff]

theorem Spell.count_verbose (h : Spell ws a) : ws.count .verbose = a.verbose := by
  obtain ⟨camel, hperm⟩ := h.perm
  rw [hperm.count_eq, count_words_verbose]

theorem Spell.exclude_said (h : Spell ws a) (ha : a.IsSayable) :
    (said ws).exclude = a.exclude := by
  have hglobs : ∀ globs ∈ ws.filterMap Word.globs?, globs ≠ [] ∧ ∀ glob ∈ globs, ',' ∉ glob := by
    intro globs hmem
    refine ⟨h.groups globs hmem, ?_⟩
    intro glob hglob
    apply ha.comma_notMem
    rw [← h.exclude]
    exact List.mem_flatten_of_mem hmem hglob
  have hflatten := h.exclude
  rw [CommandLine.exclude_said hglobs]
  cases hexclude : a.exclude with
  | none =>
    have hnil : ws.filterMap Word.globs? = [] := by
      rw [List.eq_nil_iff_forall_not_mem]
      intro globs hmem
      rw [hexclude, Option.getD_none, List.flatten_eq_nil_iff] at hflatten
      exact h.groups globs hmem (hflatten globs hmem)
    rw [if_pos hnil]
  | some given =>
    have hne : ws.filterMap Word.globs? ≠ [] := by
      intro hnil
      rw [hnil, hexclude] at hflatten
      exact ha.exclude (hexclude.trans (congrArg some hflatten.symm))
    rw [if_neg hne, hflatten, hexclude, Option.getD_some]

/-- The words for some values give these values; the folder is no word. -/
theorem Spell.said_eq (h : Spell ws a) (ha : a.IsSayable) : { said ws with dir := a.dir } = a := by
  obtain ⟨camel, hperm⟩ := h.perm
  have hpackage : (said ws).packageName = a.packageName := by
    refine said_value_of_perm Arguments.packageName Word.packageName? rfl
      (fun a w => (values_put a w).1) ?_
    rw [← filterMap_words_packageName]
    exact hperm.filterMap _
  have hpattern : (said ws).glob = a.glob := by
    refine said_value_of_perm Arguments.glob Word.pattern? rfl
      (fun a w => (values_put a w).2.1) ?_
    rw [← filterMap_words_pattern]
    exact hperm.filterMap _
  have hpath : (said ws).config = a.config := by
    refine said_value_of_perm Arguments.config Word.path? rfl
      (fun a w => (values_put a w).2.2.1) ?_
    rw [← filterMap_words_path]
    exact hperm.filterMap _
  have hformat : (said ws).outputFormat = a.outputFormat := by
    refine said_value_of_perm Arguments.outputFormat Word.format? rfl
      (fun a w => (values_put a w).2.2.2) ?_
    rw [← filterMap_words_format]
    exact hperm.filterMap _
  have hflag : ∀ f : Flag, (said ws).isGiven f.switch = a.has f := by
    intro f
    rw [Bool.eq_iff_iff, isGiven_flag_iff, h.mem_flag_iff]
  have hverbose : (said ws).verbose = a.verbose := by
    rw [verbose_said, h.count_verbose]
    exact Nat.min_eq_left ha.verbose
  exact (Arguments.mk.injEq ..).mpr ⟨rfl, hpackage, hflag .node, hflag .time, hpattern,
    h.exclude_said ha, hpath, hformat, hflag .noColor, hverbose, hflag .quiet,
    hflag .generateConfig⟩

/-! ## One word more -/

theorem not_isReadable_of_repeat {ws₁ ws₂ : List Word} {w' : Word} (hw : w ∈ ws₁ ++ ws₂)
    (hsingle : w.switch.isSingle = true) (hswitch : w'.switch = w.switch) :
    ¬ IsReadable (ws₁ ++ w' :: ws₂) := by
  have hperm : (singles (ws₁ ++ w' :: ws₂)).Perm (w.switch :: singles (ws₁ ++ ws₂)) := by
    have hmiddle := (@List.perm_middle _ w' ws₁ ws₂).map Word.switch
    have hfilter := hmiddle.filter Switch.isSingle
    rwa [List.map_cons, List.filter_cons_of_pos (hswitch ▸ hsingle), hswitch] at hfilter
  intro hreadable
  have hnodup := hperm.nodup_iff.mp hreadable.1
  rw [List.nodup_cons] at hnodup
  exact hnodup.1 (mem_singles_iff.mpr ⟨hsingle, w, hw, rfl⟩)

/-- Values that a command line can give are read back from their words, in whatever order, and one
word more is refused if it asks for verbosity beside quietness or repeats a switch that can be
given once. -/
theorem parse_spelling (ha : a.IsSayable) (h : Spell ws a) (hclosing : Closes a.dir closing) :
    parse (ws.map Word.spelling ++ closing) = .ok a ∧
    (a.quiet = true → ∀ ws₁ ws₂, ws = ws₁ ++ ws₂ →
      ∃ e, parse ((ws₁ ++ .verbose :: ws₂).map Word.spelling ++ closing) = .error (.usage e)) ∧
    ∀ ws₁ ws₂, ws = ws₁ ++ ws₂ → ∀ w ∈ ws, w.switch.isSingle = true →
      ∀ w', w'.switch = w.switch →
        ∃ e, parse ((ws₁ ++ w' :: ws₂).map Word.spelling ++ closing) = .error (.usage e) := by
  refine ⟨?_, ?_, ?_⟩
  · have hquiet : ¬ (.flag .quiet ∈ ws ∧ .verbose ∈ ws) := by
      rintro ⟨hflag, hverbose⟩
      have hzero := ha.quiet ((h.mem_flag_iff .quiet).mp hflag)
      rw [← h.count_verbose, List.count_eq_zero] at hzero
      exact hzero hverbose
    rw [(parse_words hclosing ws).1 ⟨h.isReadable ha, ha.dir, hquiet⟩, h.said_eq ha]
  · rintro hquiet ws₁ ws₂ rfl
    have hflag : .flag .quiet ∈ ws₁ ++ .verbose :: ws₂ := by
      have hmem := (h.mem_flag_iff .quiet).mpr hquiet
      rw [List.mem_append] at hmem ⊢
      exact hmem.imp_right (List.mem_cons_of_mem _)
    have hverbose : .verbose ∈ ws₁ ++ .verbose :: ws₂ := by simp
    exact (parse_words hclosing _).2 fun hok => hok.2.2 ⟨hflag, hverbose⟩
  · rintro ws₁ ws₂ rfl w hw hsingle w' hswitch
    exact (parse_words hclosing _).2 fun hok => not_isReadable_of_repeat hw hsingle hswitch hok.1

/-- A folder and a name that look like switches are told apart from them, the package name has its
other name, and the globs to exclude come in two words. -/
theorem parse_spelling_switchLike :
    parse ["--exclude=x,".toList, "--quiet".toList, "--packageName=--node=a,b".toList,
        "--config==".toList, "--exclude=y".toList, "--".toList, "-v".toList] =
      .ok { dir := some "-v".toList, packageName := some "--node=a,b".toList,
            exclude := some ["x".toList, [], "y".toList], config := some "=".toList,
            quiet := true } ∧
    (∃ e, parse ["--exclude=x,".toList, "--quiet".toList, "--packageName=--node=a,b".toList,
        "--verbose".toList, "--config==".toList, "--exclude=y".toList, "--".toList, "-v".toList] =
      .error (.usage e)) ∧
    ∃ e, parse ["--exclude=x,".toList, "--quiet".toList, "--packageName=--node=a,b".toList,
        "--package-name=".toList, "--config==".toList, "--exclude=y".toList, "--".toList,
        "-v".toList] =
      .error (.usage e) := by
  have h := @parse_spelling
    { dir := some "-v".toList, packageName := some "--node=a,b".toList,
      exclude := some ["x".toList, [], "y".toList], config := some "=".toList, quiet := true }
    [.exclude ["x".toList, []], .flag .quiet, .packageName true "--node=a,b".toList,
      .config "=".toList, .exclude ["y".toList]]
    ["--".toList, "-v".toList]
    ⟨by decide, by decide, by decide, by decide, by decide, by decide⟩
    ⟨⟨true, by decide⟩, by decide, rfl⟩ (.inl rfl)
  have hquiet := h.2.1 rfl
    [.exclude ["x".toList, []], .flag .quiet, .packageName true "--node=a,b".toList] _ rfl
  have hrepeat := h.2.2
    [.exclude ["x".toList, []], .flag .quiet, .packageName true "--node=a,b".toList] _ rfl
    (.packageName true "--node=a,b".toList) (by decide) rfl (.packageName false []) rfl
  exact ⟨h.1, hquiet, hrepeat⟩

end ImportCensus.CommandLine
