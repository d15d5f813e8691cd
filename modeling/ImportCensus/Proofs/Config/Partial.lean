import ImportCensus.Config.File
import ImportCensus.Proofs.Except
/-!
# Settings that a file gives

A document gives some of the seven settings and leaves the others open.  It is read exactly when
each of them that is there has a value of its kind, and those that are not there, whether the key
or its whole section is missing, have their defaults.
-/

namespace ImportCensus.Config

open Toml

variable {doc : List (Text × Value)}

/-- Settings, some of which are given and the others left open. -/
structure Given where
  pattern : Option Text := none
  ignore : Option (List Text) := none
  caseInsensitive : Option Bool := none
  followLinks : Option Bool := none
  maxDepth : Option Nat := none
  color : Option Bool := none
  showTime : Option Bool := none
  deriving DecidableEq, Repr

def Given.config (g : Given) : Config where
  scan :=
    { pattern := g.pattern.getD defaultPattern
      ignore := g.ignore.getD ["**/.*/**", "**/target/**", "**/dist/**", nodeModulesGlob]
      caseInsensitive := g.caseInsensitive.getD true
      followLinks := g.followLinks.getD false
      maxDepth := g.maxDepth }
  output :=
    { color := g.color.getD true
      showTime := g.showTime.getD false }

/-- The value of a setting in a section: by its name in a table, by its position in a list. -/
def value? (doc : List (Text × Value)) (name key : Text) (position : Nat) : Option Value :=
  (doc.lookup name).bind (field? · key position)

def IsSection (doc : List (Text × Value)) (name : Text) : Prop :=
  ∀ v, doc.lookup name = some v → asSection v = .ok ()

/-- Whether a document gives these settings and leaves the others open. -/
structure Gives (doc : List (Text × Value)) (g : Given) : Prop where
  scan : IsSection doc "scan"
  output : IsSection doc "output"
  pattern : value? doc "scan" "pattern" 0 = g.pattern.map .string
  ignore : value? doc "scan" "ignore" 1 = g.ignore.map fun globs => .array (globs.map .string)
  caseInsensitive : value? doc "scan" "case_insensitive" 2 = g.caseInsensitive.map .boolean
  followLinks : value? doc "scan" "follow_links" 3 = g.followLinks.map .boolean
  maxDepth : value? doc "scan" "max_depth" 4 = g.maxDepth.map fun n => .integer n
  color : value? doc "output" "color" 0 = g.color.map .boolean
  showTime : value? doc "output" "show_time" 1 = g.showTime.map .boolean

/-! ## Single settings -/

section Setting

variable {α : Type} {read : Value → Except Fault α} {write : α → Value} {default x : α}
  {v : Value} {o : Option Value}

theorem asText_eq_ok_iff {text : Text} : asText v = .ok text ↔ v = .string text := by
  cases v <;> simp [asText]

theorem asBool_eq_ok_iff {b : Bool} : asBool v = .ok b ↔ v = .boolean b := by
  cases v <;> simp [asBool]

theorem asNat_eq_ok_iff {n : Nat} : asNat v = .ok n ↔ v = .integer n := by
  constructor
  · intro h
    unfold asNat at h
    split at h
    · cases h
      rfl
    · cases h
  · rintro rfl
    rfl

theorem asTexts_eq_ok_iff {texts : List Text} :
    asTexts v = .ok texts ↔ v = .array (texts.map .string) := by
  cases v with
  | array items =>
    rw [asTexts, mapM_eq_ok_iff, Value.array.injEq]
    simp only [asText_eq_ok_iff]
    rw [← List.forall₂_eq_eq_eq, List.forall₂_map_right_iff]
  | _ => simp [asTexts]

/-- A setting is read as what was given of it, else as its default. -/
theorem setting_eq_ok_iff (h : ∀ v x, read v = .ok x ↔ v = write x) :
    setting read default o = .ok x ↔
      ∃ given : Option α, o = given.map write ∧ x = given.getD default := by
  cases o with
  | none =>
    rw [setting, Except.ok.injEq]
    constructor
    · rintro rfl
      exact ⟨none, rfl, rfl⟩
    · rintro ⟨given, hgiven, rfl⟩
      rw [eq_comm, Option.map_eq_none_iff] at hgiven
      rw [hgiven, Option.getD_none]
  | some v =>
    rw [setting, h]
    constructor
    · rintro rfl
      exact ⟨some x, rfl, rfl⟩
    · rintro ⟨given, hgiven, rfl⟩
      obtain ⟨y, rfl, rfl⟩ := Option.map_eq_some_iff.mp hgiven.symm
      rfl

theorem setting_depth_eq_ok_iff {depth : Option Nat} :
    setting (fun v => (asNat v).map some) none o = .ok depth ↔
      o = depth.map fun n => .integer n := by
  cases o with
  | none => cases depth <;> simp [setting]
  | some v =>
    rw [setting]
    cases hn : asNat v with
    | ok n =>
      obtain rfl := asNat_eq_ok_iff.mp hn
      cases depth with
      | none => simp [Except.map]
      | some depth =>
        rw [Except.map, Except.ok.injEq, Option.some.injEq, Option.map_some, Option.some.injEq,
          Value.integer.injEq, Int.natCast_inj]
    | error cause =>
      cases depth with
      | none => simp [Except.map]
      | some n =>
        have hv : v ≠ .integer n := fun hv => by
          rw [asNat_eq_ok_iff.mpr hv] at hn
          cases hn
        simp [Except.map, hv]

end Setting

/-! ## Sections -/

theorem value?_of_lookup {name key : Text} {position : Nat} {v : Value}
    (h : doc.lookup name = some v) : value? doc name key position = field? v key position := by
  rw [value?, h, Option.bind_some]

theorem value?_of_not_lookup {name key : Text} {position : Nat} (h : doc.lookup name = none) :
    value? doc name key position = none := by
  rw [value?, h, Option.bind_none]

theorem isSection_of_lookup {name : Text} {v : Value} (h : doc.lookup name = some v) :
    IsSection doc name ↔ asSection v = .ok () := by
  rw [IsSection, h]
  simp

theorem isSection_of_not_lookup {name : Text} (h : doc.lookup name = none) :
    IsSection doc name := by
  intro v hv
  rw [h] at hv
  cases hv

theorem setting_decodeScan_eq_ok_iff {c : ScanConfig} :
    setting decodeScan {} (doc.lookup "scan".toList) = .ok c ↔
      IsSection doc "scan" ∧
      setting asText defaultPattern (value? doc "scan" "pattern" 0) = .ok c.pattern ∧
      setting asTexts ["**/.*/**", "**/target/**", "**/dist/**", nodeModulesGlob]
        (value? doc "scan" "ignore" 1) = .ok c.ignore ∧
      setting asBool true (value? doc "scan" "case_insensitive" 2) = .ok c.caseInsensitive ∧
      setting asBool false (value? doc "scan" "follow_links" 3) = .ok c.followLinks ∧
      setting (fun v => (asNat v).map some) none (value? doc "scan" "max_depth" 4) =
        .ok c.maxDepth := by
  obtain ⟨pattern, ignore, caseInsensitive, followLinks, maxDepth⟩ := c
  cases h : doc.lookup "scan".toList with
  | none =>
    simp only [value?_of_not_lookup h, isSection_of_not_lookup h, setting, Except.ok.injEq,
      ScanConfig.mk.injEq, true_and]
  | some v =>
    simp only [value?_of_lookup h, isSection_of_lookup h]
    rw [setting, decodeScan]
    simp only [bind_eq_ok_iff, Except.ok.injEq, ScanConfig.mk.injEq]
    constructor
    · rintro ⟨_, hsection, _, hpattern, _, hignore, _, hcase, _, hlinks, _, hdepth,
        rfl, rfl, rfl, rfl, rfl⟩
      exact ⟨hsection, hpattern, hignore, hcase, hlinks, hdepth⟩
    · rintro ⟨hsection, hpattern, hignore, hcase, hlinks, hdepth⟩
      exact ⟨_, hsection, _, hpattern, _, hignore, _, hcase, _, hlinks, _, hdepth,
        rfl, rfl, rfl, rfl, rfl⟩

theorem setting_decodeOutput_eq_ok_iff {c : OutputConfig} :
    setting decodeOutput {} (doc.lookup "output".toList) = .ok c ↔
      IsSection doc "output" ∧
      setting asBool true (value? doc "output" "color" 0) = .ok c.color ∧
      setting asBool false (value? doc "output" "show_time" 1) = .ok c.showTime := by
  obtain ⟨color, showTime⟩ := c
  cases h : doc.lookup "output".toList with
  | none =>
    simp only [value?_of_not_lookup h, isSection_of_not_lookup h, setting, Except.ok.injEq,
      OutputConfig.mk.injEq, true_and]
  | some v =>
    simp only [value?_of_lookup h, isSection_of_lookup h]
    rw [setting, decodeOutput]
    simp only [bind_eq_ok_iff, Except.ok.injEq, OutputConfig.mk.injEq]
    constructor
    · rintro ⟨_, hsection, _, hcolor, _, htime, rfl, rfl⟩
      exact ⟨hsection, hcolor, htime⟩
    · rintro ⟨hsection, hcolor, htime⟩
      exact ⟨_, hsection, _, hcolor, _, htime, rfl, rfl⟩

/-! ## Documents and files -/

/-- A document is read as the configuration of the settings that it gives. -/
theorem decode_eq_ok_iff {c : Config} : decode doc = .ok c ↔ ∃ g, Gives doc g ∧ c = g.config := by
  have hsections : decode doc = .ok c ↔
      setting decodeScan {} (doc.lookup "scan".toList) = .ok c.scan ∧
        setting decodeOutput {} (doc.lookup "output".toList) = .ok c.output := by
    obtain ⟨scan, output⟩ := c
    simp only [decode, bind_eq_ok_iff, Except.ok.injEq, Config.mk.injEq]
    constructor
    · rintro ⟨_, hscan, _, houtput, rfl, rfl⟩
      exact ⟨hscan, houtput⟩
    · rintro ⟨hscan, houtput⟩
      exact ⟨_, hscan, _, houtput, rfl, rfl⟩
  rw [hsections, setting_decodeScan_eq_ok_iff, setting_decodeOutput_eq_ok_iff,
    setting_eq_ok_iff (fun _ _ => asText_eq_ok_iff),
    setting_eq_ok_iff (fun _ _ => asTexts_eq_ok_iff), setting_depth_eq_ok_iff]
  simp only [setting_eq_ok_iff (fun _ _ => asBool_eq_ok_iff)]
  constructor
  · rintro ⟨⟨hscan, ⟨pattern, hpattern, hp⟩, ⟨ignore, hignore, hi⟩, ⟨fold, hfold, hf⟩,
      ⟨links, hlinks, hl⟩, hdepth⟩, houtput, ⟨color, hcolor, hc⟩, ⟨time, htime, ht⟩⟩
    refine ⟨⟨pattern, ignore, fold, links, c.scan.maxDepth, color, time⟩,
      ⟨hscan, houtput, hpattern, hignore, hfold, hlinks, hdepth, hcolor, htime⟩, ?_⟩
    obtain ⟨scan, output⟩ := c
    rw [Given.config]
    simp only at hp hi hf hl hc ht
    rw [← hp, ← hi, ← hf, ← hl, ← hc, ← ht]
  · rintro ⟨g, hg, rfl⟩
    exact ⟨⟨hg.scan, ⟨_, hg.pattern, rfl⟩, ⟨_, hg.ignore, rfl⟩, ⟨_, hg.caseInsensitive, rfl⟩,
      ⟨_, hg.followLinks, rfl⟩, hg.maxDepth⟩, hg.output, ⟨_, hg.color, rfl⟩, ⟨_, hg.showTime, rfl⟩⟩

theorem ofToml_eq_ok_iff {text : Text} {c : Config} :
    ofToml text = .ok c ↔ ∃ doc g, Toml.parse text = .ok doc ∧ Gives doc g ∧ c = g.config := by
  simp only [ofToml, bind_eq_ok_iff, decode_eq_ok_iff, exists_and_left]

theorem pathExists_of_textAt {root : FileTree} {path : Path} {text : Text}
    (h : FileTree.textAt root path = .ok text) : FileTree.pathExists root path = true := by
  obtain ⟨bytes, hbytes, -⟩ := bind_eq_ok_iff.mp h
  obtain ⟨node, hnode, -⟩ := bind_eq_ok_iff.mp hbytes
  rw [FileTree.pathExists, hnode]
  rfl

variable {root : FileTree} {dir path : Path}

/-- A file is read exactly when it is there and its text is a document that gives settings. -/
theorem ofFile_eq_ok_iff {c : Config} :
    ofFile root dir path = .ok c ↔
      ∃ text doc g, FileTree.textAt root (Path.join dir path) = .ok text ∧
        Toml.parse text = .ok doc ∧ Gives doc g ∧ c = g.config := by
  have htext : ofFile root dir path = .ok c ↔
      ∃ text, FileTree.textAt root (Path.join dir path) = .ok text ∧ ofToml text = .ok c := by
    rw [ofFile]
    constructor
    · intro h
      split at h
      · split at h
        · cases h
        · rename_i text htext
          refine ⟨text, htext, ?_⟩
          split at h
          · cases h
          · rename_i hread
            cases h
            exact hread
      · cases h
    · rintro ⟨text, htext, hread⟩
      rw [if_pos (pathExists_of_textAt htext), htext]
      dsimp only
      rw [hread]
  simp only [htext, ofToml_eq_ok_iff, exists_and_left]

theorem ofFile_error {cause : ConfigError} (h : ofFile root dir path = .error cause) :
    (FileTree.pathExists root (Path.join dir path) = false ∧ cause = .missingFile path) ∨
    (∃ reason, FileTree.textAt root (Path.join dir path) = .error reason ∧
      cause = .unreadableFile path reason) ∨
    ∃ text fault, FileTree.textAt root (Path.join dir path) = .ok text ∧
      ofToml text = .error fault ∧ cause = .malformedFile path fault := by
  rw [ofFile] at h
  split at h
  · split at h
    · rename_i reason hreason
      cases h
      exact Or.inr (Or.inl ⟨reason, hreason, rfl⟩)
    · rename_i text htext
      split at h
      · rename_i fault hfault
        cases h
        exact Or.inr (Or.inr ⟨text, fault, htext, hfault, rfl⟩)
      · cases h
  · rename_i hmissing
    cases h
    exact Or.inl ⟨Bool.eq_false_iff.mpr hmissing, rfl⟩

end ImportCensus.Config
