import ImportCensus.CommandLine.Parser
import Mathlib.Data.List.Induction
import Mathlib.Data.List.Nodup
import Mathlib.Data.List.TakeWhile
/-!
# Options in words of their own

An option with its long name, and with its value behind an equals sign if it has one, is one
argument.  It takes effect where it is read, so a row of such words is a walk along the values
given so far: a word for a value that can be given once is refused if its switch was read before,
and so is an empty file name.
-/

namespace ImportCensus.CommandLine

def OutputFormat.name : OutputFormat → Text
  | human => "human"
  | json => "json"
  | plain => "plain"

/-- A switch that is either given or not. -/
inductive Flag
  | node
  | time
  | noColor
  | quiet
  | generateConfig
  deriving DecidableEq

namespace Flag

def all : List Flag := [node, time, noColor, quiet, generateConfig]

def switch : Flag → Switch
  | node => .node
  | time => .time
  | noColor => .noColor
  | quiet => .quiet
  | generateConfig => .generateConfig

def name : Flag → Text
  | node => "node"
  | time => "time"
  | noColor => "no-color"
  | quiet => "quiet"
  | generateConfig => "generate-config"

end Flag

/-- An option in one argument.  The package name has two names of its own. -/
inductive Word
  | packageName (camel : Bool) (value : Text)
  | glob (pattern : Text)
  | config (path : Text)
  | exclude (globs : List Text)
  | outputFormat (format : OutputFormat)
  | flag (flag : Flag)
  | verbose
  deriving DecidableEq

def Switch.isSingle : Switch → Bool
  | exclude | verbose => false
  | _ => true

namespace Word

def switch : Word → Switch
  | packageName _ _ => .packageName
  | glob _ => .glob
  | config _ => .config
  | exclude _ => .exclude
  | outputFormat _ => .outputFormat
  | flag f => f.switch
  | verbose => .verbose

def name : Word → Text
  | packageName camel _ => if camel then "packageName" else "package-name"
  | glob _ => "glob"
  | config _ => "config"
  | exclude _ => "exclude"
  | outputFormat _ => "output-format"
  | flag f => f.name
  | verbose => "verbose"

def value? : Word → Option Text
  | packageName _ value => some value
  | glob pattern => some pattern
  | config path => some path
  | exclude globs => some ([','].intercalate globs)
  | outputFormat format => some format.name
  | flag _ | verbose => none

def spelling (w : Word) : Text :=
  '-' :: '-' :: w.name ++
    match w.value? with
    | some value => '=' :: value
    | none => []

/-- The values given so far with those of one more word. -/
def put (a : Arguments) : Word → Arguments
  | packageName _ value => { a with packageName := some value }
  | glob pattern => { a with glob := some pattern }
  | config path => { a with config := some path }
  | exclude globs =>
    { a with exclude := some (a.exclude.getD [] ++ Text.splitOn ',' ([','].intercalate globs)) }
  | outputFormat format => { a with outputFormat := some format }
  | flag .node => { a with node := true }
  | flag .time => { a with time := true }
  | flag .noColor => { a with noColor := true }
  | flag .quiet => { a with quiet := true }
  | flag .generateConfig => { a with generateConfig := true }
  | verbose => { a with verbose := min (a.verbose + 1) maxVerbose }

/-- Whether verbosity was asked for after quietness, with one more word. -/
def putLast (last : Bool) : Word → Bool
  | flag .quiet => false
  | verbose => true
  | _ => last

end Word

/-- Whether a switch that can be given once was given. -/
def Arguments.isGiven (a : Arguments) : Switch → Bool
  | .packageName => a.packageName.isSome
  | .glob => a.glob.isSome
  | .config => a.config.isSome
  | .outputFormat => a.outputFormat.isSome
  | .node => a.node
  | .time => a.time
  | .noColor => a.noColor
  | .quiet => a.quiet
  | .generateConfig => a.generateConfig
  | _ => false

variable {a : Arguments} {w : Word} {ws : List Word} {name : Text}

/-! ## Reading one word -/

theorem bne_of_notMem {c : Char} (h : c ∉ name) : ∀ d ∈ name, (d != c) = true := by
  intro d hd
  rw [bne_iff_ne]
  rintro rfl
  exact h hd

theorem splitLong_name (h : '=' ∉ name) : ParseState.splitLong name = (name, none) := by
  have hdrop : name.dropWhile (· != '=') = [] := List.dropWhile_eq_nil_iff.mpr (bne_of_notMem h)
  rw [ParseState.splitLong, hdrop]

theorem splitLong_value (h : '=' ∉ name) (value : Text) :
    ParseState.splitLong (name ++ '=' :: value) = (name, some value) := by
  have hname := bne_of_notMem h
  have hdrop : (name ++ '=' :: value).dropWhile (· != '=') = '=' :: value := by
    rw [List.dropWhile_append_of_pos hname, List.dropWhile_cons_of_neg (by decide)]
  have htake : (name ++ '=' :: value).takeWhile (· != '=') = name := by
    rw [List.takeWhile_append_of_pos hname, List.takeWhile_cons_of_neg (by decide),
      List.append_nil]
  rw [ParseState.splitLong, hdrop, htake]

theorem of_mem_longNames :
    ∀ entry ∈ Switch.longNames, '=' ∉ entry.1 ∧ entry.1 ≠ [] := by
  decide

theorem ofLong?_name (w : Word) : Switch.ofLong? w.name = some w.switch := by
  cases w with
  | packageName camel value => cases camel <;> rfl
  | glob pattern => rfl
  | config path => rfl
  | exclude globs => rfl
  | outputFormat format => rfl
  | flag f => cases f <;> rfl
  | verbose => rfl

theorem takesValue_switch (w : Word) : w.switch.takesValue = w.value?.isSome := by
  cases w with
  | packageName camel value => rfl
  | glob pattern => rfl
  | config path => rfl
  | exclude globs => rfl
  | outputFormat format => rfl
  | flag f => cases f <;> rfl
  | verbose => rfl

theorem of_name (w : Word) : '=' ∉ w.name ∧ w.name ≠ [] := by
  obtain ⟨before, after, hnames, -⟩ := List.lookup_eq_some_iff.mp (ofLong?_name w)
  refine of_mem_longNames (w.name, w.switch) ?_
  rw [hnames]
  exact List.mem_append_right _ List.mem_cons_self

def settled (a : Arguments) (last : Bool) : ParseState :=
  { arguments := a, verboseLast := last }

theorem read_spelling_eq (a : Arguments) (last : Bool) (w : Word) :
    (settled a last).read w.spelling =
      match w.value? with
      | some value => (settled a last).setValue w.switch value
      | none => (settled a last).setFlag w.switch true := by
  obtain ⟨hequals, hname⟩ := of_name w
  have hlong := ofLong?_name w
  have htakes := takesValue_switch w
  have hread : ∀ body, body ≠ [] →
      (settled a last).read ('-' :: '-' :: body) = (settled a last).readLong body := by
    intro body hbody
    obtain ⟨c, more, rfl⟩ := List.exists_cons_of_ne_nil hbody
    rfl
  rw [Word.spelling]
  cases hvalue : w.value? with
  | none =>
    rw [hvalue] at htakes
    rw [List.append_nil, hread w.name hname, ParseState.readLong, splitLong_name hequals]
    simp only [hlong, htakes]
    rfl
  | some value =>
    rw [hvalue] at htakes
    have hbody : w.name ++ '=' :: value ≠ [] := by simp
    change (settled a last).read ('-' :: '-' :: (w.name ++ '=' :: value)) = _
    rw [hread _ hbody, ParseState.readLong, splitLong_value hequals]
    simp only [hlong, htakes]
    rfl

/-- All that a word can do: its switch was given, or it names no file, or its value is put in. -/
theorem read_spelling (a : Arguments) (last : Bool) (w : Word) :
    (settled a last).read w.spelling =
      if a.isGiven w.switch then .error (.usage (.repeated w.switch))
      else if w = .config [] then .error (.usage (.missingValue .config))
      else .ok (settled (w.put a) (w.putLast last)) := by
  rw [read_spelling_eq]
  cases w with
  | packageName camel value => rfl
  | glob pattern => rfl
  | config path =>
    obtain ⟨dir, packageName, node, time, glob, exclude, config⟩ := a
    cases config with
    | some old => rfl
    | none =>
      cases path with
      | nil => rfl
      | cons c path => rfl
  | exclude globs => rfl
  | outputFormat format =>
    obtain ⟨dir, packageName, node, time, glob, exclude, config, outputFormat⟩ := a
    cases outputFormat with
    | some old => rfl
    | none =>
      cases format with
      | human => rfl
      | json => rfl
      | plain => rfl
  | flag f =>
    cases f with
    | node => rfl
    | time => rfl
    | noColor => rfl
    | quiet => rfl
    | generateConfig => rfl
  | verbose => rfl

/-! ## Reading a row of words -/

/-- The values that a row of words gives. -/
def said (ws : List Word) : Arguments :=
  ws.foldl Word.put {}

def singles (ws : List Word) : List Switch :=
  (ws.map Word.switch).filter Switch.isSingle

/-- Whether no switch is repeated that can be given once, and no empty file name is given. -/
def IsReadable (ws : List Word) : Prop :=
  (singles ws).Nodup ∧ Word.config [] ∉ ws

theorem said_concat (ws : List Word) (w : Word) : said (ws ++ [w]) = w.put (said ws) := by
  rw [said, List.foldl_append]
  rfl

theorem mem_singles_iff {switch : Switch} :
    switch ∈ singles ws ↔ switch.isSingle = true ∧ ∃ w ∈ ws, w.switch = switch := by
  rw [singles, List.mem_filter, List.mem_map, and_comm]

theorem isGiven_put (a : Arguments) (w : Word) (switch : Switch) :
    (w.put a).isGiven switch =
      if w.switch = switch ∧ switch.isSingle = true then true else a.isGiven switch := by
  cases w with
  | packageName camel value => cases switch <;> rfl
  | glob pattern => cases switch <;> rfl
  | config path => cases switch <;> rfl
  | exclude globs => cases switch <;> rfl
  | outputFormat format => cases switch <;> rfl
  | flag f => cases f <;> cases switch <;> rfl
  | verbose => cases switch <;> rfl

theorem isGiven_said_iff (ws : List Word) (switch : Switch) :
    (said ws).isGiven switch = true ↔ switch ∈ singles ws := by
  rw [mem_singles_iff]
  induction ws using List.reverseRecOn with
  | nil =>
    cases switch
    all_goals simp [said, Arguments.isGiven]
  | append_singleton ws w ih =>
    rw [said_concat, isGiven_put]
    split
    · rename_i h
      exact iff_of_true rfl ⟨h.2, w, by simp, h.1⟩
    · rename_i h
      rw [ih]
      simp only [List.mem_append, List.mem_singleton, or_and_right, exists_or, exists_eq_left]
      constructor
      · rintro ⟨hsingle, hw⟩
        exact ⟨hsingle, .inl hw⟩
      · rintro ⟨hsingle, hw | hw⟩
        · exact ⟨hsingle, hw⟩
        · exact absurd ⟨hw, hsingle⟩ h

theorem singles_concat (ws : List Word) (w : Word) :
    singles (ws ++ [w]) = singles ws ++ if w.switch.isSingle then [w.switch] else [] := by
  rw [singles, List.map_append, List.filter_append, singles, List.map_singleton,
    List.filter_cons, List.filter_nil]

theorem nodup_singles_concat_iff :
    (singles (ws ++ [w])).Nodup ↔ (singles ws).Nodup ∧ w.switch ∉ singles ws := by
  rw [singles_concat]
  split
  · rw [← List.concat_eq_append, List.nodup_concat, and_comm]
  · rename_i hsingle
    have hnot : w.switch ∉ singles ws := fun hmem => hsingle (mem_singles_iff.mp hmem).1
    rw [List.append_nil]
    exact (and_iff_left hnot).symm

theorem isReadable_concat_iff :
    IsReadable (ws ++ [w]) ↔ IsReadable ws ∧ w.switch ∉ singles ws ∧ w ≠ .config [] := by
  rw [IsReadable, nodup_singles_concat_iff, List.mem_append, List.mem_singleton, not_or,
    IsReadable, eq_comm (b := w)]
  constructor
  · rintro ⟨⟨hws, hnew⟩, hconfig, hw⟩
    exact ⟨⟨hws, hconfig⟩, hnew, hw⟩
  · rintro ⟨⟨hws, hconfig⟩, hnew, hw⟩
    exact ⟨⟨hws, hnew⟩, hconfig, hw⟩

/-- A row of words is read as the values it gives, or refused, and that depends on nothing else
than whether a word comes twice or names no file. -/
theorem foldlM_read_spelling (ws : List Word) :
    (IsReadable ws ∧ ∃ last, (ws.map Word.spelling).foldlM ParseState.read {} =
      .ok (settled (said ws) last)) ∨
    ¬ IsReadable ws ∧ ∃ e, (ws.map Word.spelling).foldlM ParseState.read {} =
      .error (.usage e) := by
  induction ws using List.reverseRecOn with
  | nil => exact .inl ⟨⟨List.nodup_nil, List.not_mem_nil⟩, false, rfl⟩
  | append_singleton ws w ih =>
    rw [isReadable_concat_iff, List.map_append, List.foldlM_append, List.map_singleton]
    rcases ih with ⟨hreadable, last, hread⟩ | ⟨hnot, e, hread⟩
    · rw [hread]
      change _ ∧ (∃ last', (settled (said ws) last).read w.spelling >>= pure = _) ∨
        _ ∧ ∃ e, (settled (said ws) last).read w.spelling >>= pure = _
      rw [bind_pure, read_spelling, said_concat]
      by_cases hgiven : (said ws).isGiven w.switch = true
      · rw [if_pos hgiven]
        have hmem := (isGiven_said_iff ws w.switch).mp hgiven
        exact .inr ⟨fun h => h.2.1 hmem, _, rfl⟩
      · rw [if_neg hgiven]
        have hmem := mt (isGiven_said_iff ws w.switch).mpr hgiven
        by_cases hconfig : w = .config []
        · rw [if_pos hconfig]
          exact .inr ⟨fun h => h.2.2 hconfig, _, rfl⟩
        · rw [if_neg hconfig]
          exact .inl ⟨⟨hreadable, hmem, hconfig⟩, _, rfl⟩
    · rw [hread]
      exact .inr ⟨fun h => hnot h.1, e, rfl⟩

/-! ## Command lines of words -/

/-- Whether arguments end a command line that has words before them: with a lone `--` and the
folder, if there is one, or with nothing if there is none. -/
def Closes (dir : Option Text) (closing : List Text) : Prop :=
  closing = "--".toList :: dir.toList ∨ dir = none ∧ closing = []

variable {dir : Option Text} {closing : List Text}

theorem dir_said (ws : List Word) : (said ws).dir = none := by
  induction ws using List.reverseRecOn with
  | nil => rfl
  | append_singleton ws w ih =>
    rw [said_concat, ← ih]
    cases w with
    | flag f => cases f <;> rfl
    | _ => rfl

theorem isGiven_flag_iff (ws : List Word) (f : Flag) :
    (said ws).isGiven f.switch = true ↔ .flag f ∈ ws := by
  have hsingle : f.switch.isSingle = true := by cases f <;> rfl
  rw [isGiven_said_iff, mem_singles_iff]
  constructor
  · rintro ⟨-, w, hw, hswitch⟩
    cases w with
    | flag g =>
      have hflag : g = f := by
        revert hswitch
        cases g <;> cases f <;> decide
      exact hflag ▸ hw
    | _ => cases f <;> cases hswitch
  · intro hw
    exact ⟨hsingle, _, hw, rfl⟩

theorem verbose_said (ws : List Word) : (said ws).verbose = min (ws.count .verbose) maxVerbose := by
  induction ws using List.reverseRecOn with
  | nil => rfl
  | append_singleton ws w ih =>
    rw [said_concat, List.count_append, List.count_singleton]
    cases w with
    | verbose =>
      change min ((said ws).verbose + 1) maxVerbose = min (ws.count .verbose + 1) maxVerbose
      rw [ih]
      omega
    | flag f => cases f <;> exact ih
    | _ => exact ih

theorem verbose_said_pos_iff (ws : List Word) : 0 < (said ws).verbose ↔ .verbose ∈ ws := by
  have hbound : 0 < maxVerbose := by decide
  rw [verbose_said, ← List.count_pos_iff]
  omega

theorem finish_closing (hclosing : Closes dir closing) (hdir : a.dir = none) (last : Bool) :
    (closing.foldlM ParseState.read (settled a last) >>= ParseState.finish) =
      if dir = some [] then .error (.usage (.missingValue .dir))
      else if a.quiet = true ∧ 0 < a.verbose then
        if last then .error (.usage (.conflict .quiet .verbose))
        else .error (.usage (.conflict .verbose .quiet))
      else .ok { a with dir := dir } := by
  have hsame : { a with dir := none } = a := by rw [← hdir]
  -- without a folder there is nothing that waits, and the exclusion is all that is checked
  have hnone : ∀ trailing, ParseState.finish { settled a last with trailing := trailing } =
      if a.quiet = true ∧ 0 < a.verbose then
        if last then .error (.usage (.conflict .quiet .verbose))
        else .error (.usage (.conflict .verbose .quiet))
      else .ok a := by
    intro trailing
    change (if a.quiet && decide (0 < a.verbose) then _ else _) = _
    simp only [Bool.and_eq_true, decide_eq_true_eq]
    rfl
  rcases hclosing with rfl | ⟨rfl, rfl⟩
  · cases dir with
    | none =>
      rw [if_neg (by simp), hsame]
      exact hnone true
    | some folder =>
      cases folder with
      | nil => rfl
      | cons c folder =>
        rw [if_neg (by simp)]
        change (if a.quiet && decide (0 < a.verbose) then _ else _) = _
        simp only [Bool.and_eq_true, decide_eq_true_eq]
        rfl
  · rw [if_neg (by simp), hsame]
    exact hnone false

/-- A command line of words says what they give, unless a word or the folder is refused or it is
both quiet and verbose. -/
theorem parse_words (hclosing : Closes dir closing) (ws : List Word) :
    (IsReadable ws ∧ dir ≠ some [] ∧ ¬ (.flag .quiet ∈ ws ∧ .verbose ∈ ws) →
      parse (ws.map Word.spelling ++ closing) = .ok { said ws with dir := dir }) ∧
    (¬ (IsReadable ws ∧ dir ≠ some [] ∧ ¬ (.flag .quiet ∈ ws ∧ .verbose ∈ ws)) →
      ∃ e, parse (ws.map Word.spelling ++ closing) = .error (.usage e)) := by
  have hparse : parse (ws.map Word.spelling ++ closing) =
      (ws.map Word.spelling).foldlM ParseState.read {} >>= fun s =>
        closing.foldlM ParseState.read s >>= ParseState.finish := by
    rw [parse, List.foldlM_append, bind_assoc]
  rw [hparse]
  rcases foldlM_read_spelling ws with ⟨hreadable, last, hread⟩ | ⟨hnot, e, hread⟩
  · have hfinish := finish_closing hclosing (dir_said ws) last
    have hexclusive : (said ws).quiet = true ∧ 0 < (said ws).verbose ↔
        .flag .quiet ∈ ws ∧ .verbose ∈ ws :=
      and_congr (isGiven_flag_iff ws .quiet) (verbose_said_pos_iff ws)
    rw [hread]
    change (_ → closing.foldlM ParseState.read (settled (said ws) last) >>= ParseState.finish = _) ∧
      (_ → ∃ e, closing.foldlM ParseState.read (settled (said ws) last) >>= ParseState.finish = _)
    rw [hfinish]
    constructor
    · rintro ⟨-, hdir, hboth⟩
      rw [if_neg hdir, if_neg (mt hexclusive.mp hboth)]
    · intro hrefused
      by_cases hdir : dir = some []
      · rw [if_pos hdir]
        exact ⟨_, rfl⟩
      · have hboth : .flag .quiet ∈ ws ∧ .verbose ∈ ws := by
          by_contra hboth
          exact hrefused ⟨hreadable, hdir, hboth⟩
        rw [if_neg hdir, if_pos (hexclusive.mpr hboth)]
        cases last with
        | true => exact ⟨_, rfl⟩
        | false => exact ⟨_, rfl⟩
  · rw [hread]
    exact ⟨fun h => absurd h.1 hnot, fun _ => ⟨e, rfl⟩⟩

end ImportCensus.CommandLine
