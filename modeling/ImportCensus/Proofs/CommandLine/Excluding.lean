import ImportCensus.Proofs.CommandLine.Words
import ImportCensus.Proofs.Except
/-!
# Arguments that exclude

An argument that excludes, in front of a command line, changes nothing of what the command line
says but what it leaves out: reading goes on as before, beside the globs that are given already.
The argument is cut at its commas, so a glob with a comma is no longer one glob.
-/

namespace ImportCensus.CommandLine

/-- The argument that asks to leave out a glob. -/
def excluding (glob : Text) : Text :=
  "--exclude=" ++ glob

/-- What arguments that exclude ask to leave out: their globs, cut at the commas. -/
def cutGlobs (globs : List Text) : List Text :=
  globs.flatMap (Text.splitOn ',')

def Arguments.excludingFirst (pieces : List Text) (a : Arguments) : Arguments :=
  { a with exclude := some (pieces ++ a.exclude.getD []) }

namespace ParseState

variable {pieces : List Text} {s : ParseState} {switch : Switch} {value argument : Text}

def excludingFirst (pieces : List Text) (s : ParseState) : ParseState :=
  { s with arguments := s.arguments.excludingFirst pieces }

theorem once_excludingFirst (old : Bool) :
    once switch old (s.excludingFirst pieces) =
      (once switch old s).map (excludingFirst pieces) := by
  cases old <;> rfl

theorem nonEmpty_excludingFirst :
    nonEmpty switch value (s.excludingFirst pieces) =
      (nonEmpty switch value s).map (excludingFirst pieces) := by
  cases value <;> rfl

theorem setValue_excludingFirst (s : ParseState) (switch : Switch) (value : Text) :
    (s.excludingFirst pieces).setValue switch value =
      (s.setValue switch value).map (excludingFirst pieces) := by
  cases switch with
  | dir =>
    exact nonEmpty_excludingFirst (s := { s with arguments.dir := some value })
  | packageName =>
    exact once_excludingFirst (s := { s with arguments.packageName := some value }) _
  | glob => exact once_excludingFirst (s := { s with arguments.glob := some value }) _
  | config =>
    change (once _ _ (excludingFirst pieces { s with arguments.config := some value }) >>= _) = _
    rw [once_excludingFirst]
    exact map_bind_of_map fun _ => nonEmpty_excludingFirst
  | exclude =>
    simp only [setValue, excludingFirst, Arguments.excludingFirst, Except.map, Option.getD_some,
      List.append_assoc]
  | outputFormat =>
    change (once _ _ (s.excludingFirst pieces) >>= _) = _
    rw [once_excludingFirst]
    refine map_bind_of_map fun s' => ?_
    rw [nonEmpty_excludingFirst]
    refine map_bind_of_map fun s' => ?_
    cases OutputFormat.ofName? value <;> rfl
  | _ => rfl

theorem setFlag_excludingFirst (s : ParseState) (switch : Switch) (long : Bool) :
    (s.excludingFirst pieces).setFlag switch long =
      (s.setFlag switch long).map (excludingFirst pieces) := by
  cases switch with
  | node => exact once_excludingFirst (s := { s with arguments.node := true }) _
  | time => exact once_excludingFirst (s := { s with arguments.time := true }) _
  | noColor => exact once_excludingFirst (s := { s with arguments.noColor := true }) _
  | quiet =>
    exact once_excludingFirst (s := { s with arguments.quiet := true, verboseLast := false }) _
  | generateConfig =>
    exact once_excludingFirst (s := { s with arguments.generateConfig := true }) _
  | _ => rfl

theorem settle_excludingFirst (s : ParseState) :
    (s.excludingFirst pieces).settle = s.settle.map (excludingFirst pieces) := by
  obtain ⟨arguments, pending, trailing, hasDir, verboseLast⟩ := s
  rcases pending with - | ⟨switch, - | value⟩
  · rfl
  · rfl
  · exact setValue_excludingFirst ⟨arguments, none, trailing, hasDir, verboseLast⟩ switch value

theorem giveValue_excludingFirst (s : ParseState) (switch : Switch) (value : Text) :
    (s.excludingFirst pieces).giveValue switch value =
      (s.giveValue switch value).map (excludingFirst pieces) := by
  rw [giveValue, settle_excludingFirst]
  exact map_bind_of_map fun s => setValue_excludingFirst s switch value

theorem giveFlag_excludingFirst (s : ParseState) (switch : Switch) (long : Bool) :
    (s.excludingFirst pieces).giveFlag switch long =
      (s.giveFlag switch long).map (excludingFirst pieces) := by
  rw [giveFlag, settle_excludingFirst]
  exact map_bind_of_map fun s => setFlag_excludingFirst s switch long

theorem await_excludingFirst (s : ParseState) (switch : Switch) :
    (s.excludingFirst pieces).await switch = (s.await switch).map (excludingFirst pieces) := by
  rw [await, settle_excludingFirst]
  exact map_bind_of_map fun _ => rfl

theorem readLong_excludingFirst (s : ParseState) (body : Text) :
    (s.excludingFirst pieces).readLong body = (s.readLong body).map (excludingFirst pieces) := by
  rcases hsplit : splitLong body with ⟨name, value⟩
  simp only [readLong, hsplit]
  cases Switch.ofLong? name with
  | none => rfl
  | some switch =>
    cases value with
    | some value =>
      dsimp only
      split
      · exact giveValue_excludingFirst s switch value
      · rfl
    | none =>
      dsimp only
      split
      · exact await_excludingFirst s switch
      · exact giveFlag_excludingFirst s switch true

theorem readShort_excludingFirst (s : ParseState) (letters : Text) :
    (s.excludingFirst pieces).readShort letters =
      (s.readShort letters).map (excludingFirst pieces) := by
  induction letters generalizing s with
  | nil => rfl
  | cons c rest ih =>
    simp only [readShort]
    cases Switch.ofShort? c with
    | none => rfl
    | some switch =>
      dsimp only
      split
      · split
        · exact await_excludingFirst s switch
        · exact giveValue_excludingFirst s switch _
        · exact giveValue_excludingFirst s switch _
      · rw [giveFlag_excludingFirst]
        exact map_bind_of_map ih

theorem readPlain_excludingFirst (s : ParseState) (argument : Text) :
    (s.excludingFirst pieces).readPlain argument =
      (s.readPlain argument).map (excludingFirst pieces) := by
  unfold readPlain
  change (if s.hasDir = true then _ else _) = _
  split
  · rfl
  · rw [settle_excludingFirst]
    exact map_bind_of_map fun _ => rfl

theorem readWord_excludingFirst (s : ParseState) (argument : Text) :
    (s.excludingFirst pieces).readWord argument =
      (s.readWord argument).map (excludingFirst pieces) := by
  obtain ⟨arguments, pending, trailing, hasDir, verboseLast⟩ := s
  rcases pending with - | ⟨switch, - | value⟩
  · exact readPlain_excludingFirst _ argument
  · rfl
  · exact readPlain_excludingFirst _ argument

/-- Reading goes on as before, beside the globs that are given already. -/
theorem read_excludingFirst (s : ParseState) (argument : Text) :
    (s.excludingFirst pieces).read argument = (s.read argument).map (excludingFirst pieces) := by
  unfold read
  change (if s.trailing = true then _ else _) = _
  split
  · exact readPlain_excludingFirst s argument
  · split
    · rfl
    · exact readLong_excludingFirst s _
    · exact readShort_excludingFirst s _
    · exact readWord_excludingFirst s argument

theorem foldlM_read_excludingFirst (s : ParseState) (arguments : List Text) :
    arguments.foldlM read (s.excludingFirst pieces) =
      (arguments.foldlM read s).map (excludingFirst pieces) := by
  induction arguments generalizing s with
  | nil => rfl
  | cons argument arguments ih =>
    rw [List.foldlM_cons, List.foldlM_cons, read_excludingFirst]
    exact map_bind_of_map ih

theorem finish_excludingFirst (s : ParseState) :
    (s.excludingFirst pieces).finish = s.finish.map (Arguments.excludingFirst pieces) := by
  rw [finish, settle_excludingFirst]
  refine map_bind_of_map fun s => ?_
  change (if (s.arguments.quiet && decide (0 < s.arguments.verbose)) = true then
      if s.verboseLast = true then _ else _ else _) =
    Except.map _ (if _ then if _ then _ else _ else _)
  cases s.arguments.quiet && decide (0 < s.arguments.verbose) with
  | false => rfl
  | true =>
    cases s.verboseLast with
    | false => rfl
    | true => rfl

end ParseState

/-! ## Rows of arguments that exclude -/

variable {globs arguments : List Text} {glob : Text} {a : Arguments}

/-- Values with what a row of arguments excludes in front of what they exclude already. -/
def Arguments.alsoExcluding (globs : List Text) (a : Arguments) : Arguments :=
  globs.foldr (fun glob => Arguments.excludingFirst (Text.splitOn ',' glob)) a

theorem read_excluding (glob : Text) :
    ParseState.read {} (excluding glob) =
      .ok (ParseState.excludingFirst (Text.splitOn ',' glob) {}) := by
  have hspelling : (Word.exclude [glob]).spelling = excluding glob := by
    simp only [Word.spelling, Word.value?, List.intercalate_singleton]
    rfl
  rw [← hspelling]
  refine (read_spelling {} false (.exclude [glob])).trans ?_
  change Except.ok (settled { exclude := some ([] ++ Text.splitOn ',' ([','].intercalate [glob])) }
    false) = _
  rw [List.intercalate_singleton, List.nil_append, ParseState.excludingFirst,
    Arguments.excludingFirst, Option.getD_none, List.append_nil]
  rfl

theorem parse_excluding (globs arguments : List Text) :
    parse (globs.map excluding ++ arguments) =
      (parse arguments).map (Arguments.alsoExcluding globs) := by
  induction globs with
  | nil =>
    rw [List.map_nil, List.nil_append]
    cases parse arguments <;> rfl
  | cons glob globs ih =>
    have hfirst : parse (excluding glob :: (globs.map excluding ++ arguments)) =
        (parse (globs.map excluding ++ arguments)).map
          (Arguments.excludingFirst (Text.splitOn ',' glob)) := by
      rw [parse, List.foldlM_cons, read_excluding]
      change (List.foldlM _ (ParseState.excludingFirst _ {}) _ >>= _) = _
      rw [ParseState.foldlM_read_excludingFirst]
      exact map_bind_of_map ParseState.finish_excludingFirst
    rw [List.map_cons, List.cons_append, hfirst, ih]
    cases parse arguments <;> rfl

theorem alsoExcluding_eq (globs : List Text) (a : Arguments) :
    a.alsoExcluding globs = { a with exclude := (a.alsoExcluding globs).exclude } := by
  induction globs with
  | nil => rfl
  | cons glob globs ih => exact congrArg (Arguments.excludingFirst (Text.splitOn ',' glob)) ih

/-- What does not look at the globs to exclude is the same with more of them. -/
theorem eq_of_alsoExcluding {α : Type} (globs : List Text) (a : Arguments) (of : Arguments → α)
    (hof : ∀ a exclude, of { a with exclude := exclude } = of a) :
    of (a.alsoExcluding globs) = of a :=
  (congrArg of (alsoExcluding_eq globs a)).trans (hof a _)

theorem getD_exclude_alsoExcluding (globs : List Text) (a : Arguments) :
    (a.alsoExcluding globs).exclude.getD [] = cutGlobs globs ++ a.exclude.getD [] := by
  induction globs with
  | nil => rfl
  | cons glob globs ih =>
    change Text.splitOn ',' glob ++ (a.alsoExcluding globs).exclude.getD [] = _
    rw [ih, cutGlobs, cutGlobs, List.flatMap_cons, List.append_assoc]

theorem cutGlobs_eq_self (h : ∀ glob ∈ globs, ',' ∉ glob) : cutGlobs globs = globs := by
  induction globs with
  | nil => rfl
  | cons glob globs ih =>
    rw [List.forall_mem_cons] at h
    rw [cutGlobs, List.flatMap_cons, Text.splitOn_of_not_mem h.1]
    exact congrArg _ (ih h.2)

end ImportCensus.CommandLine
