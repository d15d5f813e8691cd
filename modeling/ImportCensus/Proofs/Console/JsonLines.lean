import ImportCensus.Console
import ImportCensus.Proofs.Json.RoundTrip
import Mathlib.Data.List.Forall2
/-!
# What is printed as JSON

The result as JSON is one line, whatever the symbols, and what it says is the whole census: its
symbols in their order, the numbers of files and the time.  Notes and suggestions are lines of
their own, each of them with the message as it was given.
-/

namespace ImportCensus.Console

open Json (Datum decode)

variable {c : Console} {census : Census} {elapsed : Number.Duration}
  {printed printed' : Text} {data data' : List Datum}

/-- Whether a printed text consists of lines, each of which says one value. -/
def IsJsonLines (printed : Text) (data : List Datum) : Prop :=
  ∃ lines : List Text, printed = lines.flatMap (· ++ ['\n']) ∧
    List.Forall₂ (fun line d => '\n' ∉ line ∧ '\r' ∉ line ∧ decode line = some d) lines data

theorem isJsonLines_nil : IsJsonLines [] [] :=
  ⟨[], rfl, .nil⟩

theorem IsJsonLines.append (h : IsJsonLines printed data) (h' : IsJsonLines printed' data') :
    IsJsonLines (printed ++ printed') (data ++ data') := by
  obtain ⟨lines, rfl, hlines⟩ := h
  obtain ⟨lines', rfl, hlines'⟩ := h'
  exact ⟨lines ++ lines', by rw [List.flatMap_append], List.rel_append hlines hlines'⟩

/-- A line end is a control character, so none is in a written value. -/
theorem lineEnds_not_mem_render (v : Json.Value) :
    '\n' ∉ Json.render v ∧ '\r' ∉ Json.render v := by
  constructor
  · intro h
    exact absurd (Json.le_toNat_of_mem_render v _ h) (by decide)
  · intro h
    exact absurd (Json.le_toNat_of_mem_render v _ h) (by decide)

theorem isJsonLines_render (v : Json.Value) :
    IsJsonLines (Json.render v ++ ['\n']) [v.datum] := by
  obtain ⟨hfeed, hreturn⟩ := lineEnds_not_mem_render v
  refine ⟨[Json.render v], by simp, .cons ⟨hfeed, hreturn, Json.decode_render v⟩ .nil⟩

/-! ## Notes -/

def noteDatum (time : Text) (severity : Severity) (message : Text) : Datum :=
  .object
    [("level", .text severity.key), ("message", .text message), ("timestamp", .text time),
      ("type", .text "message")]

def suggestionDatum (message : Text) : Datum :=
  .object [("message", .text message), ("type", .text "suggestion")]

theorem isJsonLines_note (hjson : c.format = .json) (time : Text) (severity : Severity)
    (message : Text) :
    IsJsonLines (c.note time severity message)
      (if c.shows severity then [noteDatum time severity message] else []) := by
  have hdatum : (noteObject time severity message).datum = noteDatum time severity message := by
    simp only [noteObject, Json.Value.datum, Json.memberData, noteDatum]
  rw [note]
  split
  · rw [noteText, hjson, ← hdatum]
    exact isJsonLines_render _
  · exact isJsonLines_nil

theorem isJsonLines_suggestion (hjson : c.format = .json) (message : Text) :
    IsJsonLines (c.suggestionText message ++ ['\n']) [suggestionDatum message] := by
  have hdatum : (suggestionObject message).datum = suggestionDatum message := by
    simp only [suggestionObject, Json.Value.datum, Json.memberData, suggestionDatum]
  rw [suggestionText, hjson, ← hdatum]
  exact isJsonLines_render _

theorem isJsonLines_failure (hjson : c.format = .json) (time : Text) (e : Error) :
    IsJsonLines (c.failure time e)
      (noteDatum time .error e.userMessage :: (e.suggestion?.map suggestionDatum).toList) := by
  have hnote := isJsonLines_note hjson time .error e.userMessage
  rw [if_pos (show c.shows .error = true from rfl)] at hnote
  rw [failure]
  cases e.suggestion? with
  | none => exact hnote.append isJsonLines_nil
  | some message => exact hnote.append (isJsonLines_suggestion hjson message)

/-! ## The result -/

theorem itemData_map_text (symbols : List Text) :
    Json.itemData (symbols.map Json.Value.text) = symbols.map Datum.text := by
  induction symbols with
  | nil => rfl
  | cons symbol symbols ih =>
    rw [List.map_cons, Json.itemData, ih, List.map_cons]
    rfl

theorem decode_result (hjson : c.format = .json) (hmillis : elapsed.millis < 2 ^ 64) :
    decode (c.result census elapsed) = some (.object
      [("duration_ms", .number { digits := elapsed.millis }),
        ("files_failed", .number { digits := census.filesFailed }),
        ("files_scanned", .number { digits := census.filesScanned }),
        ("imports", .list (census.imports.members.map .text))]) := by
  have hwhole : elapsed.millis % millisBound = elapsed.millis := Nat.mod_eq_of_lt hmillis
  rw [result, hjson]
  rw [Json.decode_render]
  simp only [resultObject, Json.Value.datum, Json.memberData, itemData_map_text, hwhole]

/-- As JSON the result of a run below 2⁶⁴ milliseconds is one line that says all of the census, and
its symbols with commas between them are the plain result.  Notes, errors and suggestions are lines
too, with the messages as they are. -/
theorem json_lossless (hjson : c.format = .json) (hmillis : elapsed.millis < 2 ^ 64)
    (census : Census) :
    ('\n' ∉ c.result census elapsed ∧ '\r' ∉ c.result census elapsed ∧
      decode (c.result census elapsed) = some (.object
        [("duration_ms", .number { digits := elapsed.millis }),
          ("files_failed", .number { digits := census.filesFailed }),
          ("files_scanned", .number { digits := census.filesScanned }),
          ("imports", .list (census.imports.members.map .text))])) ∧
    (∀ plain : Console, plain.format = .plain →
      plain.result census elapsed = [','].intercalate census.imports.members) ∧
    (∀ time severity message, IsJsonLines (c.note time severity message)
      (if c.shows severity then [noteDatum time severity message] else [])) ∧
    ∀ time e, IsJsonLines (c.failure time e)
      (noteDatum time .error e.userMessage :: (e.suggestion?.map suggestionDatum).toList) := by
  have hresult : c.result census elapsed = Json.render (resultObject census elapsed) := by
    rw [result, hjson]
  obtain ⟨hfeed, hreturn⟩ := lineEnds_not_mem_render (resultObject census elapsed)
  refine ⟨⟨?_, ?_, decode_result hjson hmillis⟩, ?_, isJsonLines_note hjson,
    isJsonLines_failure hjson⟩
  · rw [hresult]
    exact hfeed
  · rw [hresult]
    exact hreturn
  · intro plain hplain
    rw [result, hplain]
    rfl

/-- A symbol with a line end, a quote and a control character. -/
theorem json_lossless_brokenSymbol :
    (make .json false 0 false).format = .json ∧ (Number.Duration.ofParts 1 12000000).millis < 2 ^ 64 ∧
    '\n' ∉ (make .json false 0 false).result
      { imports := ImportSet.ofList ["a\n\"b\x01\\"], filesScanned := 2, filesFailed := 1 }
      (Number.Duration.ofParts 1 12000000) ∧
    decode ((make .json false 0 false).result
      { imports := ImportSet.ofList ["a\n\"b\x01\\"], filesScanned := 2, filesFailed := 1 }
      (Number.Duration.ofParts 1 12000000)) = some (.object
        [("duration_ms", .number { digits := 1012 }), ("files_failed", .number { digits := 1 }),
          ("files_scanned", .number { digits := 2 }),
          ("imports", .list [.text "a\n\"b\x01\\"])]) := by
  have hjson : (make .json false 0 false).format = .json := rfl
  have hmillis : (Number.Duration.ofParts 1 12000000).millis < 2 ^ 64 := by decide
  obtain ⟨⟨hfeed, -, hdecode⟩, -⟩ := json_lossless hjson hmillis
    { imports := ImportSet.ofList ["a\n\"b\x01\\"], filesScanned := 2, filesFailed := 1 }
  exact ⟨hjson, hmillis, hfeed, hdecode⟩

end ImportCensus.Console
