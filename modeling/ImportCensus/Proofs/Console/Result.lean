import ImportCensus.Console
import ImportCensus.Proofs.Collection.Report
import ImportCensus.Proofs.Statement.LineFeeds
import ImportCensus.Proofs.Text.Utf8
/-!
# The result on one line

Whether the result of a run without colours stays on one line: it does unless a gathered text
has a line feed within a symbol, and for that a file has to mix line ends.
-/

namespace ImportCensus.Console

open Collection Statement

variable {c : Console} {census : Census} {elapsed : Number.Duration} {package : PackageFilter}
  {jobs : List Job}

theorem result_of_not_colored (h : c.format = .plain ∨ c.format = .human ∧ c.colored = false) :
    c.result census elapsed = census.imports.render := by
  rcases h with h | ⟨h, hcolored⟩
  · simp [result, h]
  · simp [result, h, hcolored]

theorem imports_reportOf :
    (reportOf package jobs).imports =
      importSet package ((jobs.filterMap Job.content?).map Text.decodeLossy) := by
  rw [(describes_reportOf package jobs).imports, importSet, List.flatMap_map]
  rfl

/-- Without colours the result has a line feed exactly if text gathered in one of the files has
one within a symbol, and never if no file mixes line ends. -/
theorem lineFeed_mem_result_iff (h : c.format = .plain ∨ c.format = .human ∧ c.colored = false)
    (package : PackageFilter) (jobs : List Job) (files : Nat) (elapsed : Number.Duration) :
    ('\n' ∈ c.result (Census.ofReport files (reportOf package jobs)) elapsed ↔
      ∃ content ∈ jobs.filterMap Job.content?, ∃ t,
        Fragment.raw t ∈ fragments package (Text.decodeLossy content) ∧ BreaksSymbol t) ∧
    ((∀ content ∈ jobs.filterMap Job.content?, ¬ Text.MixesLineEnds (Text.decodeLossy content)) →
      '\n' ∉ c.result (Census.ofReport files (reportOf package jobs)) elapsed) := by
  have hiff : '\n' ∈ c.result (Census.ofReport files (reportOf package jobs)) elapsed ↔
      ∃ content ∈ jobs.filterMap Job.content?, ∃ t,
        Fragment.raw t ∈ fragments package (Text.decodeLossy content) ∧ BreaksSymbol t := by
    rw [result_of_not_colored h, Census.ofReport, imports_reportOf,
      lineFeed_mem_render_importSet_iff]
    simp only [List.mem_map, exists_exists_and_eq_and]
  refine ⟨hiff, fun hmixes hmem => ?_⟩
  obtain ⟨content, hcontent, t, hfragment, hbreaks⟩ := hiff.mp hmem
  exact hmixes content hcontent (mixesLineEnds_of_breaksSymbol hfragment hbreaks)

/-- Files of which each has line ends of one kind. -/
theorem lineFeed_mem_result_iff_tidy :
    ((Console.make .human false 0 false).format = .plain ∨
      (Console.make .human false 0 false).format = .human ∧
        (Console.make .human false 0 false).colored = false) ∧
    '\n' ∉ (Console.make .human false 0 false).result (Census.ofReport 2 (reportOf none
      [⟨Path.ofText "a.ts", .ok (Text.utf8 "a\r\nexport \x7bc\x7d from 'x'")⟩,
        ⟨Path.ofText "b.ts", .ok (Text.utf8 "b\nexport \x7bc\x7d from 'x'")⟩]))
      (Number.Duration.ofParts 1 0) := by
  have h : (Console.make .human false 0 false).format = .plain ∨
      (Console.make .human false 0 false).format = .human ∧
        (Console.make .human false 0 false).colored = false := by decide
  refine ⟨h, (lineFeed_mem_result_iff h none _ 2 _).2 ?_⟩
  have hlines : Text.lines "a\r\nexport \x7bc\x7d from 'x'" =
      ["a".toList, "export \x7bc\x7d from 'x'".toList] := by decide
  have hlines' : Text.lines "b\nexport \x7bc\x7d from 'x'" =
      ["b".toList, "export \x7bc\x7d from 'x'".toList] := by decide
  simp only [List.filterMap_cons, Job.content?_ok, List.filterMap_nil, List.forall_mem_cons,
    Text.decodeLossy_utf8, ← Text.exists_lineFeed_mem_lines_iff, hlines, hlines']
  decide

/-- A line feed among pairs of carriage return and line feed is kept within a symbol. -/
theorem not_lineFeed_not_mem_result :
    ¬ ∀ (c : Console) (package : PackageFilter) (jobs : List Job) (files : Nat)
      (elapsed : Number.Duration), (c.format = .plain ∨ c.format = .human ∧ c.colored = false) →
        '\n' ∉ c.result (Census.ofReport files (reportOf package jobs)) elapsed := by
  intro h
  apply h (Console.make .plain false 0 false) none
    [⟨Path.ofText "a.ts", .ok (Text.utf8 "a\nb\r\nexport \x7bc\x7d from 'x'")⟩] 1
    (Number.Duration.ofParts 1 0) (Or.inl rfl)
  rw [result_of_not_colored (Or.inl rfl), Census.ofReport, imports_reportOf,
    lineFeed_mem_render_importSet_iff]
  have hgiven : Fragment.raw "a\nb" ∈
      fragments none "a\nb\r\nexport \x7bc\x7d from 'x'" := by decide
  -- The ends are named first: a decision over them would go through every character.
  have hbreaks : BreaksSymbol "a\nb" := by
    refine ⟨"a\nb", List.infix_rfl, by decide, by decide, fun c hc => ?_, fun c hc => ?_⟩
    · obtain rfl : 'a' = c := Option.some.inj hc
      decide
    · obtain rfl : 'b' = c := Option.some.inj hc
      decide
  refine ⟨_, List.mem_singleton_self _, "a\nb", ?_, hbreaks⟩
  rwa [Text.decodeLossy_utf8]

end ImportCensus.Console
