import ImportCensus.Main
import ImportCensus.Program
import ImportCensus.Proofs.Collection.Schedule
import ImportCensus.Proofs.Config.Saving
import ImportCensus.Proofs.Discovery.BuiltIn
import ImportCensus.Proofs.Discovery.Excluding
import ImportCensus.Proofs.Statement.Buffer
import ImportCensus.Proofs.Statement.Gathering
import ImportCensus.Proofs.Statement.KeywordStarts
import ImportCensus.Proofs.Statement.LeftmostLongest
import ImportCensus.Proofs.Statement.RoundTrip
import ImportCensus.Proofs.Statement.OtherPackages
import ImportCensus.Proofs.Text.Trimming
import ImportCensus.Proofs.Console.Result
import ImportCensus.Proofs.Console.JsonLines
import ImportCensus.Proofs.Statement.Keywordless
import ImportCensus.Proofs.Config.Partial
import ImportCensus.Proofs.Config.Overriding
import ImportCensus.Proofs.ImportSet.History
import ImportCensus.Proofs.Config.Resolution
import ImportCensus.Proofs.Program.Setup
import ImportCensus.Proofs.FileTree.Frame
import ImportCensus.Proofs.Program.Outcome
import ImportCensus.Proofs.Statement.Spanning
import ImportCensus.Proofs.Statement.LineEnds
import ImportCensus.Proofs.Statement.Narrowing
import ImportCensus.Proofs.Text.Cutting
import ImportCensus.Proofs.Text.Lossy
import ImportCensus.Proofs.Glob.Shortening
import ImportCensus.Proofs.Discovery.Refusal
import ImportCensus.Proofs.CommandLine.RoundTrip
import ImportCensus.Proofs.Discovery.Counting
import ImportCensus.Proofs.Number.Decimal
import ImportCensus.Proofs.Number.Dyadic
import ImportCensus.Proofs.Number.Size
import ImportCensus.Proofs.CommandLine.Excluding
import ImportCensus.Proofs.Number.Duration
import ImportCensus.Proofs.Program.Excluding
