import RandomPrograms.Proofs.Grammar.Nodes
import RandomPrograms.Json.Read
import RandomPrograms.Main
import RandomPrograms.Proofs.Grammar.Vocabulary
import RandomPrograms.Proofs.Generator.Computation
import RandomPrograms.Proofs.Scope.Bindings
import RandomPrograms.Proofs.Generator.Adequacy
import RandomPrograms.Proofs.Generator.Programs
import RandomPrograms.Proofs.Generator.Bodies
import RandomPrograms.Proofs.Generator.Origin
import RandomPrograms.Proofs.Generator.Replay
import RandomPrograms.Proofs.Generator.Tokens
import RandomPrograms.Proofs.Grammar.Decoder
import RandomPrograms.Proofs.Scope.Checker
import RandomPrograms.Proofs.Generator.Counters
import RandomPrograms.Proofs.Generator.Layout
import RandomPrograms.Proofs.Scope.Discipline
import RandomPrograms.Proofs.Generator.Unbounded
import RandomPrograms.Proofs.Generator.Extent
import RandomPrograms.Proofs.Generator.Resumption
import RandomPrograms.Proofs.CommandLine.Generate
import RandomPrograms.Proofs.CommandLine.Documents
import RandomPrograms.Proofs.Json.Spelling
import RandomPrograms.Proofs.Json.Written
import RandomPrograms.Proofs.Json.Accepted
import RandomPrograms.Proofs.Config.RoundTrip
import RandomPrograms.Proofs.Config.Overrides
import RandomPrograms.Proofs.Generator.Depths
import RandomPrograms.Proofs.Generator.Tapering
import RandomPrograms.Proofs.Generator.Lockstep
import RandomPrograms.Proofs.Generator.Settings
import RandomPrograms.Proofs.Scope.Lookup
import RandomPrograms.Proofs.Scope.Lexical
import RandomPrograms.Proofs.Generator.Candidates
import RandomPrograms.Proofs.Config.Validation
import RandomPrograms.Proofs.Generator.LineBreaks
import RandomPrograms.Proofs.Generator.Language
import RandomPrograms.Proofs.Generator.Exhaustion
import RandomPrograms.Proofs.Scope.Picks
import RandomPrograms.Proofs.CommandLine.Statistics
import RandomPrograms.Proofs.Json.ReadBack
