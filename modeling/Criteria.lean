import Criteria.Accumulator.Outline
import Criteria.Accumulator.Replay
import Criteria.Accumulator.Views
import Criteria.Config.Settings
import Criteria.Json.Normal
import Criteria.Metrics.Json
import Criteria.Metrics.Program
import Criteria.Path.Bytes
import Criteria.Predicate.Normal
import Criteria.Predicate.Pattern
import Criteria.Proofs.Attempts
import Criteria.Proofs.Bracketing
import Criteria.Proofs.Finish
import Criteria.Proofs.Growth
import Criteria.Proofs.Handoff
import Criteria.Proofs.Leaves
import Criteria.Proofs.Ledger
import Criteria.Proofs.Locality
import Criteria.Proofs.Markers
import Criteria.Proofs.OneLine
import Criteria.Proofs.Outline
import Criteria.Proofs.Pruning
import Criteria.Proofs.Quoted
import Criteria.Proofs.Readability
import Criteria.Proofs.Reading
import Criteria.Proofs.Recording
import Criteria.Proofs.Refusals
import Criteria.Proofs.Replay
import Criteria.Proofs.Resolution
import Criteria.Proofs.Scopes
import Criteria.Proofs.Settings
import Criteria.Proofs.Totals
import Criteria.Proofs.Truth
import Criteria.Proofs.Watching
import Criteria.Proofs.Wildcards
import Criteria.Query.Basic
import Criteria.Script.Looking
import Criteria.Script.Run
import Criteria.Spec.Json
import Criteria.Text.Value
import Criteria.Toml.Document
