import RequestRouting.Files.Disk
import RequestRouting.Main
import RequestRouting.Rule.Trace
import RequestRouting.Url.Matcher
import RequestRouting.Proofs.Comparison
import RequestRouting.Proofs.Condition.Branches
import RequestRouting.Proofs.Condition.Constraint
import RequestRouting.Proofs.Condition.Effective
import RequestRouting.Proofs.Condition.Grammar
import RequestRouting.Proofs.Condition.Laws
import RequestRouting.Proofs.Condition.Trimming
import RequestRouting.Proofs.Config.Loading
import RequestRouting.Proofs.Config.Validity
import RequestRouting.Proofs.Dispatch
import RequestRouting.Proofs.Extraction
import RequestRouting.Proofs.Growth
import RequestRouting.Proofs.Knowledge.Savepoints
import RequestRouting.Proofs.Modes
import RequestRouting.Proofs.Priority
import RequestRouting.Proofs.Protocol
import RequestRouting.Proofs.Routing
import RequestRouting.Proofs.Rule.Bind
import RequestRouting.Proofs.Rule.Patterns
import RequestRouting.Proofs.Session.Captures
import RequestRouting.Proofs.Session.Dispatch
import RequestRouting.Proofs.Unmatched
import RequestRouting.Proofs.Url.Escaping
import RequestRouting.Proofs.Url.Grammar
import RequestRouting.Proofs.Url.Language
import RequestRouting.Proofs.Url.Origin
import RequestRouting.Proofs.Url.PrintFormat
import RequestRouting.Proofs.Url.Query
import RequestRouting.Proofs.Url.Resolution
