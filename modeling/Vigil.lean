import Vigil.Config.Encoding
import Vigil.Main
import Vigil.Proofs.Chain.Accounting
import Vigil.Proofs.Chain.Scoping
import Vigil.Proofs.Chain.Telling
import Vigil.Proofs.CommandLine.SingleRun
import Vigil.Proofs.Config.Methods
import Vigil.Proofs.Config.Placeholders
import Vigil.Proofs.Config.RoundTrip
import Vigil.Proofs.Config.Validation
import Vigil.Proofs.Http.Sharing
import Vigil.Proofs.Json.Brackets
import Vigil.Proofs.Json.Faithful
import Vigil.Proofs.Json.NormalForm
import Vigil.Proofs.Request.Defaults
import Vigil.Proofs.Request.Flow
import Vigil.Proofs.Request.HeaderRules
import Vigil.Proofs.Request.Misconfiguration
import Vigil.Proofs.Request.Outcome
import Vigil.Proofs.Schedule.Drops
import Vigil.Proofs.Schedule.Handle
import Vigil.Proofs.Schedule.Independence
import Vigil.Proofs.Schedule.Lifecycle
import Vigil.Proofs.Schedule.Protocol
import Vigil.Proofs.Schedule.Shutdown
import Vigil.Proofs.Template.Occurrences
import Vigil.Proofs.Url.Absorbing
import Vigil.Proofs.Url.Merging
