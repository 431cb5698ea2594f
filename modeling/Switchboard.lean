import Switchboard.Fault.Kind
import Switchboard.Journal.Configure
import Switchboard.Relay.Gather
import Switchboard.Relay.Setup
import Switchboard.Shape
import Switchboard.Fault.Made
import Switchboard.Data.Json
import Switchboard.Journal.Note
import Switchboard.Relay.Recording
import Switchboard.Relay.Request
import Switchboard.Proofs.Health.Calls
import Switchboard.Proofs.Spending.Closing
import Switchboard.Proofs.Relay.Counters
import Switchboard.Proofs.Relay.Exclusion
import Switchboard.Proofs.Settings.Precedence
import Switchboard.Proofs.Journal.Outlets
import Switchboard.Proofs.Settings.Refusal
import Switchboard.Proofs.Spending.Overage
import Switchboard.Proofs.Relay.WriteBack
import Switchboard.Proofs.Health.Backoff
import Switchboard.Proofs.Binary64.Order
import Switchboard.Proofs.Routing.Ranking
import Switchboard.Proofs.Relay.Abort
import Switchboard.Proofs.Settings.RoundTrip
import Switchboard.Proofs.Routing.Fallbacks
import Switchboard.Proofs.Relay.Billing
import Switchboard.Proofs.Settings.Overlay
import Switchboard.Proofs.Settings.Reordering
import Switchboard.Proofs.Settings.Override
import Switchboard.Proofs.Health.Latency
import Switchboard.Proofs.Text.Lowercase
import Switchboard.Proofs.Routing.UseCases
import Switchboard.Proofs.Settings.TextSettings
import Switchboard.Proofs.Health.Recovery
import Switchboard.Proofs.Routing.Recommended
import Switchboard.Proofs.Journal.HalfSetUp
import Switchboard.Proofs.Journal.FileTrouble
import Switchboard.Proofs.Catalog.Index
import Switchboard.Proofs.Relay.Checking
import Switchboard.Proofs.Health.Alerts
import Switchboard.Proofs.Journal.Delivery
