import Gatehouse.Config.Loader
import Gatehouse.Logging
import Gatehouse.Scenario
import Gatehouse.Proofs.Permission.Canonical
import Gatehouse.Proofs.Permission.Reading
import Gatehouse.Proofs.Permission.Implication
import Gatehouse.Proofs.Clearance.Filing
import Gatehouse.Proofs.FirstError
import Gatehouse.Proofs.Clearance.Judgement
import Gatehouse.Proofs.Realm.Loading
import Gatehouse.Proofs.Realm.Interference
import Gatehouse.Proofs.Realm.Eviction
import Gatehouse.Proofs.Clearance.Account
import Gatehouse.Proofs.Clearance.Supply
import Gatehouse.Proofs.Site.Keeping
import Gatehouse.Proofs.Site.Steady
import Gatehouse.Proofs.Config.Validation
import Gatehouse.Proofs.Realm.Placement
import Gatehouse.Proofs.Manager.Checks
import Gatehouse.Proofs.Manager.Setup
import Gatehouse.Proofs.Manager.Configured
import Gatehouse.Proofs.Scenario.Seclusion
import Gatehouse.Proofs.Scenario.Decisions
import Gatehouse.Proofs.Authorizer.Outcomes
import Gatehouse.Proofs.Authorizer.Delivery
import Gatehouse.Proofs.Authorizer.Clearing
import Gatehouse.Proofs.Authorizer.Wiring
import Gatehouse.Proofs.Authorizer.Sharing
import Gatehouse.Proofs.Manager.Chronicle
import Gatehouse.Proofs.Manager.Recall
import Gatehouse.Proofs.Manager.Notification
import Gatehouse.Proofs.Config.Layering
import Gatehouse.Proofs.Bus.Standing
import Gatehouse.Proofs.Site.Undisturbed
import Gatehouse.Proofs.Authorizer.Downward
import Gatehouse.Proofs.Toml.Text
import Gatehouse.Proofs.Toml.Line
import Gatehouse.Proofs.Toml.Tree
import Gatehouse.Proofs.Config.RoundTrip
import Gatehouse.Proofs.Config.DirectReading
import Gatehouse.Proofs.Config.Repetition
import Gatehouse.Proofs.Bus.Reentry
import Gatehouse.Proofs.Document.Reading
import Gatehouse.Proofs.Document.Uuid
import Gatehouse.Proofs.Document.Events
import Gatehouse.Proofs.Document.DataType
import Gatehouse.Proofs.FirstAppearance
import Gatehouse.Proofs.Identity
import Gatehouse.Proofs.Clearance.Texts
import Gatehouse.Proofs.Config.FirstViolation
import Gatehouse.Proofs.Config.Loading
import Gatehouse.Proofs.Fault
