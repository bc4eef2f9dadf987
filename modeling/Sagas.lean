import Sagas.Record.Codec
import Sagas.Simulation.Scenario
import Sagas.Text.Quoted
import Sagas.Proofs.Passage
import Sagas.Proofs.Course
import Sagas.Proofs.Walk
import Sagas.Proofs.Nesting
import Sagas.Proofs.Conduct
import Sagas.Proofs.Registry
import Sagas.Proofs.Scripts
import Sagas.Proofs.Replay
import Sagas.Proofs.Versions
import Sagas.Proofs.CompareAndSwap
import Sagas.Proofs.Runs
import Sagas.Proofs.Saves
import Sagas.Proofs.Lineage
import Sagas.Proofs.Frozen
import Sagas.Proofs.Atomicity
import Sagas.Proofs.PersistFirst
import Sagas.Proofs.Endings
import Sagas.Proofs.Turns
import Sagas.Proofs.Answers
import Sagas.Proofs.Errors
import Sagas.Proofs.Namespaces
import Sagas.Proofs.Validity
import Sagas.Proofs.Violations
import Sagas.Proofs.Routing
import Sagas.Proofs.Acceptance
import Sagas.Proofs.Mirrors
import Sagas.Proofs.Composition
import Sagas.Proofs.Signals
import Sagas.Proofs.Cancellation
import Sagas.Proofs.Observers
import Sagas.Proofs.Accounts
import Sagas.Proofs.Lanes
import Sagas.Proofs.Commuting
import Sagas.Proofs.Trials
import Sagas.Proofs.Compositional
import Sagas.Proofs.Balance
import Sagas.Proofs.Tallies
import Sagas.Proofs.Reruns
import Sagas.Proofs.Interference
import Sagas.Proofs.Redelivery
import Sagas.Proofs.Records
import Sagas.Proofs.Order
import Sagas.Proofs.Conflicts
import Sagas.Proofs.Provision
import Sagas.Proofs.Resolutions
import Sagas.Proofs.Calendar
import Sagas.Proofs.Stamps
import Sagas.Proofs.Codec
import Sagas.Proofs.Families
import Sagas.Proofs.Settings
import Sagas.Proofs.Paths
