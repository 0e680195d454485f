import Outbox.Journal
import Outbox.Proofs.Admission
import Outbox.Proofs.Agreement
import Outbox.Proofs.Cancellation
import Outbox.Proofs.Chronicle
import Outbox.Proofs.Commuting
import Outbox.Proofs.Direct.Stored
import Outbox.Proofs.Ledger
import Outbox.Proofs.LifeCycle
import Outbox.Proofs.Panics
import Outbox.Proofs.Partitions
import Outbox.Proofs.Permanence
import Outbox.Proofs.Retry.Decision
import Outbox.Proofs.Retry.Doubling
import Outbox.Proofs.Retry.Window
import Outbox.Proofs.Sequential
import Outbox.Proofs.Service
import Outbox.Proofs.Shift
import Outbox.Proofs.Traffic.Order
import Outbox.Proofs.Traffic.Patience
import Outbox.Proofs.Written.Language
import Outbox.Proofs.Written.Legible
import Outbox.Scenario
