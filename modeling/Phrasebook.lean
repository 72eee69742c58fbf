import Phrasebook.Broker.Amqp
import Phrasebook.Broker.Nats
import Phrasebook.Grpc.Client
import Phrasebook.Http.Wire
import Phrasebook.Json.Lookup
import Phrasebook.Lifecycle.Holder
import Phrasebook.Lifecycle.Listener
import Phrasebook.Lifecycle.Permits
import Phrasebook.Main
import Phrasebook.Settings.FromJson
import Phrasebook.Proofs.Book.Leg
import Phrasebook.Proofs.Book.Freshness
import Phrasebook.Proofs.Book.LateFill
import Phrasebook.Proofs.Book.Coherence
import Phrasebook.Proofs.Book.Ledger
import Phrasebook.Proofs.Lifecycle.Crew
import Phrasebook.Proofs.Lifecycle.Slots
import Phrasebook.Proofs.Lifecycle.Supervisor
import Phrasebook.Proofs.Lifecycle.Course
import Phrasebook.Proofs.Lifecycle.Failures
import Phrasebook.Proofs.Lifecycle.Release
import Phrasebook.Proofs.Lifecycle.Breakdown
import Phrasebook.Proofs.Lifecycle.Sharing
import Phrasebook.Proofs.Lifecycle.Alone
import Phrasebook.Proofs.Lifecycle.Upkeep
import Phrasebook.Proofs.Lifecycle.Construction
import Phrasebook.Proofs.Lifecycle.Leftovers
import Phrasebook.Proofs.Lifecycle.Timeline
import Phrasebook.Proofs.Lifecycle.FanIn
import Phrasebook.Proofs.Lifecycle.Delivery
import Phrasebook.Proofs.Lifecycle.Handling
import Phrasebook.Proofs.Lifecycle.Permits
import Phrasebook.Proofs.Entry.Agreement
import Phrasebook.Session
import Phrasebook.Proofs.Entry.Causes
import Phrasebook.Proofs.Entry.Discretion
import Phrasebook.Proofs.Entry.Admission
import Phrasebook.Proofs.Entry.Forwarding
import Phrasebook.Proofs.Entry.Identity
import Phrasebook.Proofs.Entry.Accounting
import Phrasebook.Proofs.Entry.Labels
import Phrasebook.Proofs.Entry.Origins
import Phrasebook.Proofs.Entry.CrossOrigin
import Phrasebook.Proofs.Grpc.Messages
import Phrasebook.Proofs.Grpc.Carriage
import Phrasebook.Proofs.RateLimit.Collection
import Phrasebook.Proofs.RateLimit.Share
import Phrasebook.Proofs.Broker.Flow
import Phrasebook.Proofs.Json.ReadBack
import Phrasebook.Proofs.Json.RoundTrip
import Phrasebook.Proofs.Settings.Arrival
import Phrasebook.Proofs.Settings.Places
import Phrasebook.Proofs.Settings.Disclosure
import Phrasebook.Proofs.Json.Presentation
import Phrasebook.Proofs.Entry.CrossOrigin
