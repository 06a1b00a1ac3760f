import EventFeed.Bus
import EventFeed.Engine.Operations
import EventFeed.Proofs.WorkUnit
import EventFeed.Rehearsal.Dispatch
import EventFeed.Rehearsal.Session
import EventFeed.Rehearsal.Tampering
import EventFeed.Rehearsal.Troupe
import EventFeed.Retry
import EventFeed.Store.Disk
import EventFeed.Store.Rows
import EventFeed.Subscriber.Registry
import EventFeed.Worker
import EventFeed.Proofs.Edits
import EventFeed.Proofs.Setup
import EventFeed.Proofs.Delivery
import EventFeed.Proofs.Feeding
import EventFeed.Proofs.Operations
import EventFeed.Proofs.Progress
import EventFeed.Proofs.ExactlyOnce
import EventFeed.Proofs.Isolation
import EventFeed.Proofs.Rounds
import EventFeed.Proofs.Casting
import EventFeed.Proofs.Windows
import EventFeed.Proofs.Pace
import EventFeed.Proofs.Headway
import EventFeed.Proofs.MessagePack
import EventFeed.Proofs.SubscriptionFile
import EventFeed.Proofs.History
import EventFeed.Proofs.WellFormed
import EventFeed.Proofs.Coverage
import EventFeed.Proofs.Courses
import EventFeed.Proofs.Setouts
import EventFeed.Proofs.CatchUp
import EventFeed.Proofs.Checksum
import EventFeed.Proofs.Damage
import EventFeed.Proofs.Handles
import EventFeed.Proofs.Deeds
import EventFeed.Proofs.Errands
import EventFeed.Proofs.Readings
import EventFeed.Proofs.Chronicles
import EventFeed.Proofs.Spells
import EventFeed.Proofs.SetupFirst
import EventFeed.Proofs.Budget
import EventFeed.Proofs.Transitions
import EventFeed.Proofs.Tallies
import EventFeed.Proofs.Failures
import EventFeed.Proofs.Recoveries
import EventFeed.Proofs.Independence
import EventFeed.Proofs.SetupOnce
import EventFeed.Proofs.Setbacks
import EventFeed.Proofs.Cadence
import EventFeed.Proofs.Extents
import EventFeed.Proofs.Likeness
import EventFeed.Proofs.Ideal
import EventFeed.Proofs.Faithful
import EventFeed.Proofs.FileEngine
import EventFeed.Proofs.Discovery
import EventFeed.Proofs.Endurance
import EventFeed.Proofs.Limits
import EventFeed.Proofs.Stillness
import EventFeed.Proofs.Latecomers
import EventFeed.Proofs.Drafts
import EventFeed.Proofs.Stores
import EventFeed.Proofs.DirectWrites
import EventFeed.Proofs.Refusals
import EventFeed.Proofs.Unreadable
import EventFeed.Proofs.Farewells
import EventFeed.Proofs.Delays
import EventFeed.Proofs.Pages
import EventFeed.Proofs.Shifts
import EventFeed.Proofs.Pauses
import EventFeed.Proofs.Declarations
import EventFeed.Proofs.HandlerTables
import EventFeed.Proofs.Buses
import EventFeed.Proofs.Registrations
