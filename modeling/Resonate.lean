import Resonate.Fencing
import Resonate.Replies
import Resonate.Siblings
import Resonate.Custody
import Resonate.Punctual
import Resonate.Refusals
import Resonate.Lifetimes
import Resonate.Deferrals
import Resonate.Standings
import Resonate.Lineage
import Resonate.QueueNames
import Resonate.Registrations
import Resonate.TaskRecords
import Resonate.Outstanding
import Resonate.Coverage
import Resonate.Listeners
import Resonate.Schedules
import Resonate.WellFormed
import Resonate.Firings
import Resonate.Redispatches
import Resonate.Retries
import Resonate.Wakings
import Resonate.Deliveries
import Resonate.OriginRuns
import Resonate.RawStoreFacts
import Resonate.Recovery
import Resonate.FencedActions
import Resonate.Decoding
import Resonate.Heartbeats
import Resonate.Responses
import Resonate.Overdue
import Resonate.LeaseQueueLaws
