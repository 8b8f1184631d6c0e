import DdsEnabler.Lib.Runs
import DdsEnabler.AddData
import DdsEnabler.WireFormat
import DdsEnabler.Effects
import DdsEnabler.RequestIds
import DdsEnabler.GoalLifetime
import DdsEnabler.Servers
import DdsEnabler.Dispatch
import DdsEnabler.Rendezvous
import DdsEnabler.EarlyReply
import DdsEnabler.Lib.Registries
import DdsEnabler.ServiceServer
import DdsEnabler.ActionServer
import DdsEnabler.Lib.Locks
import DdsEnabler.LockOrder
import DdsEnabler.Publications
import DdsEnabler.RoundTrip
import DdsEnabler.Replies
import DdsEnabler.GoalRequests
import DdsEnabler.Cancelling
import DdsEnabler.ResultReplies
import DdsEnabler.TurnedDown
import DdsEnabler.Discovery
import DdsEnabler.Protocols
import DdsEnabler.Announcing
import DdsEnabler.AnnouncingActions
import DdsEnabler.Lib.Substrings
import DdsEnabler.TopicNames
import DdsEnabler.Configuration
import DdsEnabler.Schemas
import DdsEnabler.Persistence
import DdsEnabler.MalformedData
import DdsEnabler.Parts
import DdsEnabler.Calls
import DdsEnabler.Attempts
import DdsEnabler.AllOrNothing
import DdsEnabler.OneEndpoint
import DdsEnabler.Corrupted
import DdsEnabler.FailedCalls
import DdsEnabler.Lib.Visits
import DdsEnabler.StatusLists
import DdsEnabler.SchemaReports
import DdsEnabler.Bookkeeping
import DdsEnabler.Lookups
import DdsEnabler.RepeatedTopics
import DdsEnabler.Lib.Provenance
import DdsEnabler.Uses
import DdsEnabler.Notices
import DdsEnabler.Network
import DdsEnabler.Causes
import DdsEnabler.Justified
import DdsEnabler.Genuine
import DdsEnabler.ApiCalls
import DdsEnabler.Ledger
import DdsEnabler.Completes
import DdsEnabler.Records
