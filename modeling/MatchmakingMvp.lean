import MatchmakingMvp.Foundation.OrderedMap
import MatchmakingMvp.Foundation.Registry
import MatchmakingMvp.Foundation.Interleaving
import MatchmakingMvp.Core.Types
import MatchmakingMvp.Core.Rule
import MatchmakingMvp.Core.Objects
import MatchmakingMvp.Worker.Party
import MatchmakingMvp.Worker.Solo
import MatchmakingMvp.System.World
import MatchmakingMvp.System.Operations
import MatchmakingMvp.System.Calls
import MatchmakingMvp.Integration.ZoneInsertion
import MatchmakingMvp.System.Runs
import MatchmakingMvp.Session.Creation
import MatchmakingMvp.Session.RejectedCreation
import MatchmakingMvp.Worker.Entries
import MatchmakingMvp.Worker.Claiming
import MatchmakingMvp.Worker.Candidates
import MatchmakingMvp.Worker.Holding
import MatchmakingMvp.Worker.HoldsOnly
import MatchmakingMvp.Worker.Range
import MatchmakingMvp.System.Effects
import MatchmakingMvp.System.Neutral
import MatchmakingMvp.System.Protocol
import MatchmakingMvp.System.Soundness
import MatchmakingMvp.System.Adherence
import MatchmakingMvp.System.CallAdherence
import MatchmakingMvp.System.PartyGroups
import MatchmakingMvp.System.SoloGroups
import MatchmakingMvp.System.Seats
import MatchmakingMvp.System.Shifts
import MatchmakingMvp.System.Custody
import MatchmakingMvp.Tickets.Cancellation
import MatchmakingMvp.Session.Formation
import MatchmakingMvp.Session.Accord
import MatchmakingMvp.Tickets.Submission
import MatchmakingMvp.Tickets.PartyQueues
import MatchmakingMvp.Tickets.Whereabouts
import MatchmakingMvp.Session.SessionIndex
import MatchmakingMvp.Tickets.TicketIndex
import MatchmakingMvp.Session.Moves
import MatchmakingMvp.Session.Lifecycle
import MatchmakingMvp.Session.Lockstep
import MatchmakingMvp.Session.Timers
import MatchmakingMvp.Session.Responses
import MatchmakingMvp.Tickets.Cleanup
import MatchmakingMvp.Tickets.Ownership
import MatchmakingMvp.Foundation.ThreadRun
import MatchmakingMvp.Session.Tasks
import MatchmakingMvp.Session.TaskPrograms
import MatchmakingMvp.Session.AcceptTimeout
import MatchmakingMvp.Session.ConcurrentAccepts
import MatchmakingMvp.Session.ConcurrentCompletion
import MatchmakingMvp.Session.LateResponses
import MatchmakingMvp.Integration.ZoneIndex
import MatchmakingMvp.System.Receding
import MatchmakingMvp.Tickets.Registration
import MatchmakingMvp.System.Engagement
import MatchmakingMvp.Tickets.Admission
import MatchmakingMvp.System.SingleEngagement
import MatchmakingMvp.Integration.ZoneRemovals
import MatchmakingMvp.Integration.ZoneExpiry
import MatchmakingMvp.Penalty.Expiry
import MatchmakingMvp.Core.Combinations
import MatchmakingMvp.Worker.Matching
import MatchmakingMvp.System.SoloInterleavings
import MatchmakingMvp.System.SoloMatches
import MatchmakingMvp.Worker.Placement
import MatchmakingMvp.System.PartyRanges
import MatchmakingMvp.System.Retention
import MatchmakingMvp.Tickets.Withdrawal
import MatchmakingMvp.System.StatusSections
import MatchmakingMvp.System.StatusStages
import MatchmakingMvp.System.StatusCustody
import MatchmakingMvp.System.Permanence
import MatchmakingMvp.Integration.ServerClosed
import MatchmakingMvp.Foundation.Splitting
import MatchmakingMvp.Session.IntegrationWorlds
import MatchmakingMvp.Foundation.KeyedOrder
import MatchmakingMvp.Core.RequestOrder
import MatchmakingMvp.Worker.AsyncJobs
import MatchmakingMvp.Worker.Commit
import MatchmakingMvp.System.PartyBooks
import MatchmakingMvp.Core.CombinationStack
import MatchmakingMvp.System.PartyTraffic
import MatchmakingMvp.System.TrafficRuns
import MatchmakingMvp.System.TrafficDrains
import MatchmakingMvp.System.StuckTraffic
import MatchmakingMvp.Foundation.Monitor
import MatchmakingMvp.Worker.Retaining
import MatchmakingMvp.System.Keeping
import MatchmakingMvp.System.WorkerThreads
import MatchmakingMvp.Foundation.Progress
import MatchmakingMvp.Session.Draining
import MatchmakingMvp.Session.Opening
import MatchmakingMvp.Session.Undisturbed
import MatchmakingMvp.Foundation.LockOrder
import MatchmakingMvp.System.Locks
import MatchmakingMvp.System.LockThreads
