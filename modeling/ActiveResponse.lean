import ActiveResponse.Agent.AuthMonitor
import ActiveResponse.Agent.AuthPolling
import ActiveResponse.Agent.Commands
import ActiveResponse.Agent.Confirmed
import ActiveResponse.Agent.ConnectionTracker
import ActiveResponse.Agent.Containment
import ActiveResponse.Agent.CppAgent
import ActiveResponse.Agent.CppMessages
import ActiveResponse.Agent.DnsSniffer
import ActiveResponse.Agent.Fim
import ActiveResponse.Agent.FimAlerts
import ActiveResponse.Agent.FimDeltas
import ActiveResponse.Agent.Firewall
import ActiveResponse.Agent.Listing
import ActiveResponse.Agent.Liveness
import ActiveResponse.Agent.Records
import ActiveResponse.Agent.Report
import ActiveResponse.Ai.Answers
import ActiveResponse.Ai.ApplySuggestion
import ActiveResponse.Ai.BackgroundTriage
import ActiveResponse.Ai.BlastRadius
import ActiveResponse.Ai.Calibration
import ActiveResponse.Ai.Review
import ActiveResponse.Ai.SuggestResponse
import ActiveResponse.Ai.SuggestionGate
import ActiveResponse.Ai.Triage
import ActiveResponse.Core.Conversions
import ActiveResponse.Core.Database
import ActiveResponse.Core.Deliveries
import ActiveResponse.Core.Dispatcher
import ActiveResponse.Core.Isoformat
import ActiveResponse.Core.JsonDumps
import ActiveResponse.Core.JsonForms
import ActiveResponse.Core.JsonLiterals
import ActiveResponse.Core.JsonLoads
import ActiveResponse.Core.JsonText
import ActiveResponse.Core.LoadedJson
import ActiveResponse.Core.PyRepr
import ActiveResponse.Core.Regex
import ActiveResponse.Core.Settings
import ActiveResponse.Core.Text
import ActiveResponse.Core.Values
import ActiveResponse.Dashboard.Socket
import ActiveResponse.Detection.BeaconEvaluation
import ActiveResponse.Detection.Beaconing
import ActiveResponse.Detection.BruteForce
import ActiveResponse.Detection.CategoryCap
import ActiveResponse.Detection.ChainRuleCache
import ActiveResponse.Detection.ChainRules
import ActiveResponse.Detection.CommandRules
import ActiveResponse.Detection.Debounce
import ActiveResponse.Detection.DefaultRegistry
import ActiveResponse.Detection.Evaluate
import ActiveResponse.Detection.FeedAddresses
import ActiveResponse.Detection.FeedExtraction
import ActiveResponse.Detection.FeedSync
import ActiveResponse.Detection.HostRules
import ActiveResponse.Detection.HttpBeaconing
import ActiveResponse.Detection.MlBaseline
import ActiveResponse.Detection.NetworkRules
import ActiveResponse.Detection.ProcessChain
import ActiveResponse.Detection.ProcessRisk
import ActiveResponse.Detection.Processes
import ActiveResponse.Detection.RuleContext
import ActiveResponse.Detection.RuleSettings
import ActiveResponse.Detection.ScoreRange
import ActiveResponse.Detection.Scores
import ActiveResponse.Detection.Smoothing
import ActiveResponse.Detection.ThreatFeed
import ActiveResponse.Detection.Whitelist
import ActiveResponse.Incident.Chronicle
import ActiveResponse.Incident.CreateFromRisk
import ActiveResponse.Incident.Factors
import ActiveResponse.Incident.FactorsRoundTrip
import ActiveResponse.Incident.MonthlyReport
import ActiveResponse.Incident.Notes
import ActiveResponse.Incident.ReadFactors
import ActiveResponse.Incident.Resolution
import ActiveResponse.Incident.Service
import ActiveResponse.Incident.Severity
import ActiveResponse.Incident.Timeline
import ActiveResponse.Lib.Assoc
import ActiveResponse.Lib.Backtracking
import ActiveResponse.Lib.BestOf
import ActiveResponse.Lib.CheckedCommands
import ActiveResponse.Lib.Deque
import ActiveResponse.Lib.FirstOf
import ActiveResponse.Lib.FixedWidth
import ActiveResponse.Lib.FreshMax
import ActiveResponse.Lib.GroupBy
import ActiveResponse.Lib.LiveLoop
import ActiveResponse.Lib.Locks
import ActiveResponse.Lib.OneShot
import ActiveResponse.Lib.PacketFilter
import ActiveResponse.Lib.ParentChain
import ActiveResponse.Lib.Program
import ActiveResponse.Lib.QuotedText
import ActiveResponse.Lib.ReadCommitted
import ActiveResponse.Lib.ReadThrough
import ActiveResponse.Lib.RoseTree
import ActiveResponse.Lib.Rounding
import ActiveResponse.Lib.Run
import ActiveResponse.Lib.SlotDict
import ActiveResponse.Lib.Table
import ActiveResponse.Lib.TextStream
import ActiveResponse.Lib.Worklist
import ActiveResponse.Link.Delivery
import ActiveResponse.Link.Messages
import ActiveResponse.Link.MinimalAgent
import ActiveResponse.Link.Model
import ActiveResponse.Link.Pairing
import ActiveResponse.Models.Agent
import ActiveResponse.Models.Command
import ActiveResponse.Models.Incident
import ActiveResponse.Models.ResponseAction
import ActiveResponse.Models.StoredProcess
import ActiveResponse.Network.Suspicious
import ActiveResponse.Process.KilledTree
import ActiveResponse.Process.SuspiciousChains
import ActiveResponse.Process.Tree
import ActiveResponse.Response.Action
import ActiveResponse.Response.AuditTrail
import ActiveResponse.Response.AutoRollback
import ActiveResponse.Response.Batch
import ActiveResponse.Response.BatchPartition
import ActiveResponse.Response.Concurrent
import ActiveResponse.Response.DryRun
import ActiveResponse.Response.Failure
import ActiveResponse.Response.Flapping
import ActiveResponse.Response.Graduated
import ActiveResponse.Response.Groups
import ActiveResponse.Response.History
import ActiveResponse.Response.Inverse
import ActiveResponse.Response.Lifecycle
import ActiveResponse.Response.Overlap
import ActiveResponse.Response.PolicyEngine
import ActiveResponse.Response.PolicyRange
import ActiveResponse.Response.References
import ActiveResponse.Response.Rollback
import ActiveResponse.Response.Snapshot
import ActiveResponse.Schemas.Enums
import ActiveResponse.System
import ActiveResponse.Websocket.AckFrame
import ActiveResponse.Websocket.Broadcast
import ActiveResponse.Websocket.CommandAck
import ActiveResponse.Websocket.ConcurrentPulls
import ActiveResponse.Websocket.Connections
import ActiveResponse.Websocket.FlowStats
import ActiveResponse.Websocket.PartialMessages
import ActiveResponse.Websocket.ProcessList
