import CodexGate.Admin.Changes
import CodexGate.Admin.PartialUpdates
import CodexGate.Admin.PolicyIntegrity
import CodexGate.Authorization.Safety
import CodexGate.Cache.ReadYourWrites
import CodexGate.Cache.Revocation
import CodexGate.Conversion.Chunking
import CodexGate.Conversion.Grouping
import CodexGate.Conversion.Identity
import CodexGate.Conversion.Output
import CodexGate.Conversion.Protocol
import CodexGate.Conversion.ToolCalls
import CodexGate.Dispatch.IncludeUsage
import CodexGate.Dispatch.Peeking
import CodexGate.Dispatch.SendBudget
import CodexGate.Health.CircuitSafety
import CodexGate.Metering.Isolation
import CodexGate.Metering.StatusCodes
import CodexGate.Migration.RequestLogs
import CodexGate.Migration.Restarts
import CodexGate.Notification.AlertRuns
import CodexGate.Notification.Recovery
import CodexGate.Notification.ReportSums
import CodexGate.Notification.ReportWindows
import CodexGate.Notification.RunStatus
import CodexGate.Oauth.Forced
import CodexGate.Oauth.SessionProtection
import CodexGate.Oauth.VerdictSafety
import CodexGate.Overrides.Layers
import CodexGate.Pricing.ApplyRequests
import CodexGate.Pricing.Reconciliation
import CodexGate.Pricing.Safety
import CodexGate.Provider.BreakerSafety
import CodexGate.Provider.Cooldowns
import CodexGate.Recovery.Book
import CodexGate.Recovery.Cleaning
import CodexGate.Reservation.Capacity
import CodexGate.Routing.AffinityRequests
import CodexGate.Routing.KeyRotation
import CodexGate.Routing.Ranking
import CodexGate.Settings.Agreement
import CodexGate.Telemetry.Instances
import CodexGate.Telemetry.Rejected
import CodexGate.Telemetry.RetentionSafety
import CodexGate.Websocket.Attempts
import CodexGate.Websocket.Output
import CodexGate.Websocket.Selection
import CodexGate.Websocket.Settlement
