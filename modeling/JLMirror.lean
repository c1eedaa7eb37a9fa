import JLMirror.Platform.TenantConnection
import JLMirror.Monitoring.ProblemLog
import JLMirror.Monitoring.ProblemPolling
import JLMirror.Notification.DispatchFairness
import JLMirror.Monitoring.OutboxAttempts
import JLMirror.Monitoring.HistoryCompleteness
import JLMirror.Alerting.EscalationRearming
import JLMirror.Alerting.EscalationSteps
import JLMirror.IncidentResponse.Isolation
import JLMirror.IncidentResponse.Settling
import JLMirror.Itsm.Creation
import JLMirror.Itsm.SyncProgress
import JLMirror.Alerting.EffectivePointer
import JLMirror.Alerting.InboxLaw
import JLMirror.Alerting.Ledger
import JLMirror.Access.AdminAuthority
import JLMirror.Access.Deactivation
import JLMirror.Access.DelegationBacked
import JLMirror.Access.MembershipAudit
import JLMirror.Access.Organizations
import JLMirror.Access.Provisioning
import JLMirror.Access.ProviderView
import JLMirror.Access.ProxyPath
import JLMirror.Access.SourceConfined
import JLMirror.Monitoring.CurrentEvidence
import JLMirror.Monitoring.HistoryPages
import JLMirror.Monitoring.CreateOnce
import JLMirror.Monitoring.HistoryWindows
import JLMirror.Monitoring.ReconciliationLaw
import JLMirror.Notification.CallbackOnce
import JLMirror.HumanOps.CurrentAction
import JLMirror.Alerting.SnoozeLaw
import JLMirror.Automation.RunsOnce
import JLMirror.Credentials.Linearized
import JLMirror.Egress.PinnedTransport
import JLMirror.Providers.ZabbixReplies
import JLMirror.Alerting.Idempotence
import JLMirror.Monitoring.InventorySnapshot
import JLMirror.Monitoring.DefinitionSnapshot
import JLMirror.Monitoring.ZombieSweep
import JLMirror.IncidentResponse.PushAtomicity
import JLMirror.Sla.BreachesOnce
import JLMirror.Access.KeysetPages
import JLMirror.Itsm.ApprovalGate
import JLMirror.Access.RateWindows
import JLMirror.Access.Revocation
import JLMirror.Knowledge.Isolation
import JLMirror.Reports.Periods
import JLMirror.Billing.Metering
import JLMirror.Access.SignIn
