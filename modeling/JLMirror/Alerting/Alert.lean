import Mathlib.Data.List.Basic

/-!
# Alerts as the notification workers see them

The lifecycle of an alert, its snoozes, and the channels over which an alert is announced.
-/

namespace JLMirror.Alerting

/-- `alerting.alert.lifecycle_state`. -/
inductive LifecycleState where
  | active
  | resolved
  deriving DecidableEq

/-- The channel classes that the tables admit. -/
inductive ChannelClass where
  /-- `whatsapp_business@1`. -/
  | whatsapp_business
  /-- `email_smtp@1`. -/
  | email_smtp
  /-- `slack@1`. -/
  | slack
  deriving DecidableEq

/-- `alerting.alert_snooze`. -/
structure AlertSnooze where
  tenant_id : String
  alert_id : String
  expires_at : ℕ
  cancelled_at : Option ℕ
  deriving DecidableEq

/-- `alerting.g21_is_snoozed`: "active, non-cancelled, not expired". -/
def g21_is_snoozed (now : ℕ) (tenant_id alert_id : String) (snoozes : List AlertSnooze) : Bool :=
  snoozes.any fun z =>
    z.alert_id = alert_id ∧ z.tenant_id = tenant_id ∧ z.cancelled_at = none ∧ now < z.expires_at

end JLMirror.Alerting
