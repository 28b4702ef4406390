import ActiveResponse.Core.Values
import ActiveResponse.Lib.Table
import ActiveResponse.Schemas.Enums

namespace larp

structure Command where
  id : String
  agent_id : String
  action : String
  payload : Dict := []
  status : CommandStatus := .PENDING
  retry_count : ℕ := 0
  max_retries : ℕ := 3
  error_message : Option String := none
  executed_at : Option Time := none

instance : Keyed Command String := ⟨Command.id⟩

/-- Mark command as sent to agent. -/
def Command.send_to_agent (self : Command) : Command :=
  { self with status := .SENT }

/-- Acknowledge command result from agent: whatever status the agent reported is stored. -/
def Command.acknowledge (self : Command) (now : Time) (status : CommandStatus)
    (error_message : Option String) : Command :=
  { self with status, executed_at := some now, error_message }

/-- Increment retry counter and reset status to PENDING if allowed. -/
def Command.retry (self : Command) : Bool × Command :=
  if self.retry_count < self.max_retries then
    (true, { self with retry_count := self.retry_count + 1, status := .PENDING, error_message := none })
  else
    (false, { self with status := .FAILED })

/-- A retry is granted as long as the counter allows it. -/
theorem Command.retry_granted (self : Command) : self.retry.1 = decide (self.retry_count < self.max_retries) := by
  unfold retry
  split <;> simp_all

/-- The row a `COMMAND_ACK` with this status leaves behind: only FAILED consults the retry counter. -/
def Command.acked (self : Command) (now : Time) (status : CommandStatus)
    (error_message : Option String) : Command :=
  if status = .FAILED then (self.acknowledge now status error_message).retry.2
  else self.acknowledge now status error_message

section Acked

variable (self : Command) (now : Time) (status : CommandStatus) (error_message : Option String)

@[simp] theorem Command.acked_id : (self.acked now status error_message).id = self.id := by
  unfold acked
  split
  · unfold retry
    split <;> rfl
  · rfl

@[simp] theorem Command.acked_agent_id : (self.acked now status error_message).agent_id = self.agent_id := by
  unfold acked
  split
  · unfold retry
    split <;> rfl
  · rfl

@[simp] theorem Command.acked_action : (self.acked now status error_message).action = self.action := by
  unfold acked
  split
  · unfold retry
    split <;> rfl
  · rfl

@[simp] theorem Command.acked_payload : (self.acked now status error_message).payload = self.payload := by
  unfold acked
  split
  · unfold retry
    split <;> rfl
  · rfl

@[simp] theorem Command.acked_max_retries : (self.acked now status error_message).max_retries = self.max_retries := by
  unfold acked
  split
  · unfold retry
    split <;> rfl
  · rfl

end Acked

/-- A failure that may be retried is queued again and forgets its message. -/
theorem Command.acked_failed_retry (self : Command) (now : Time) (error_message : Option String)
    (h : self.retry_count < self.max_retries) :
    self.acked now .FAILED error_message =
      { self with
        retry_count := self.retry_count + 1, status := .PENDING, error_message := none,
        executed_at := some now } := by
  simp [acked, acknowledge, retry, h]

theorem Command.acked_failed_exhausted (self : Command) (now : Time) (error_message : Option String)
    (h : self.max_retries ≤ self.retry_count) :
    self.acked now .FAILED error_message =
      { self with status := .FAILED, executed_at := some now, error_message } := by
  simp [acked, acknowledge, retry, Nat.not_lt.mpr h]

theorem Command.acked_of_ne_failed (self : Command) (now : Time) {status : CommandStatus}
    (error_message : Option String) (h : status ≠ .FAILED) :
    self.acked now status error_message =
      { self with status, executed_at := some now, error_message } := by
  simp [acked, acknowledge, h]

end larp
