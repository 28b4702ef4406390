import Mathlib.Init

namespace larp

inductive AgentStatus where
  | ACTIVE
  | ISOLATED
  | QUARANTINE
  | INACTIVE
  | DEAD
deriving DecidableEq, Repr

def AgentStatus.value : AgentStatus → String
  | .ACTIVE => "active"
  | .ISOLATED => "isolated"
  | .QUARANTINE => "quarantine"
  | .INACTIVE => "inactive"
  | .DEAD => "dead"

inductive CommandStatus where
  | PENDING
  | SENT
  | SUCCESS
  | FAILED
  | TIMEOUT
deriving DecidableEq, Repr

def CommandStatus.value : CommandStatus → String
  | .PENDING => "pending"
  | .SENT => "sent"
  | .SUCCESS => "success"
  | .FAILED => "failed"
  | .TIMEOUT => "timeout"

/-- Enum validation by value, as pydantic performs it. -/
def CommandStatus.of_value (s : String) : Option CommandStatus :=
  [.PENDING, .SENT, .SUCCESS, .FAILED, .TIMEOUT].find? fun status => decide (status.value = s)

@[simp] theorem CommandStatus.of_value_value (status : CommandStatus) :
    CommandStatus.of_value status.value = some status := by
  cases status <;> decide

theorem CommandStatus.value_of_of_value {s : String} {status : CommandStatus}
    (h : CommandStatus.of_value s = some status) : status.value = s := by
  have hfound := List.find?_some h
  simpa using hfound

/-- The values that the column `ResponseAction.status` takes. -/
inductive ResponseActionStatus where
  | pending
  | applied
  | reverting
  | reverted
  | failed
deriving DecidableEq, Repr

def ResponseActionStatus.value : ResponseActionStatus → String
  | .pending => "pending"
  | .applied => "applied"
  | .reverting => "reverting"
  | .reverted => "reverted"
  | .failed => "failed"

inductive IncidentSeverity where
  | LOW
  | MEDIUM
  | HIGH
  | CRITICAL
deriving DecidableEq, Repr

/-- `str(severity)`, which formatting uses from Python 3.12 on. -/
def IncidentSeverity.str : IncidentSeverity → String
  | .LOW => "IncidentSeverity.LOW"
  | .MEDIUM => "IncidentSeverity.MEDIUM"
  | .HIGH => "IncidentSeverity.HIGH"
  | .CRITICAL => "IncidentSeverity.CRITICAL"

inductive IncidentStatus where
  | OPEN
  | INVESTIGATING
  | CONTAINED
  | RESOLVED
  | FALSE_POSITIVE
  | CLOSED
deriving DecidableEq, Repr

def IncidentStatus.value : IncidentStatus → String
  | .OPEN => "open"
  | .INVESTIGATING => "investigating"
  | .CONTAINED => "contained"
  | .RESOLVED => "resolved"
  | .FALSE_POSITIVE => "false_positive"
  | .CLOSED => "closed"

end larp
