import ActiveResponse.Core.Values
import ActiveResponse.Lib.Table
import ActiveResponse.Schemas.Enums

namespace larp

structure Agent where
  id : String
  hostname : String
  ip_address : String
  mac_address : String
  status : AgentStatus := .ACTIVE
  cpu : ℚ := 0
  ram : ℚ := 0
  disk : ℚ := 0
  is_isolated : Bool := false
  last_seen : Time

instance : Keyed Agent String := ⟨Agent.id⟩

def Agent.activate (self : Agent) : Agent :=
  { self with is_isolated := false, status := .ACTIVE }

def Agent.isolate (self : Agent) : Agent :=
  { self with is_isolated := true, status := .ISOLATED }

def Agent.unisolate (self : Agent) : Agent :=
  { self with is_isolated := false, status := .ACTIVE }

/-- A heartbeat revives a dead or inactive agent, but only one that is not isolated. -/
def Agent.update_heartbeat (self : Agent) (cpu ram disk : ℚ) (timestamp : Time)
    (ip_address mac_address : String) : Agent :=
  { self with
    cpu, ram, disk, ip_address, mac_address
    last_seen := timestamp
    status :=
      if (self.status = .DEAD ∨ self.status = .INACTIVE) ∧ self.is_isolated = false then .ACTIVE
      else self.status }

structure AgentGroup where
  id : String
  name : String

instance : Keyed AgentGroup String := ⟨AgentGroup.id⟩

/-- A row of the many-to-many table between groups and agents. -/
structure AgentGroupMember where
  group_id : String
  agent_id : String
deriving DecidableEq

structure Incident where
  id : String
  severity : IncidentSeverity := .MEDIUM
  status : IncidentStatus := .OPEN
  agent_id : Option String := none
  risk_score : ℚ := 0
  created_at : Time

instance : Keyed Incident String := ⟨Incident.id⟩

structure RiskScoreRecord where
  id : String
  agent_id : String
  score : ℚ
  smoothed_score : Option ℚ
  factors : Dict
  timestamp : Time

instance : Keyed RiskScoreRecord String := ⟨RiskScoreRecord.id⟩

structure WhitelistEntry where
  id : String
  agent_id : Option String
  process_name : Option String
  path : Option String

instance : Keyed WhitelistEntry String := ⟨WhitelistEntry.id⟩

end larp
