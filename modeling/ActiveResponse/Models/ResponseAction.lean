import ActiveResponse.Core.LoadedJson
import ActiveResponse.Lib.Table
import ActiveResponse.Schemas.Enums

namespace larp

/-- The `agent_state` entry of a snapshot. -/
structure AgentState where
  status : AgentStatus
  is_isolated : Bool
  hostname : Option String
  ip_address : Option String

/-- The entry of a snapshot that depends on the action type. -/
inductive SnapshotDetail where
  | network (pre_action_isolated : Bool)
  | quarantine (pre_action_status : AgentStatus)
  | process (target_pid target_name : Option Json)
  | firewall (blocked_ip : Option Json) (direction : Json)
  | nothing

structure Snapshot where
  captured_at : Time
  agent_id : String
  action_type : String
  agent_state : AgentState
  detail : SnapshotDetail

structure ResponseAction where
  id : String
  incident_id : Option String := none
  agent_id : String
  action_type : String
  action_params : Dict := []
  status : ResponseActionStatus := .pending
  snapshot : Option Snapshot := none
  applied_at : Option Time := none
  undone_at : Option Time := none
  undo_reason : Option String := none
  undone_by : Option String := none
  auto_rollback_at : Option Time := none
  cooldown_until : Option Time := none
  created_at : Time
  updated_at : Time

instance : Keyed ResponseAction String := ⟨ResponseAction.id⟩

structure ActionAuditLog where
  action_id : String
  event : String
  actor : String
  reason : Option String
  metadata : Dict

structure ResponsePolicy where
  id : String
  name : String
  description : Option String := none
  min_score : PyFloat
  max_score : PyFloat
  action_type : String
  scope : String := "agent"
  target_group_id : Option String := none
  action_params : Dict := []
  auto_rollback_seconds : Option ℤ := none
  priority : ℤ := 0
  is_active : Bool := true

instance : Keyed ResponsePolicy String := ⟨ResponsePolicy.id⟩

structure SystemSetting where
  key : String
  value : Dict

instance : Keyed SystemSetting String := ⟨SystemSetting.key⟩

end larp
