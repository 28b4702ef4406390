import ActiveResponse.Core.Database

namespace larp

/-- `d.get(first) or d.get(second)`. -/
def Dict.get_or (self : Dict) (first second : String) : Option Json :=
  match self.get first with
  | some value => if value.truthy then some value else self.get second
  | none => self.get second

/-- The state of the agent and the action's target before the action is applied. -/
def Database.capture_snapshot (db : Database) (now : Time) (agent_id action_type : String)
    (action_params : Dict) : Snapshot :=
  let agent := db.agents.get agent_id
  let agent_state : AgentState := {
    status := (agent.map Agent.status).getD .ACTIVE
    is_isolated := (agent.map Agent.is_isolated).getD false
    hostname := agent.map Agent.hostname
    ip_address := agent.map Agent.ip_address }
  { captured_at := now, agent_id, action_type, agent_state
    detail :=
      if action_type ∈ ["isolate", "auto_isolate"] then .network agent_state.is_isolated
      else if action_type = "quarantine" then .quarantine agent_state.status
      else if action_type ∈ ["kill", "kill_process", "kill_process_tree"] then
        .process (action_params.get "pid") (action_params.get "process_name")
      else if action_type = "block_ip" then
        .firewall (action_params.get_or "ip" "target_ip")
          ((action_params.get "direction").getD (.str "both"))
      else .nothing }

/-- The inverse of an action: the command that undoes it on the agent and the
values that are written back to the agent's record. -/
structure Compensation where
  command_action : Option String := none
  payload : Dict := []
  restore_agent_status : Option AgentStatus := none
  restore_is_isolated : Option Bool := none

/-- The choice depends on the action type alone; the snapshot is not consulted. -/
def get_compensation_action (action_type : String) (action_params : Dict)
    (_snapshot : Option Snapshot) : Compensation :=
  if action_type ∈ ["isolate", "auto_isolate"] then
    { command_action := some "unisolate"
      restore_agent_status := some .ACTIVE
      restore_is_isolated := some false }
  else if action_type = "quarantine" then
    { command_action := some "release_quarantine"
      restore_agent_status := some .ACTIVE
      restore_is_isolated := some false }
  else if action_type = "block_ip" then
    { command_action := some "unblock_ip"
      payload := [("ip", (action_params.get_or "ip" "target_ip").getD .null)] }
  else {}

/-- The writes of a compensation to the agent's record. -/
def Compensation.restore (self : Compensation) (agent : Agent) : Agent :=
  { agent with
    is_isolated := if self.restore_is_isolated = some false then false else agent.is_isolated
    status := if self.restore_agent_status = some .ACTIVE then .ACTIVE else agent.status }

@[simp] theorem Compensation.key_restore (self : Compensation) (agent : Agent) :
    Keyed.key (self.restore agent) = Keyed.key agent := rfl

/-- The action types whose application cuts the agent off. -/
def is_containment (action_type : String) : Bool :=
  action_type ∈ ["isolate", "auto_isolate", "quarantine"]

theorem is_containment_iff {action_type : String} :
    is_containment action_type ↔
      action_type = "isolate" ∨ action_type = "auto_isolate" ∨ action_type = "quarantine" := by
  simp [is_containment]

/-- Undoing a containment action always releases the agent. -/
theorem get_compensation_action_containment {action_type : String} (h : is_containment action_type)
    (action_params : Dict) (snapshot : Option Snapshot) (agent : Agent) :
    (get_compensation_action action_type action_params snapshot).restore agent =
      { agent with is_isolated := false, status := .ACTIVE } := by
  rcases is_containment_iff.mp h with rfl | rfl | rfl <;> rfl

/-- Undoing any other action leaves the agent's record alone. -/
theorem get_compensation_action_other {action_type : String} (h : ¬ is_containment action_type)
    (action_params : Dict) (snapshot : Option Snapshot) (agent : Agent) :
    (get_compensation_action action_type action_params snapshot).restore agent = agent := by
  rw [is_containment_iff] at h
  push Not at h
  unfold get_compensation_action
  split
  · rename_i hmem
    simp [h.1, h.2.1] at hmem
  · rw [if_neg h.2.2]
    split <;> rfl

/-- The commands that release an agent come from containment actions only. -/
theorem command_action_of_release {action_type : String} {action_params : Dict}
    {snapshot : Option Snapshot} {action : String}
    (h : (get_compensation_action action_type action_params snapshot).command_action = some action)
    (hrelease : action = "unisolate" ∨ action = "release_quarantine") :
    is_containment action_type := by
  unfold get_compensation_action at h
  rw [is_containment_iff]
  split at h
  · rename_i hmem
    simp only [List.mem_cons, List.not_mem_nil, or_false] at hmem
    rcases hmem with hmem | hmem
    · exact Or.inl hmem
    · exact Or.inr (Or.inl hmem)
  · split at h
    · rename_i hquarantine
      exact Or.inr (Or.inr hquarantine)
    · split at h
      · simp only [Option.some.injEq] at h
        subst h
        simp at hrelease
      · cases h

end larp
