import Mathlib.Logic.Function.Basic
import Mathlib.Data.Nat.Notation
import ActiveResponse.Lib.Run

namespace larp

/-- The connection manager together with the endpoints that are running. Websockets are numbered in
the order in which they are accepted; an endpoint has a local variable `agent_id`. -/
structure Connections where
  active_connections : String → Option ℕ := fun _ => none
  endpoints : ℕ → Option String := fun _ => none
  accepted : ℕ := 0

/-- What can happen to the registry: a connection is opened, a heartbeat is handled, an endpoint is
left, or a message to an agent cannot be sent. `receive_error` includes the client's disconnect;
`send_disconnect` is a `WebSocketDisconnect` out of `send_json`, `error` any other exception that
leaves the loop. -/
inductive ConnectionEvent where
  | connect (agent_id : String)
  | heartbeat (websocket : ℕ) (payload_agent_id : Option String)
  | receive_error (websocket : ℕ)
  | send_disconnect (websocket : ℕ)
  | error (websocket : ℕ)
  | send_personal_message (agent_id : String) (fails : Bool)

namespace Connections

/-- `ConnectionManager.connect`: the entry of an earlier connection of the agent is replaced. -/
def connect (self : Connections) (agent_id : String) : Connections where
  active_connections := Function.update self.active_connections agent_id (some self.accepted)
  endpoints := Function.update self.endpoints self.accepted (some agent_id)
  accepted := self.accepted + 1

/-- `ConnectionManager.disconnect` removes the entry of an agent, whatever websocket it holds. -/
def disconnect (self : Connections) (agent_id : String) : Connections :=
  { self with active_connections := Function.update self.active_connections agent_id none }

/-- The endpoint returns. -/
def leave (self : Connections) (websocket : ℕ) : Connections :=
  { self with endpoints := Function.update self.endpoints websocket none }

/-- The agent of a heartbeat on a connection: `payload.agent_id`, or the connection's own. -/
def heartbeat_agent (agent_id : String) : Option String → String
  | some payload_agent_id => if payload_agent_id = "" then agent_id else payload_agent_id
  | none => agent_id

/-- The endpoint and the manager. Events of an endpoint that is not running are without effect. -/
def step (self : Connections) : ConnectionEvent → Connections
  | .connect agent_id => self.connect agent_id
  | .heartbeat websocket payload_agent_id =>
    { self with
      endpoints := Function.update self.endpoints websocket
        ((self.endpoints websocket).map fun agent_id => heartbeat_agent agent_id payload_agent_id) }
  | .receive_error websocket | .error websocket => self.leave websocket
  | .send_disconnect websocket =>
    match self.endpoints websocket with
    | some agent_id => (self.disconnect agent_id).leave websocket
    | none => self
  | .send_personal_message agent_id fails =>
    if fails ∧ (self.active_connections agent_id).isSome then self.disconnect agent_id else self

/-- An entry belongs to an endpoint that is running for the agent. -/
def Registered (self : Connections) : Prop :=
  ∀ agent_id websocket, self.active_connections agent_id = some websocket →
    self.endpoints websocket = some agent_id

/-- What a step keeps of the registry. An endpoint that has ended has no entry, and the end of an
endpoint does not remove the entry of a newer connection. -/
structure Kept (s : Connections) (event : ConnectionEvent) : Prop where
  registered : (s.step event).Registered
  ended : ∀ websocket, (s.step event).endpoints websocket = none → ∀ agent_id,
    (s.step event).active_connections agent_id ≠ some websocket
  newer : ∀ websocket agent_id newer, s.endpoints websocket ≠ none →
    (s.step event).endpoints websocket = none → websocket < newer →
    s.active_connections agent_id = some newer → (s.step event).active_connections agent_id = some newer

/-- The endpoint is registered under its current agent. -/
def holds_entry (self : Connections) (websocket : ℕ) : Bool :=
  (self.endpoints websocket).any fun agent_id => self.active_connections agent_id = some websocket

/-- The condition on an event. A registered endpoint neither changes its agent nor leaves without
`disconnect`, and one that disconnects finds no newer connection under its agent. -/
def orderly (self : Connections) : ConnectionEvent → Bool
  | .heartbeat websocket payload_agent_id =>
    !self.holds_entry websocket || (self.endpoints websocket).all fun agent_id =>
      heartbeat_agent agent_id payload_agent_id = agent_id
  | .receive_error websocket | .error websocket => !self.holds_entry websocket
  | .send_disconnect websocket =>
    (self.endpoints websocket).all fun agent_id =>
      (self.active_connections agent_id).all fun entry => entry ≤ websocket
  | _ => true

section Step

variable {self : Connections}

/-- A websocket that has not been accepted yet has no endpoint. -/
def Numbered (self : Connections) : Prop :=
  ∀ websocket, self.accepted ≤ websocket → self.endpoints websocket = none

private theorem holds_entry_iff {websocket : ℕ} : self.holds_entry websocket ↔
    ∃ agent_id, self.endpoints websocket = some agent_id ∧ self.active_connections agent_id = some websocket := by
  simp [holds_entry, Option.any_eq_true]

theorem Numbered.step (h : self.Numbered) (event : ConnectionEvent) : (self.step event).Numbered := by
  intro websocket hwebsocket
  cases event with
  | connect agent_id =>
    simp only [Connections.step, connect] at hwebsocket ⊢
    rw [Function.update_of_ne (by omega)]
    exact h websocket (by omega)
  | heartbeat target payload_agent_id =>
    simp only [Connections.step, Function.update_apply] at hwebsocket ⊢
    split
    · rename_i heq
      rw [← heq, h websocket hwebsocket]
      rfl
    · exact h websocket hwebsocket
  | receive_error target | error target =>
    simp only [Connections.step, leave, Function.update_apply] at hwebsocket ⊢
    split
    · rfl
    · exact h websocket hwebsocket
  | send_disconnect target =>
    simp only [Connections.step] at hwebsocket ⊢
    split at hwebsocket
    · simp only [leave, disconnect, Function.update_apply] at hwebsocket ⊢
      split
      · rfl
      · exact h websocket hwebsocket
    · exact h websocket hwebsocket
  | send_personal_message agent_id fails =>
    simp only [Connections.step] at hwebsocket ⊢
    split
    · rename_i hfails
      rw [if_pos hfails] at hwebsocket
      exact h websocket hwebsocket
    · rename_i hfails
      rw [if_neg hfails] at hwebsocket
      exact h websocket hwebsocket

/-- Entries of running endpoints only: then an endpoint that has ended has none. -/
private theorem kept_of_registered {event : ConnectionEvent} (hregistered : (self.step event).Registered)
    (hnewer : ∀ websocket agent_id newer, self.endpoints websocket ≠ none →
      (self.step event).endpoints websocket = none → websocket < newer →
      self.active_connections agent_id = some newer →
      (self.step event).active_connections agent_id = some newer) : self.Kept event where
  registered := hregistered
  ended websocket hended agent_id hentry := by
    rw [hregistered agent_id websocket hentry] at hended
    cases hended
  newer := hnewer

private theorem kept_connect (h : self.Registered) (hnumbered : self.Numbered) (agent_id : String) :
    self.Kept (.connect agent_id) := by
  refine kept_of_registered ?_ ?_
  · intro other websocket hentry
    simp only [step, connect, Function.update_apply] at hentry ⊢
    split at hentry
    · rename_i hother
      cases hentry
      rw [if_pos rfl, hother]
    · have hrunning := h other websocket hentry
      rw [if_neg, hrunning]
      rintro rfl
      rw [hnumbered _ (Nat.le_refl _)] at hrunning
      cases hrunning
  · intro websocket other newer hrunning hended
    simp only [step, connect, Function.update_apply] at hended
    split at hended
    · cases hended
    · exact absurd hended hrunning

private theorem kept_heartbeat_iff (h : self.Registered) {websocket : ℕ} {payload_agent_id : Option String} :
    self.Kept (.heartbeat websocket payload_agent_id) ↔
      self.orderly (.heartbeat websocket payload_agent_id) := by
  simp only [orderly, Bool.or_eq_true, Bool.not_eq_true', Bool.eq_false_iff, ne_eq, holds_entry_iff,
    Option.all_eq_true, decide_eq_true_eq]
  constructor
  · intro hkept
    by_cases hentry : ∃ agent_id, self.endpoints websocket = some agent_id ∧
        self.active_connections agent_id = some websocket
    · obtain ⟨agent_id, hrunning, hentry⟩ := hentry
      have hafter := hkept.registered agent_id websocket hentry
      simp only [step, Function.update_self, hrunning, Option.map_some, Option.some.injEq] at hafter
      refine Or.inr fun other hother => ?_
      rw [hrunning] at hother
      cases hother
      exact hafter
    · exact Or.inl hentry
  · intro horderly
    refine kept_of_registered ?_ ?_
    · intro agent_id other hentry
      have hrunning := h agent_id other hentry
      simp only [step, Function.update_apply] at hentry ⊢
      split
      · rename_i heq
        subst heq
        rcases horderly with hnone | hsame
        · exact absurd ⟨agent_id, hrunning, hentry⟩ hnone
        · rw [hrunning, Option.map_some, hsame agent_id hrunning]
      · exact hrunning
    · intro other agent_id newer hrunning hended
      simp only [step, Function.update_apply] at hended
      split at hended
      · rename_i heq
        rw [← heq] at hended
        exact absurd (Option.map_eq_none_iff.mp hended) hrunning
      · exact absurd hended hrunning

/-- Leaving without `disconnect` is kept only if there is nothing to remove. -/
private theorem kept_leave_iff (h : self.Registered) {websocket : ℕ} {event : ConnectionEvent}
    (hstep : self.step event = self.leave websocket) : self.Kept event ↔ ¬ self.holds_entry websocket := by
  rw [holds_entry_iff]
  constructor
  · rintro hkept ⟨agent_id, _, hentry⟩
    refine hkept.ended websocket ?_ agent_id ?_
    · rw [hstep]
      exact Function.update_self ..
    · rw [hstep]
      exact hentry
  · intro hnone
    refine kept_of_registered ?_ ?_
    · rw [hstep]
      intro agent_id other hentry
      have hrunning := h agent_id other hentry
      simp only [leave, Function.update_apply]
      rw [if_neg, hrunning]
      rintro rfl
      exact hnone ⟨agent_id, hrunning, hentry⟩
    · rw [hstep]
      exact fun _ _ _ _ _ _ hentry => hentry

private theorem kept_send_disconnect_iff (h : self.Registered) {websocket : ℕ} :
    self.Kept (.send_disconnect websocket) ↔ self.orderly (.send_disconnect websocket) := by
  cases hrunning : self.endpoints websocket with
  | none =>
    have hstep : self.step (.send_disconnect websocket) = self := by simp [step, hrunning]
    simp only [orderly, hrunning, Option.all_none, iff_true]
    exact kept_of_registered (by rw [hstep]; exact h) (by rw [hstep]; exact fun _ _ _ _ _ _ hentry => hentry)
  | some agent_id =>
    have hstep : self.step (.send_disconnect websocket) = (self.disconnect agent_id).leave websocket := by
      simp [step, hrunning]
    simp only [orderly, hrunning, Option.all_some, Option.all_eq_true, decide_eq_true_eq]
    constructor
    · intro hkept entry hentry
      by_contra hnewer
      have hafter := hkept.newer websocket agent_id entry (by simp [hrunning])
        (by rw [hstep]; exact Function.update_self ..) (by omega) hentry
      simp [hstep, leave, disconnect] at hafter
    · intro holder
      refine kept_of_registered ?_ ?_
      · rw [hstep]
        intro other entry hentry
        simp only [leave, disconnect, Function.update_apply] at hentry ⊢
        split at hentry
        · cases hentry
        · rename_i hother
          have hrunning' := h other entry hentry
          rw [if_neg, hrunning']
          rintro rfl
          rw [hrunning] at hrunning'
          exact hother (Option.some.inj hrunning').symm
      · rw [hstep]
        intro other target newer hother hended hlt hentry
        simp only [leave, disconnect, Function.update_apply] at hended ⊢
        split at hended
        · rename_i heq
          subst heq
          rw [if_neg, hentry]
          rintro rfl
          have hle := holder newer hentry
          omega
        · exact absurd hended hother

private theorem kept_send_personal_message (h : self.Registered) (agent_id : String) (fails : Bool) :
    self.Kept (.send_personal_message agent_id fails) := by
  refine kept_of_registered ?_ ?_
  · intro other websocket hentry
    simp only [step] at hentry ⊢
    split at hentry
    · rename_i hfails
      rw [if_pos hfails]
      simp only [disconnect, Function.update_apply] at hentry ⊢
      split at hentry
      · cases hentry
      · exact h other websocket hentry
    · rename_i hfails
      rw [if_neg hfails]
      exact h other websocket hentry
  · intro websocket other newer hrunning hended
    simp only [step] at hended
    split at hended <;> exact absurd hended hrunning

/-- From a registry in order, a step is kept exactly if it is orderly. -/
theorem kept_iff_orderly (h : self.Registered) (hnumbered : self.Numbered) (event : ConnectionEvent) :
    self.Kept event ↔ self.orderly event := by
  cases event with
  | connect agent_id => exact iff_of_true (kept_connect h hnumbered agent_id) rfl
  | heartbeat websocket payload_agent_id => exact kept_heartbeat_iff h
  | receive_error websocket | error websocket =>
    rw [kept_leave_iff h rfl]
    simp [orderly]
  | send_disconnect websocket => exact kept_send_disconnect_iff h
  | send_personal_message agent_id fails => exact iff_of_true (kept_send_personal_message h agent_id fails) rfl

end Step

/-- The registry is in order along a run exactly if every event of it is orderly. -/
theorem kept_along_iff (events : List ConnectionEvent) :
    transition.Along step Kept {} events ↔ transition.Along step (fun self event => self.orderly event) {} events := by
  suffices h : ∀ self : Connections, self.Registered → self.Numbered → (transition.Along step Kept self events ↔
      transition.Along step (fun self event => self.orderly event) self events) from
    h {} (fun _ _ hentry => nomatch hentry) (fun _ _ => rfl)
  induction events with
  | nil => exact fun _ _ _ => Iff.rfl
  | cons event events ih =>
    intro self hregistered hnumbered
    rw [transition.along_cons, transition.along_cons, kept_iff_orderly hregistered hnumbered]
    exact and_congr_right fun horderly =>
      ih _ ((kept_iff_orderly hregistered hnumbered event).mpr horderly).registered (hnumbered.step event)

/-- The client of a registered agent disconnects: the receive loop breaks, and the entry stays. -/
theorem not_kept_receive_error :
    ¬ transition.Along step Kept {} [.connect "web-1", .receive_error 0] :=
  fun h => h.2.1.ended 0 rfl "web-1" rfl

end Connections

end larp
