import ActiveResponse.Lib.LiveLoop
import ActiveResponse.Lib.SlotDict
import ActiveResponse.Websocket.Connections

namespace larp

/-- `ConnectionManager.active_connections`. Websockets are numbered in the order in which they are registered. -/
structure ActiveConnections extends SlotDict String ℕ where
  accepted : ℕ := 0
  numbered : ∀ entry ∈ toSlotDict.items, entry.2 < accepted := by simp [SlotDict.items]

inductive ActiveConnectionsEvent where
  | connect (agent_id : String) (resized : Bool)
  | disconnect (agent_id : String)

namespace ActiveConnections

theorem numbered_insert (self : ActiveConnections) (agent_id : String) (resized : Bool) :
    ∀ entry ∈ (self.insert agent_id self.accepted resized).items, entry.2 < self.accepted + 1 := by
  intro entry hentry
  by_cases hmem : agent_id ∈ self.keys
  · rw [SlotDict.items_insert_of_mem hmem] at hentry
    obtain ⟨before, hbefore, rfl⟩ := List.mem_map.mp hentry
    unfold SlotDict.replace
    split
    · exact Nat.lt_succ_self _
    · exact Nat.lt_succ_of_lt (self.numbered before hbefore)
  · rw [SlotDict.items_insert_of_not_mem hmem] at hentry
    rcases List.mem_append.mp hentry with hbefore | hnew
    · exact Nat.lt_succ_of_lt (self.numbered entry hbefore)
    · rw [List.mem_singleton.mp hnew]
      exact Nat.lt_succ_self _

/-- `ConnectionManager.connect`, once the websocket is accepted. -/
def connect (self : ActiveConnections) (agent_id : String) (resized : Bool) : ActiveConnections where
  toSlotDict := self.insert agent_id self.accepted resized
  accepted := self.accepted + 1
  numbered := self.numbered_insert agent_id resized

/-- `ConnectionManager.disconnect`. -/
def disconnect (self : ActiveConnections) (agent_id : String) : ActiveConnections :=
  if agent_id ∈ self.keys then
    { toSlotDict := self.delete agent_id
      accepted := self.accepted
      numbered := by
        intro entry hentry
        rw [SlotDict.items_delete] at hentry
        exact self.numbered entry (List.mem_filter.mp hentry).1 }
  else self

def apply (self : ActiveConnections) : ActiveConnectionsEvent → ActiveConnections
  | .connect agent_id resized => self.connect agent_id resized
  | .disconnect agent_id => self.disconnect agent_id

/-- The list `disconnected`: the agents to which a send has failed. -/
def disconnected (sent : List ((String × ℕ) × Bool)) : List String :=
  (sent.filter fun send => send.2).map fun send => send.1.1

/-- The second loop of `ConnectionManager.broadcast`. -/
def finish (self : ActiveConnections) (sent : List ((String × ℕ) × Bool)) : ActiveConnections :=
  (disconnected sent).foldl disconnect self

/-- The dictionary behaves like the map of the registry. -/
theorem get_connect (self : ActiveConnections) (registry : Connections) (agent_id : String) (resized : Bool)
    (h : self.get = registry.active_connections) (haccepted : self.accepted = registry.accepted) :
    (self.connect agent_id resized).get = (registry.connect agent_id).active_connections := by
  refine (SlotDict.get_insert self.toSlotDict agent_id self.accepted resized).trans ?_
  rw [h, haccepted]
  rfl

theorem get_disconnect (self : ActiveConnections) (registry : Connections) (agent_id : String)
    (h : self.get = registry.active_connections) :
    (self.disconnect agent_id).get = (registry.disconnect agent_id).active_connections := by
  unfold disconnect
  split
  · refine (SlotDict.get_delete self.toSlotDict agent_id).trans ?_
    rw [h]
    rfl
  · rename_i hmem
    have hnone : registry.active_connections agent_id = none := by
      rw [← h]
      exact SlotDict.get_eq_none hmem
    rw [h]
    exact (Function.update_eq_self_iff.mpr hnone.symm).symm

end ActiveConnections

/-- `ConnectionManager.broadcast`. The result of a send says whether it has failed, which the loop takes note of. -/
def ConnectionManager.broadcast :
    LiveLoop ActiveConnections (String × ℕ) SlotDict.Cursor Bool ActiveConnectionsEvent where
  elements self := self.items
  apply := ActiveConnections.apply
  start self := self.iter
  next self cursor := self.next cursor
  aborts _ := false
  finish := ActiveConnections.finish
  known self entry := entry.2 < self.accepted
  ahead self cursor := self.ahead cursor
  Valid self cursor := self.Valid cursor
  start_valid _ := SlotDict.valid_iter
  start_ahead _ := SlotDict.ahead_iter
  elements_nodup self := self.items_nodup
  ahead_known self _ entry hentry := self.numbered entry (SlotDict.ahead_sublist.mem hentry)
  next_valid _ _ hvalid := hvalid.next

/-- `DashboardConnectionManager.active_connections`. -/
structure DashboardConnections where
  active_connections : List ℕ := []
  accepted : ℕ := 0
  nodup : active_connections.Nodup := by exact List.nodup_nil
  numbered : ∀ websocket ∈ active_connections, websocket < accepted := by simp

inductive DashboardConnectionsEvent where
  | connect
  | disconnect (websocket : ℕ)

namespace DashboardConnections

/-- `DashboardConnectionManager.connect`, once the websocket is accepted. -/
def connect (self : DashboardConnections) : DashboardConnections where
  active_connections := self.active_connections ++ [self.accepted]
  accepted := self.accepted + 1
  nodup := by
    refine List.nodup_append.mpr ⟨self.nodup, List.nodup_singleton _, ?_⟩
    rintro websocket hbefore _ hnew rfl
    exact absurd (self.numbered websocket hbefore) (by rw [List.mem_singleton.mp hnew]; exact Nat.lt_irrefl _)
  numbered := by
    intro websocket hmem
    rcases List.mem_append.mp hmem with hbefore | hnew
    · exact Nat.lt_succ_of_lt (self.numbered websocket hbefore)
    · rw [List.mem_singleton.mp hnew]
      exact Nat.lt_succ_self _

/-- `DashboardConnectionManager.disconnect`. A websocket that is not in the list is a `ValueError`. -/
def disconnect (self : DashboardConnections) (websocket : ℕ) : DashboardConnections :=
  { self with
    active_connections := self.active_connections.erase websocket
    nodup := self.nodup.erase websocket
    numbered := fun other hother => self.numbered other (List.mem_of_mem_erase hother) }

def apply (self : DashboardConnections) : DashboardConnectionsEvent → DashboardConnections
  | .connect => self.connect
  | .disconnect websocket => self.disconnect websocket

/-- The iterator of a list is a position in it. -/
def next (self : DashboardConnections) (index : ℕ) : Option (ℕ × ℕ) :=
  self.active_connections[index]?.map fun connection => (connection, index + 1)

theorem next_ahead (self : DashboardConnections) (index : ℕ) :
    (self.next index = none ∧ self.active_connections.drop index = []) ∨
      ∃ connection index', self.next index = some (connection, index') ∧
        self.active_connections.drop index = connection :: self.active_connections.drop index' := by
  unfold next
  by_cases hindex : index < self.active_connections.length
  · refine Or.inr ⟨self.active_connections[index], index + 1, ?_, List.drop_eq_getElem_cons hindex⟩
    rw [List.getElem?_eq_getElem hindex, Option.map_some]
  · refine Or.inl ⟨?_, List.drop_eq_nil_of_le (by omega)⟩
    rw [List.getElem?_eq_none (by omega), Option.map_none]

end DashboardConnections

/-- `DashboardConnectionManager.broadcast`. A failed send leaves the loop. -/
def DashboardConnectionManager.broadcast : LiveLoop DashboardConnections ℕ ℕ Bool DashboardConnectionsEvent where
  elements self := self.active_connections
  apply := DashboardConnections.apply
  start _ := 0
  next self index := some (self.next index)
  aborts failed := failed
  finish self _ := self
  known self websocket := websocket < self.accepted
  ahead self index := self.active_connections.drop index
  Valid _ _ := True
  start_valid _ := trivial
  start_ahead _ := rfl
  elements_nodup self := self.nodup
  ahead_known self _ websocket hmem := self.numbered websocket (List.mem_of_mem_drop hmem)
  next_valid self index _ := by
    obtain ⟨hnext, hahead⟩ | ⟨connection, index', hnext, hahead⟩ := self.next_ahead index
    · exact Or.inl ⟨congrArg some hnext, hahead⟩
    · exact Or.inr ⟨connection, index', congrArg some hnext, hahead, trivial⟩

/-- A broadcast has not raised, and each connection that was registered throughout and to which the send has not
failed has received the message exactly once. -/
structure Delivered {E : Type} [DecidableEq E] (outcome : LiveLoop.Outcome E Bool) : Prop where
  returned : outcome.raised = false
  received : ∀ connection ∈ outcome.throughout, (connection, true) ∉ outcome.visited →
    ((outcome.visited.filter fun send => !send.2).map Prod.fst).count connection = 1

/-- The broadcasts that end in a step are delivered. -/
def deliveryLaw {C E K V : Type} [DecidableEq E] (broadcast : LiveLoop C E K Bool V)
    (s : LiveLoop.State C E K Bool) (next : LiveLoop.Step Bool V) : Prop :=
  ∀ outcome, (broadcast.step s next).ended = some outcome → Delivered outcome

/-- The condition on a step of the agents' connections. While another broadcast is under way, no agent is registered
for the first time and none that is registered leaves, be it that a broadcast that comes to its end removes it. -/
def ConnectionManager.steady (s : LiveLoop.State ActiveConnections (String × ℕ) SlotDict.Cursor Bool) :
    LiveLoop.Step Bool ActiveConnectionsEvent → Prop
  | .begin _ => True
  | .change (.connect agent_id _) => (∃ id, (s.loops id).isSome) → agent_id ∈ s.coll.keys
  | .change (.disconnect agent_id) => (∃ id, (s.loops id).isSome) → agent_id ∉ s.coll.keys
  | .served id failed => ∀ loop, s.loops id = some loop → s.coll.next loop.cursor = some none →
    (∃ other, other ≠ id ∧ (s.loops other).isSome) →
      ∀ agent_id ∈ ActiveConnections.disconnected (loop.visited ++ [(loop.current, failed)]), agent_id ∉ s.coll.keys

/-- The condition on a step of the dashboards' connections. No send fails, and a connection that a broadcast has
come to stays in the list until the broadcast has come to the last one. -/
def DashboardConnectionManager.steady (s : LiveLoop.State DashboardConnections ℕ ℕ Bool) :
    LiveLoop.Step Bool DashboardConnectionsEvent → Prop
  | .begin _ | .change .connect => True
  | .served _ failed => failed = false
  | .change (.disconnect websocket) => ∀ id loop, s.loops id = some loop →
    websocket ∉ s.coll.active_connections.take loop.cursor ∨ s.coll.active_connections.length ≤ loop.cursor

theorem Delivered.of_complete {E : Type} [DecidableEq E] {outcome : LiveLoop.Outcome E Bool} (h : outcome.Complete) :
    Delivered outcome where
  returned := h.returned
  received connection hthroughout hsent := by
    have honce := h.once connection hthroughout
    have hall : (outcome.visited.map Prod.fst).count connection =
        ((outcome.visited.filter fun send => !send.2).map Prod.fst).count connection := by
      rw [List.count_eq_countP, List.count_eq_countP, List.countP_map, List.countP_map, List.countP_filter]
      refine List.countP_congr fun send hsend => ?_
      have hnot : send.1 = connection → send.2 = false := by
        rintro rfl
        by_contra hfailed
        rw [Bool.not_eq_false] at hfailed
        exact hsent (by rwa [← hfailed])
      simpa using hnot
    rw [← hall, honce]

section ConnectionManager

variable {self : ActiveConnections} {cursor : SlotDict.Cursor}

/-- A registered agent that connects again takes the place of its entry. -/
theorem ActiveConnections.stable_connect {agent_id : String} (h : agent_id ∈ self.keys) (resized : Bool) :
    ConnectionManager.broadcast.Stable self (self.connect agent_id resized) cursor where
  valid hvalid := by
    refine ⟨?_, ?_⟩
    · change cursor.used = (self.insert agent_id self.accepted resized).items.length
      rw [SlotDict.items_insert_of_mem h, List.length_map]
      exact hvalid.used
    · change cursor.len = ((self.insert agent_id self.accepted resized).ahead cursor).length
      rw [SlotDict.ahead_insert_of_mem h, List.length_map]
      exact hvalid.len
  nodup _ := (self.connect agent_id resized).items_nodup.sublist SlotDict.ahead_sublist
  kept entry hahead hentry := by
    change entry ∈ (self.insert agent_id self.accepted resized).ahead cursor
    change entry ∈ (self.insert agent_id self.accepted resized).items at hentry
    rw [SlotDict.items_insert_of_mem h] at hentry
    rw [SlotDict.ahead_insert_of_mem h]
    obtain ⟨before, -, hreplace⟩ := List.mem_map.mp hentry
    refine List.mem_map.mpr ⟨entry, hahead, ?_⟩
    unfold SlotDict.replace at hreplace ⊢
    grind
  fresh entry hahead := by
    change entry ∈ (self.insert agent_id self.accepted resized).ahead cursor at hahead
    rw [SlotDict.ahead_insert_of_mem h] at hahead
    obtain ⟨before, hbefore, rfl⟩ := List.mem_map.mp hahead
    unfold SlotDict.replace
    split
    · exact Or.inr (Nat.lt_irrefl self.accepted)
    · exact Or.inl hbefore
  known _ hknown := Nat.lt_succ_of_lt hknown

/-- Disconnecting agents that are not registered has no effect. -/
theorem ActiveConnections.disconnect_eq_self {agent_id : String} (h : agent_id ∉ self.keys) :
    self.disconnect agent_id = self := if_neg h

theorem ActiveConnections.foldl_disconnect_eq_self {agent_ids : List String}
    (h : ∀ agent_id ∈ agent_ids, agent_id ∉ self.keys) : agent_ids.foldl disconnect self = self := by
  induction agent_ids with
  | nil => rfl
  | cons agent_id agent_ids ih =>
    rw [List.foldl_cons, disconnect_eq_self (h agent_id List.mem_cons_self)]
    exact ih fun other hother => h other (List.mem_cons_of_mem agent_id hother)

/-- A broadcast that goes on after the number of registered agents has changed raises. -/
theorem ConnectionManager.raises_of_length {s : LiveLoop.State ActiveConnections (String × ℕ) SlotDict.Cursor Bool}
    {id : ℕ} {loop : LiveLoop.Waiting (String × ℕ) SlotDict.Cursor Bool} (hloop : s.loops id = some loop)
    (hlength : loop.cursor.used ≠ s.coll.items.length) (failed : Bool) :
    ∃ outcome, (broadcast.step s (.served id failed)).ended = some outcome ∧ outcome.raised = true := by
  have hnext : broadcast.next s.coll loop.cursor = none := SlotDict.next_eq_none hlength
  have hbody : broadcast.aborts failed = false := rfl
  refine ⟨{ raised := true
            visited := loop.visited ++ [(loop.current, failed)]
            throughout := loop.throughout }, ?_, rfl⟩
  rw [LiveLoop.step, hloop]
  dsimp only
  rw [hbody, if_neg Bool.false_ne_true, LiveLoop.advance, hnext]

theorem ConnectionManager.calm_of_steady {s : LiveLoop.State ActiveConnections (String × ℕ) SlotDict.Cursor Bool}
    {next : LiveLoop.Step Bool ActiveConnectionsEvent} (h : steady s next) : broadcast.Calm s next where
  body _ _ _ := rfl
  others id loop hloop hother := by
    have hbusy : (s.loops id).isSome := by rw [hloop, Option.isSome_some]
    obtain hsame | ⟨event, rfl, happly⟩ | ⟨_, -, hfinish⟩ | ⟨ending, failed, last, rfl, hlast, hend, hfinish⟩ :=
      broadcast.step_coll s next
    · exact LiveLoop.Stable.of_eq hsame
    · rw [happly]
      cases event with
      | connect agent_id resized => exact ActiveConnections.stable_connect (h ⟨id, hbusy⟩) resized
      | disconnect agent_id =>
        have hself : broadcast.apply s.coll (.disconnect agent_id) = s.coll :=
          ActiveConnections.disconnect_eq_self (h ⟨id, hbusy⟩)
        exact LiveLoop.Stable.of_eq hself
    · exact LiveLoop.Stable.of_eq hfinish
    · have hne : id ≠ ending := fun heq => hother (congrArg some heq.symm)
      have hself : broadcast.finish s.coll (last.visited ++ [(last.current, failed)]) = s.coll :=
        ActiveConnections.foldl_disconnect_eq_self (h last hlast hend ⟨id, hne, hbusy⟩)
      exact LiveLoop.Stable.of_eq (hfinish.trans hself)

end ConnectionManager

section DashboardConnectionManager

variable {self : DashboardConnections} {index : ℕ}

theorem DashboardConnections.stable_connect (self : DashboardConnections) (index : ℕ) :
    DashboardConnectionManager.broadcast.Stable self self.connect index where
  valid _ := trivial
  nodup _ := self.connect.nodup.sublist (List.drop_sublist _ _)
  kept websocket hahead _ := by
    change websocket ∈ (self.active_connections ++ [self.accepted]).drop index
    rw [List.drop_append]
    exact List.mem_append_left _ hahead
  fresh websocket hahead := by
    change websocket ∈ (self.active_connections ++ [self.accepted]).drop index at hahead
    rw [List.drop_append] at hahead
    rcases List.mem_append.mp hahead with hbefore | hnew
    · exact Or.inl hbefore
    · rw [List.mem_singleton.mp (List.mem_of_mem_drop hnew)]
      exact Or.inr (Nat.lt_irrefl self.accepted)
  known _ hknown := Nat.lt_succ_of_lt hknown

theorem DashboardConnections.drop_disconnect {websocket : ℕ}
    (h : websocket ∉ self.active_connections.take index ∨ self.active_connections.length ≤ index) :
    (self.disconnect websocket).active_connections.drop index =
      (self.active_connections.drop index).erase websocket := by
  change (self.active_connections.erase websocket).drop index = _
  by_cases hend : self.active_connections.length ≤ index
  · have hlength := (List.erase_sublist (a := websocket) (l := self.active_connections)).length_le
    rw [List.drop_eq_nil_of_le hend, List.drop_eq_nil_of_le (by omega), List.erase_nil]
  · have htake := h.resolve_right hend
    have hindex : (self.active_connections.take index).length = index := List.length_take_of_le (by omega)
    conv_lhs => rw [← List.take_append_drop index self.active_connections]
    rw [List.erase_append_right _ htake, List.drop_left' hindex]

/-- The removal of a connection that the iterator has not come to leaves the others ahead of it. -/
theorem DashboardConnections.stable_disconnect {websocket : ℕ}
    (h : websocket ∉ self.active_connections.take index ∨ self.active_connections.length ≤ index) :
    DashboardConnectionManager.broadcast.Stable self (self.disconnect websocket) index where
  valid _ := trivial
  nodup _ := (self.disconnect websocket).nodup.sublist (List.drop_sublist _ _)
  kept other hahead hother := by
    have hne : other ≠ websocket := (self.nodup.mem_erase_iff.mp hother).1
    change other ∈ (self.disconnect websocket).active_connections.drop index
    rw [drop_disconnect h]
    exact (List.mem_erase_of_ne hne).mpr hahead
  fresh other hahead := by
    change other ∈ (self.disconnect websocket).active_connections.drop index at hahead
    rw [drop_disconnect h] at hahead
    exact Or.inl (List.mem_of_mem_erase hahead)
  known _ hknown := hknown

theorem DashboardConnectionManager.calm_of_steady {s : LiveLoop.State DashboardConnections ℕ ℕ Bool}
    {next : LiveLoop.Step Bool DashboardConnectionsEvent} (h : steady s next) : broadcast.Calm s next where
  body _ _ heq := by
    subst heq
    exact h
  others id loop hloop _ := by
    obtain hsame | ⟨event, rfl, happly⟩ | ⟨_, -, hfinish⟩ | ⟨_, _, _, -, -, -, hfinish⟩ := broadcast.step_coll s next
    · exact LiveLoop.Stable.of_eq hsame
    · rw [happly]
      cases event with
      | connect => exact s.coll.stable_connect loop.cursor
      | disconnect websocket => exact DashboardConnections.stable_disconnect (h id loop hloop)
    · exact LiveLoop.Stable.of_eq hfinish
    · exact LiveLoop.Stable.of_eq hfinish

end DashboardConnectionManager

/-- In a run of calm steps the broadcasts are delivered. -/
theorem deliveryLaw_along {C E K V : Type} [DecidableEq E] (broadcast : LiveLoop C E K Bool V) (coll : C)
    (steps : List (LiveLoop.Step Bool V))
    (h : transition.Along broadcast.step broadcast.Calm { coll := coll } steps) :
    transition.Along broadcast.step (deliveryLaw broadcast) { coll := coll } steps :=
  (broadcast.complete_along coll steps h).mono fun _ _ hcomplete outcome hended =>
    Delivered.of_complete (hcomplete outcome hended)

/-- In every run of broadcasts, connects and disconnects whose steps are steady, no broadcast raises, and every
connection that is registered throughout it, and to which the send does not fail, receives the message exactly
once. -/
theorem broadcast_delivered (agents : ActiveConnections) (dashboards : DashboardConnections)
    (agent_steps : List (LiveLoop.Step Bool ActiveConnectionsEvent))
    (dashboard_steps : List (LiveLoop.Step Bool DashboardConnectionsEvent)) :
    (transition.Along ConnectionManager.broadcast.step ConnectionManager.steady { coll := agents } agent_steps →
      transition.Along ConnectionManager.broadcast.step (deliveryLaw ConnectionManager.broadcast)
        { coll := agents } agent_steps) ∧
    (transition.Along DashboardConnectionManager.broadcast.step DashboardConnectionManager.steady
        { coll := dashboards } dashboard_steps →
      transition.Along DashboardConnectionManager.broadcast.step (deliveryLaw DashboardConnectionManager.broadcast)
        { coll := dashboards } dashboard_steps) := by
  constructor
  · intro hsteady
    refine deliveryLaw_along ConnectionManager.broadcast agents agent_steps ?_
    exact hsteady.mono fun _ _ => ConnectionManager.calm_of_steady
  · intro hsteady
    refine deliveryLaw_along DashboardConnectionManager.broadcast dashboards dashboard_steps ?_
    exact hsteady.mono fun _ _ => DashboardConnectionManager.calm_of_steady

/-- Two registered agents, of which the second connects again while the message is sent to the first; and a
dashboard that connects while the message is sent to the first of two. -/
theorem broadcast_delivered_reconnect :
    transition.Along ConnectionManager.broadcast.step (deliveryLaw ConnectionManager.broadcast)
      { coll := { slots := [some ("agent-1", 0), some ("agent-2", 1)], keys_nodup := by decide
                  accepted := 2, numbered := by decide } }
      [.begin 0, .change (.connect "agent-2" false), .served 0 false, .served 0 false] ∧
    transition.Along DashboardConnectionManager.broadcast.step (deliveryLaw DashboardConnectionManager.broadcast)
      { coll := { active_connections := [0, 1], accepted := 2, nodup := by decide, numbered := by decide } }
      [.begin 0, .change .connect, .served 0 false, .served 0 false, .served 0 false] := by
  refine (broadcast_delivered _ _ _ _).imp (fun h => h ⟨trivial, ?_, ?_, ?_, trivial⟩)
    fun h => h ⟨trivial, trivial, rfl, rfl, rfl, trivial⟩
  · exact fun _ => List.mem_cons_of_mem _ List.mem_cons_self
  · rintro _ ⟨⟩ - -
    exact List.forall_mem_nil _
  · rintro _ ⟨⟩ - -
    exact List.forall_mem_nil _

/-- An agent connects while the message is sent to the only one there is; and a dashboard that has received the
message disconnects while it is sent to the second of three. -/
theorem not_broadcast_delivered_connect :
    ¬ transition.Along ConnectionManager.broadcast.step (deliveryLaw ConnectionManager.broadcast)
      { coll := { slots := [some ("agent-1", 0)], keys_nodup := by decide, accepted := 1, numbered := by decide } }
      [.begin 0, .change (.connect "agent-2" false), .served 0 false] ∧
    ¬ transition.Along DashboardConnectionManager.broadcast.step (deliveryLaw DashboardConnectionManager.broadcast)
      { coll := { active_connections := [0, 1, 2], accepted := 3, nodup := by decide, numbered := by decide } }
      [.begin 0, .served 0 false, .change (.disconnect 0), .served 0 false] := by
  constructor
  · intro h
    have hraised := (h.2.2.1 _ rfl).returned
    cases hraised
  · intro h
    have hreceived := (h.2.2.2.1 _ rfl).received 2 (by decide) (by decide)
    exact absurd hreceived (by decide)

end larp
