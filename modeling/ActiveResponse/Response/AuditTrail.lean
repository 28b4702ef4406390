import ActiveResponse.System

namespace larp

/-- The events that were logged, with their actions. -/
def Database.events (db : Database) : List (String × String) :=
  db.action_audit_logs.map fun log => (log.action_id, log.event)

/-- `ActionAuditLogRepository.get_by_action`: the events of an action, oldest first. -/
def Database.trail (db : Database) (action_id : String) : List String :=
  (db.events.filter fun event => event.1 = action_id).map Prod.snd

/-- How a rollback begins in the log. -/
def requested_event (actor : String) : String :=
  if actor = "system" then "auto_rollback_requested" else "undo_requested"

/-- How it ends there. -/
def undone_event (actor : String) : String := if actor = "system" then "auto_undone" else "undone"

/-- The trails of an action, with the status that each of them leaves. -/
inductive Trail : List String → ResponseActionStatus → Prop where
  | created : Trail ["created"] .pending
  | applied {events : List String} {status : ResponseActionStatus} (h : Trail events status) :
      Trail (events ++ ["applied"]) .applied
  | undone {events : List String} (actor : String) (h : Trail events .applied) :
      Trail (events ++ [requested_event actor, undone_event actor]) .reverted
  | failed {events : List String} (actor : String) (h : Trail events .applied) :
      Trail (events ++ [requested_event actor, "failed"]) .applied

/-- The trail leaves the status of the action, unless the agent has reported a failure, which is not logged. -/
def ResponseAction.Explained (self : ResponseAction) (events : List String) : Prop :=
  ∃ status, Trail events status ∧ (self.status = status ∨ self.status = .failed)

/-- The log explains every action, and mentions no others. -/
structure Database.Audited (db : Database) : Prop where
  explained : ∀ action ∈ db.response_actions.rows, action.Explained (db.trail action.id)
  unknown : ∀ action_id, db.response_actions.get action_id = none → db.trail action_id = []

namespace Database

/-- The log has grown by these events. -/
def Logs (db db' : Database) (added : List (String × String)) : Prop :=
  ∃ logs : List ActionAuditLog, db'.action_audit_logs = db.action_audit_logs ++ logs ∧
    logs.map (fun log => (log.action_id, log.event)) = added

theorem Logs.refl (db : Database) : db.Logs db [] := ⟨[], (List.append_nil _).symm, rfl⟩

theorem Logs.trans {db db' db'' : Database} {first second : List (String × String)} (h : db.Logs db' first)
    (h' : db'.Logs db'' second) : db.Logs db'' (first ++ second) := by
  obtain ⟨logs, hlogs, rfl⟩ := h
  obtain ⟨logs', hmore, rfl⟩ := h'
  exact ⟨logs ++ logs', by rw [hmore, hlogs, List.append_assoc], List.map_append⟩

theorem Logs.events {db db' : Database} {added : List (String × String)} (h : db.Logs db' added) :
    db'.events = db.events ++ added := by
  obtain ⟨logs, hlogs, rfl⟩ := h
  rw [Database.events, hlogs, List.map_append]
  rfl

theorem record_event_logged {db db' : Database} {action_id event actor : String} {reason : Option Json}
    {metadata : Dict} (h : db.record_event action_id event actor reason metadata = .ok db') :
    db.Logs db' [(action_id, event)] ∧ db'.response_actions = db.response_actions := by
  unfold record_event at h
  rw [bind_eq_ok_iff] at h
  obtain ⟨text, -, h⟩ := h
  obtain rfl := Except.ok.inj h
  exact ⟨⟨[⟨action_id, event, actor, text, metadata⟩], rfl, rfl⟩, rfl⟩

/-- What a transaction does to the actions and to the log. -/
inductive AuditEffect (db db' : Database) : Prop where
  | same (hrows : db'.response_actions = db.response_actions) (hlogs : db.Logs db' [])
  | created {action : ResponseAction} (hinsert : db.response_actions.insert action = some db'.response_actions)
      (hstatus : action.status = .pending) (hlogs : db.Logs db' [(action.id, "created")])
  | modified {action : ResponseAction} {f : ResponseAction → ResponseAction} {added : List String}
      (hget : db.response_actions.get action.id = some action)
      (hrows : db'.response_actions = db.response_actions.modify action.id f)
      (hkey : ∀ row, Keyed.key (f row) = Keyed.key row) (hlogs : db.Logs db' (added.map (action.id, ·)))
      (hexplained : ∀ events, action.Explained events → (f action).Explained (events ++ added))

theorem trail_append {db db' : Database} {added : List (String × String)} (h : db.Logs db' added)
    (action_id : String) :
    db'.trail action_id = db.trail action_id ++ (added.filter fun event => event.1 = action_id).map Prod.snd := by
  rw [trail, h.events, List.filter_append, List.map_append, ← trail]

/-- The events of one action extend its own trail. -/
theorem trail_append_map {db db' : Database} {action_id : String} {added : List String}
    (h : db.Logs db' (added.map (action_id, ·))) (other : String) :
    db'.trail other = if other = action_id then db.trail other ++ added else db.trail other := by
  rw [trail_append h, List.filter_map, List.map_map]
  split
  · rename_i hid
    subst hid
    simp [Function.comp_def]
  · rename_i hid
    simp [Function.comp_def, Ne.symm hid]

/-- A new action is pending, and its creation is the first that the log knows of it. -/
theorem Audited.created {db db' : Database} (haudited : db.Audited) {action : ResponseAction}
    (hinsert : db.response_actions.insert action = some db'.response_actions) (hstatus : action.status = .pending)
    (hlogs : db.Logs db' [(action.id, "created")]) : db'.Audited := by
  have hnew : db.response_actions.get action.id = none := (Table.insert_eq_some_iff.mp hinsert).1
  have htrail : ∀ id, db'.trail id = if id = action.id then db.trail id ++ ["created"] else db.trail id :=
    trail_append_map hlogs
  refine ⟨fun row hrow => ?_, fun id hget => ?_⟩
  · rw [htrail]
    obtain hold | rfl := (Table.mem_of_insert hinsert).mp hrow
    · have hother : row.id ≠ action.id := by
        intro hid
        have hget : db.response_actions.get row.id = some row := Table.get_of_mem hold
        rw [hid, hnew] at hget
        cases hget
      rw [if_neg hother]
      exact haudited.explained row hold
    · rw [if_pos rfl, haudited.unknown row.id hnew]
      exact ⟨.pending, .created, .inl hstatus⟩
  · rw [Table.get_of_insert hinsert] at hget
    split at hget
    · cases hget
    · rename_i hother
      rw [htrail, if_neg (show id ≠ action.id from Ne.symm hother)]
      exact haudited.unknown id hget

/-- A write to one action is explained by the events that are logged with it. -/
theorem Audited.modified {db db' : Database} (haudited : db.Audited) {action : ResponseAction}
    {f : ResponseAction → ResponseAction} {added : List String}
    (hget : db.response_actions.get action.id = some action)
    (hrows : db'.response_actions = db.response_actions.modify action.id f)
    (hkey : ∀ row, Keyed.key (f row) = Keyed.key row) (hlogs : db.Logs db' (added.map (action.id, ·)))
    (hexplained : ∀ events, action.Explained events → (f action).Explained (events ++ added)) : db'.Audited := by
  have htrail := trail_append_map hlogs
  refine ⟨fun row hrow => ?_, fun id hnone => ?_⟩
  · rw [hrows] at hrow
    obtain ⟨old, hold, rfl⟩ := (Table.mem_modify hkey).mp hrow
    by_cases hid : action.id = old.id
    · have haction : old = action := by
        have hgot : db.response_actions.get old.id = some old := Table.get_of_mem hold
        rw [← hid, hget] at hgot
        exact (Option.some.inj hgot).symm
      have hkept : (f old).id = action.id := (hkey old).trans (congrArg ResponseAction.id haction)
      rw [if_pos (show action.id = Keyed.key old from hid), htrail, if_pos hkept, hkept, haction]
      exact hexplained _ (haudited.explained action (haction ▸ hold))
    · rw [if_neg (show action.id ≠ Keyed.key old from hid), htrail, if_neg (Ne.symm hid)]
      exact haudited.explained old hold
  · rw [hrows, Table.get_modify hkey] at hnone
    split at hnone
    · rename_i hid
      rw [← hid, hget] at hnone
      cases hnone
    · rename_i hother
      rw [htrail, if_neg (Ne.symm hother)]
      exact haudited.unknown id hnone

theorem AuditEffect.audited {db db' : Database} (h : AuditEffect db db') (haudited : db.Audited) : db'.Audited := by
  cases h with
  | same hrows hlogs =>
    have htrail (id : String) : db'.trail id = db.trail id := (trail_append hlogs id).trans (List.append_nil _)
    refine ⟨fun action haction => ?_, fun id hget => ?_⟩
    · rw [htrail]
      exact haudited.explained action (hrows ▸ haction)
    · rw [htrail]
      exact haudited.unknown id (hrows ▸ hget)
  | created hinsert hstatus hlogs => exact haudited.created hinsert hstatus hlogs
  | modified hget hrows hkey hlogs hexplained => exact haudited.modified hget hrows hkey hlogs hexplained

/-! ## The transactions -/

variable {is_datetime : Json → Bool} {db db' : Database}

theorem create_audit {now : Time} {action_id cmd_id : String} {req : ActionRequest} {action : ResponseAction}
    (h : db.create_and_apply_action now action_id cmd_id req = .ok (action, db')) : AuditEffect db db' := by
  unfold create_and_apply_action at h
  rw [bind_eq_ok_iff] at h
  obtain ⟨agent, -, h⟩ := h
  rw [bind_eq_ok_iff] at h
  obtain ⟨_, -, h⟩ := h
  rw [bind_eq_ok_iff] at h
  obtain ⟨settings, -, h⟩ := h
  rw [bind_eq_ok_iff] at h
  obtain ⟨_, -, h⟩ := h
  rw [bind_eq_ok_iff] at h
  obtain ⟨db₁, hadd, h⟩ := h
  rw [bind_eq_ok_iff] at h
  obtain ⟨db₂, hlog, h⟩ := h
  rw [bind_eq_ok_iff] at h
  obtain ⟨db₃, hcmd, h⟩ := h
  obtain ⟨response_actions, hinsert, rfl⟩ := add_response_action_ok hadd
  obtain ⟨hlogs, hrows⟩ := record_event_logged hlog
  obtain ⟨_, commands, _, rfl⟩ := add_command_ok hcmd
  obtain ⟨-, rfl⟩ := Prod.mk.inj (Except.ok.inj h)
  refine @AuditEffect.created _ _ (req.response_action db settings now action_id cmd_id) ?_ rfl hlogs
  rw [hinsert]
  exact congrArg some hrows.symm

theorem explained_acked (now : Time) (status : CommandStatus) {action : ResponseAction} {events : List String}
    (h : action.Explained events) :
    (action.acked now status).Explained (events ++ if status = .SUCCESS then ["applied"] else []) := by
  obtain ⟨old, htrail, -⟩ := h
  unfold ResponseAction.acked
  split
  · exact ⟨.applied, htrail.applied, .inl rfl⟩
  · rw [List.append_nil]
    exact ⟨old, htrail, .inr rfl⟩

/-- Commands and agents play no part. -/
theorem AuditEffect.congr {before after : Database} (h : AuditEffect before after)
    (hbefore : before.response_actions = db.response_actions ∧ before.action_audit_logs = db.action_audit_logs)
    (hafter : db'.response_actions = after.response_actions ∧ db'.action_audit_logs = after.action_audit_logs) :
    AuditEffect db db' := by
  obtain ⟨hrows, hlog⟩ := hbefore
  obtain ⟨hrows', hlog'⟩ := hafter
  have hlogged {added : List (String × String)} (h : before.Logs after added) : db.Logs db' added := by
    rw [Logs, hlog', ← hlog]
    exact h
  cases h with
  | same hsame hlogs => exact .same (hrows' ▸ hsame ▸ hrows) (hlogged hlogs)
  | created hinsert hstatus hlogs =>
    rw [hrows, ← hrows'] at hinsert
    exact .created hinsert hstatus (hlogged hlogs)
  | modified hget hmodify hkey hlogs hexplained =>
    rw [hrows] at hget hmodify
    exact .modified hget (hrows'.trans hmodify) hkey (hlogged hlogs) hexplained

theorem apply_ack_audit {now : Time} {agent_id : String} {status : CommandStatus} {cmd : Command}
    {action : Option ResponseAction} (hget : ∀ row, action = some row → db.response_actions.get row.id = some row)
    (h : db.apply_ack now agent_id status cmd action = .ok db') : AuditEffect db db' := by
  unfold apply_ack at h
  split at h
  · rename_i hsuccess
    rw [bind_eq_ok_iff] at h
    obtain ⟨db₁, haction, h⟩ := h
    obtain rfl := Except.ok.inj h
    cases action with
    | none =>
      obtain rfl := Except.ok.inj haction
      exact .same rfl (Logs.refl _)
    | some action =>
      obtain ⟨hlogs, hrows⟩ := record_event_logged haction
      refine @AuditEffect.modified _ _ action (.apply now) ["applied"] (hget action rfl) hrows (fun _ => rfl) hlogs
        fun events hexplained => ?_
      have happlied := explained_acked now .SUCCESS hexplained
      rwa [ResponseAction.acked_success] at happlied
  · rename_i hfailure
    obtain rfl := Except.ok.inj h
    cases action with
    | none => exact .same rfl (Logs.refl _)
    | some action =>
      refine @AuditEffect.modified _ _ action .fail [] (hget action rfl) rfl (fun _ => rfl) (Logs.refl _)
        fun events hexplained => ?_
      have hfailed := explained_acked now status hexplained
      rwa [ResponseAction.acked_of_ne_success now hfailure, if_neg hfailure] at hfailed

theorem ack_audit {now : Time} {agent_id : String} {payload : Json} {reply : Dict}
    (h : handle_command_ack is_datetime db now agent_id payload = .ok (reply, db')) : AuditEffect db db' := by
  unfold handle_command_ack at h
  rw [bind_eq_ok_iff] at h
  obtain ⟨dto, -, h⟩ := h
  rw [bind_eq_ok_iff] at h
  obtain ⟨⟨found, db₁⟩, hverify, h⟩ := h
  obtain ⟨rfl, rfl, -⟩ | ⟨cmd, -, rfl, rfl⟩ := verify_execution_ok hverify
  · obtain ⟨-, rfl⟩ := Prod.mk.inj (Except.ok.inj h)
    exact .same rfl (Logs.refl _)
  · simp only at h
    rw [bind_eq_ok_iff] at h
    obtain ⟨action, haction, h⟩ := h
    rw [bind_eq_ok_iff] at h
    obtain ⟨db₂, happly, h⟩ := h
    obtain ⟨-, rfl⟩ := Prod.mk.inj (Except.ok.inj h)
    refine (apply_ack_audit (fun row hrow => ?_) happly).congr ⟨rfl, rfl⟩ ⟨rfl, rfl⟩
    rw [hrow] at haction
    exact (associated_action_some haction).2

/-- A rollback logs how it begins and how it ends, or nothing. -/
theorem rollback_audit {now : Time} {cmd_id action_id reason actor : String} :
    AuditEffect db (db.rollback_action now cmd_id action_id reason actor).2 := by
  unfold rollback_action
  split
  · exact .same rfl (Logs.refl _)
  · rename_i action hget
    obtain rfl : action.id = action_id := Table.key_of_get hget
    unfold rollback_loaded
    split
    · exact .same rfl (Logs.refl _)
    · rename_i hcheck
      have hstatus := ResponseAction.check_undoable_eq_ok_iff.mp hcheck
      split
      · exact .same rfl (Logs.refl _)
      · rename_i requested hrequest
        obtain ⟨hlogs, hrows⟩ := record_event_logged hrequest
        split
        · exact .same rfl (Logs.refl _)
        · rename_i dispatched hdispatch
          obtain ⟨commands, rfl, -⟩ := dispatch_compensation_ok hdispatch
          have happlied (events : List String) (h : action.Explained events) : Trail events .applied := by
            obtain ⟨status, htrail, hsame⟩ := h
            rw [hstatus] at hsame
            obtain rfl | hfailed := hsame
            · exact htrail
            · cases hfailed
          split
          · split
            · exact .same rfl (Logs.refl _)
            · rename_i failed hfail
              obtain ⟨hmore, hrows'⟩ := record_event_logged hfail
              refine @AuditEffect.modified _ _ action (.set_status .applied ∘ .set_status .reverting)
                [requested_event actor, "failed"] hget (hrows'.trans ?_) (fun _ => rfl) (hlogs.trans hmore)
                fun events h => ⟨.applied, .failed actor (happlied events h), .inl rfl⟩
              rw [← Table.modify_modify (by simp) (by simp)]
              exact congrArg (fun table : Table ResponseAction => table.modify action.id _) hrows
          · rename_i cooldown_until _
            split
            · exact .same rfl (Logs.refl _)
            · rename_i finished hfinish
              unfold finish_rollback at hfinish
              rw [bind_eq_ok_iff] at hfinish
              obtain ⟨_, -, hfinish⟩ := hfinish
              obtain ⟨hmore, hrows'⟩ := record_event_logged hfinish
              refine @AuditEffect.modified _ _ action
                (.revert now actor reason cooldown_until ∘ .set_status .reverting)
                [requested_event actor, undone_event actor] hget (hrows'.trans ?_) (fun _ => rfl) (hlogs.trans hmore)
                fun events h => ⟨.reverted, .undone actor (happlied events h), .inl rfl⟩
              rw [← Table.modify_modify (by simp) (by simp)]
              exact congrArg (fun table : Table ResponseAction => table.modify action.id _) hrows

theorem heartbeat_audit (dto : HeartbeatDTO) : AuditEffect db (db.handle_heartbeat dto).2 := by
  refine .same (db.handle_heartbeat_response_actions dto) ?_
  have hlog : (db.handle_heartbeat dto).2.action_audit_logs = db.action_audit_logs := by
    simp only [handle_heartbeat, pull_pending_commands, update_heartbeat]
    split
    · rfl
    · split <;> rfl
  exact ⟨[], hlog.trans (List.append_nil _).symm, rfl⟩

theorem committed_audit {result : Except AppException (String × Database)}
    (h : ∀ id db', result = .ok (id, db') → AuditEffect db db') : AuditEffect db (db.committed result).2 := by
  cases result with
  | error e => exact .same rfl (Logs.refl _)
  | ok r => exact h r.1 r.2 rfl

/-- Only the transactions on actions write the log. -/
theorem perform_audit (op : Op) : AuditEffect db (db.perform is_datetime op).2 := by
  have heffect : Effect is_datetime db op (db.perform is_datetime op) := perform_effect op
  cases op with
  | create_and_apply_action now action_id cmd_id req =>
    refine committed_audit fun id db' h => ?_
    obtain ⟨⟨action, db₁⟩, hok, heq⟩ := map_eq_ok_iff.mp h
    obtain ⟨-, rfl⟩ := Prod.mk.inj heq
    exact create_audit hok
  | command_ack now agent_id payload =>
    refine committed_audit fun id db' h => ?_
    obtain ⟨⟨reply, db₁⟩, hok, heq⟩ := map_eq_ok_iff.mp h
    obtain ⟨-, rfl⟩ := Prod.mk.inj heq
    exact ack_audit hok
  | rollback_action now cmd_id action_id reason actor => exact rollback_audit
  | heartbeat dto => exact heartbeat_audit dto
  | _ =>
    generalize hanswer : db.perform is_datetime _ = answer at heffect ⊢
    cases heffect <;> exact .same rfl (Logs.refl _)

theorem step_audit (call : Call) : AuditEffect db (db.step is_datetime call) := by
  unfold step answer
  split
  · exact .same rfl (Logs.refl _)
  · exact perform_audit call.op

/-- The log of a transaction extends the log before it. -/
theorem AuditEffect.log_grows (h : AuditEffect db db') : db.action_audit_logs <+: db'.action_audit_logs := by
  cases h with
  | same _ hlogs | created _ _ hlogs | modified _ _ _ hlogs =>
    obtain ⟨logs, hlogs, -⟩ := hlogs
    exact hlogs ▸ List.prefix_append _ _

/-- Over any run of transactions, failing ones included, the audit log only grows, the trail of every action follows
the life of an action, and its last event tells the status of the action, unless the agent has reported a failure. -/
theorem audit_trails (is_datetime : Json → Bool) (db : Database) (first second : List Call)
    (hactions : db.response_actions.rows = []) (hlog : db.action_audit_logs = []) :
    let before := transition.run (step is_datetime) db first
    let after := transition.run (step is_datetime) before second
    before.action_audit_logs <+: after.action_audit_logs ∧
      ∀ action ∈ after.response_actions.rows, ∃ status, Trail (after.trail action.id) status ∧
        (action.status = status ∨ action.status = .failed) := by
  intro before after
  have hinit : db.Audited := by
    refine ⟨fun action haction => ?_, fun action_id _ => ?_⟩
    · rw [hactions] at haction
      cases haction
    · rw [trail, events, hlog]
      rfl
  have hbefore : before.Audited :=
    transition.run_preserves (I := Audited) (fun _ _ h => step_audit _ |>.audited h) hinit first
  have hafter : after.Audited :=
    transition.run_preserves (I := Audited) (fun _ _ h => step_audit _ |>.audited h) hbefore second
  refine ⟨?_, hafter.explained⟩
  exact transition.run_preserves (I := fun s : Database => before.action_audit_logs <+: s.action_audit_logs)
    (fun _ _ h => h.trans (step_audit _).log_grows) (List.prefix_refl _) second

theorem audit_trails_isolate_and_undo :
    let before := transition.run (step fun _ => true) one_agent isolate_and_undo
    let after := transition.run (step fun _ => true) before
      [{ op := .command_ack 3 "web-1" (ack_payload "cmd_1" "failed") }]
    before.action_audit_logs <+: after.action_audit_logs ∧
      ∀ action ∈ after.response_actions.rows, ∃ status, Trail (after.trail action.id) status ∧
        (action.status = status ∨ action.status = .failed) :=
  audit_trails (fun _ => true) one_agent _ _ rfl rfl

end Database

end larp
