import Mathlib.Logic.Function.Basic
import ActiveResponse.Core.Values
import ActiveResponse.Lib.Run

namespace larp

/-- `WebSocket.readyState`. -/
inductive ReadyState where
  | CONNECTING
  | OPEN
  | CLOSING
  | CLOSED
deriving DecidableEq

/-- `ws.close()`: the connection is on its way down, unless it is there already. -/
def ReadyState.close : ReadyState → ReadyState
  | .CONNECTING | .OPEN => .CLOSING
  | state => state

/-- The variables that the callbacks of one run of the effect share. Message handlers are numbered. -/
structure SocketEffect where
  onMessage : ℕ
  ws : Option ℕ := none
  reconnectTimeout : Option ℕ := none
  isUnmounted : Bool := false

/-- `useDashboardSocket` in a page, and the browser. The runs of the effect, the sockets and the timers are numbered
in the order in which they come up; a socket and a timer belong to the run whose callbacks they call. -/
structure DashboardHook where
  isConnected : Bool := false
  mounted : Option ℕ := none
  effects : ℕ → Option SocketEffect := fun _ => none
  started : ℕ := 0
  sockets : ℕ → Option (ℕ × ReadyState) := fun _ => none
  opened : ℕ := 0
  timers : ℕ → Option ℕ := fun _ => none
  scheduled : ℕ := 0
  /-- The messages with the handlers that have got them. -/
  handled : List (ℕ × Json) := []

/-- What React and the browser do. In `fails` the constructor of the socket throws; `data` is what a frame parses
to. -/
inductive HookEvent where
  | render (onMessage : ℕ) (fails : Bool)
  | unmount
  | onopen (socket : ℕ)
  | onmessage (socket : ℕ) (data : Option Json)
  | onerror (socket : ℕ)
  | closing (socket : ℕ)
  | onclose (socket : ℕ)
  | timeout (timer : ℕ) (fails : Bool)

/-- The page stays, and renders with one handler. -/
def HookEvent.Steady (onMessage : ℕ) : HookEvent → Prop
  | .render handler _ => handler = onMessage
  | .unmount => False
  | _ => True

namespace DashboardHook

/-- `reconnectTimeout = setTimeout(connect, 3000)`. -/
def schedule (self : DashboardHook) (id : ℕ) (effect : SocketEffect) : DashboardHook :=
  { self with
    effects := Function.update self.effects id (some { effect with reconnectTimeout := some self.scheduled })
    timers := Function.update self.timers self.scheduled (some id)
    scheduled := self.scheduled + 1 }

/-- `connect` of a run of the effect. -/
def connect (self : DashboardHook) (id : ℕ) (effect : SocketEffect) (fails : Bool) : DashboardHook :=
  if effect.isUnmounted then self
  else if fails then self.schedule id effect
  else
    { self with
      effects := Function.update self.effects id (some { effect with ws := some self.opened })
      sockets := Function.update self.sockets self.opened (some (id, .CONNECTING))
      opened := self.opened + 1 }

/-- What is left of the timers after `clearTimeout`. -/
def clear_timeout (self : DashboardHook) (timer : Option ℕ) : ℕ → Option ℕ :=
  match timer with
  | some timer => Function.update self.timers timer none
  | none => self.timers

/-- What becomes of the sockets when one of them is closed. -/
def close_socket (self : DashboardHook) (socket : Option ℕ) : ℕ → Option (ℕ × ReadyState) :=
  match socket with
  | some socket =>
    Function.update self.sockets socket ((self.sockets socket).map fun (id, state) => (id, state.close))
  | none => self.sockets

/-- The function that the effect returns. -/
def cleanup (self : DashboardHook) (id : ℕ) (effect : SocketEffect) : DashboardHook :=
  { self with
    effects := Function.update self.effects id (some { effect with isUnmounted := true })
    timers := self.clear_timeout effect.reconnectTimeout
    sockets := self.close_socket effect.ws
    mounted := none }

/-- The effect runs. -/
def start (self : DashboardHook) (onMessage : ℕ) (fails : Bool) : DashboardHook :=
  ({ self with mounted := some self.started, started := self.started + 1 } : DashboardHook).connect self.started
    { onMessage } fails

/-- The run of the effect that is mounted. -/
def current (self : DashboardHook) : Option (ℕ × SocketEffect) :=
  match self.mounted with
  | some id => (self.effects id).map fun effect => (id, effect)
  | none => none

def set_state (self : DashboardHook) (socket id : ℕ) (state : ReadyState) : DashboardHook :=
  { self with sockets := Function.update self.sockets socket (some (id, state)) }

def step (self : DashboardHook) : HookEvent → DashboardHook
  | .render onMessage fails =>
    match self.current with
    | none => self.start onMessage fails
    | some (id, effect) =>
      -- The effect runs again if its dependency has changed.
      if effect.onMessage = onMessage then self else (self.cleanup id effect).start onMessage fails
  | .unmount =>
    match self.current with
    | none => self
    | some (id, effect) => self.cleanup id effect
  | .onopen socket =>
    match self.sockets socket with
    | some (id, .CONNECTING) => { self.set_state socket id .OPEN with isConnected := true }
    | _ => self
  | .onmessage socket data =>
    match self.sockets socket, data with
    | some (id, .OPEN), some data =>
      { self with handled := self.handled ++ ((self.effects id).map fun effect => (effect.onMessage, data)).toList }
    | _, _ => self
  | .onerror _ => self
  | .closing socket =>
    match self.sockets socket with
    | some (id, .OPEN) => self.set_state socket id .CLOSING
    | _ => self
  | .onclose socket =>
    match self.sockets socket with
    | none | some (_, .CLOSED) => self
    | some (id, _) =>
      let closed := { self.set_state socket id .CLOSED with isConnected := false }
      match self.effects id with
      | some effect => if effect.isUnmounted then closed else closed.schedule id effect
      | none => closed
  | .timeout timer fails =>
    match self.timers timer with
    | none => self
    | some id =>
      let fired := { self with timers := Function.update self.timers timer none }
      match self.effects id with
      | some effect => fired.connect id effect fails
      | none => fired

/-! ## What the runs of the effect wait for -/

/-- A run of the effect waits for the end of a socket, or for a timer. -/
def Awaits (s : DashboardHook) (id : ℕ) : ℕ ⊕ ℕ → Prop
  | .inl socket => ∃ state, s.sockets socket = some (id, state) ∧ state ≠ .CLOSED
  | .inr timer => s.timers timer = some id

/-- The mounted run has one thing to wait for, and knows it. -/
def Serving (s : DashboardHook) (id : ℕ) (effect : SocketEffect) : Prop :=
  (∃ socket, effect.ws = some socket ∧ ∀ attempt, s.Awaits id attempt ↔ attempt = .inl socket) ∨
    ∃ timer, effect.reconnectTimeout = some timer ∧ ∀ attempt, s.Awaits id attempt ↔ attempt = .inr timer

/-- A run that is over waits for closing sockets only. -/
def Gone (s : DashboardHook) (id : ℕ) : Prop :=
  ∀ attempt, s.Awaits id attempt → ∃ socket, attempt = .inl socket ∧ s.sockets socket = some (id, .CLOSING)

/-- A socket is open, or was until a moment ago. -/
def Reached (s : DashboardHook) : Prop :=
  ∃ socket id, s.sockets socket = some (id, .OPEN) ∨ s.sockets socket = some (id, .CLOSING)

/-- What holds whatever the mounted run is doing. -/
structure Settled (s : DashboardHook) : Prop where
  effects : ∀ id, s.started ≤ id → s.effects id = none
  sockets : ∀ socket, s.opened ≤ socket → s.sockets socket = none
  timers : ∀ timer, s.scheduled ≤ timer → s.timers timer = none
  socket_owner : ∀ socket id state, s.sockets socket = some (id, state) → id < s.started
  timer_owner : ∀ timer id, s.timers timer = some id → id < s.started
  gone : ∀ id effect, s.effects id = some effect → s.mounted ≠ some id → effect.isUnmounted ∧ s.Gone id

structure Sound (s : DashboardHook) : Prop extends Settled s where
  serving : ∀ id, s.mounted = some id →
    ∃ effect, s.effects id = some effect ∧ effect.isUnmounted = false ∧ s.Serving id effect

variable {s : DashboardHook} {id : ℕ} {effect : SocketEffect}

/-- The mounted run waits for nothing yet. -/
structure Idle (s : DashboardHook) (id : ℕ) : Prop extends Settled s where
  mounted : s.mounted = some id
  started : id < s.started
  awaits : ∀ attempt, ¬s.Awaits id attempt

/-! ## Timers and new sockets -/

/-- An entry after a write is the entry that was written, or an old one under another number. -/
theorem eq_or_of_update {A : Type} {f : ℕ → Option A} {written number : ℕ} {new found : A}
    (h : Function.update f written (some new) number = some found) :
    number = written ∧ new = found ∨ number ≠ written ∧ f number = some found := by
  by_cases hnumber : number = written
  · subst hnumber
    rw [Function.update_self] at h
    exact .inl ⟨rfl, Option.some.inj h⟩
  · rw [Function.update_of_ne hnumber] at h
    exact .inr ⟨hnumber, h⟩

theorem Serving.unique (h : s.Serving id effect) {first second : ℕ ⊕ ℕ} (hfirst : s.Awaits id first)
    (hsecond : s.Awaits id second) : first = second := by
  obtain ⟨socket, -, hone⟩ | ⟨timer, -, hone⟩ := h
  · exact ((hone first).mp hfirst).trans ((hone second).mp hsecond).symm
  · exact ((hone first).mp hfirst).trans ((hone second).mp hsecond).symm

/-- A socket and a timer belong to one run. -/
theorem Awaits.owner {other : ℕ} {attempt : ℕ ⊕ ℕ} (h : s.Awaits id attempt) (hother : s.Awaits other attempt) :
    id = other := by
  cases attempt with
  | inl socket =>
    obtain ⟨state, hstate, -⟩ := h
    obtain ⟨state', hstate', -⟩ := hother
    exact (Prod.mk.inj (Option.some.inj (hstate.symm.trans hstate'))).1
  | inr timer => exact Option.some.inj (Eq.trans (Eq.symm h) hother)

/-- The mounted run has found itself something to wait for. -/
theorem Idle.sound_of_attempt (h : s.Idle id) {s' : DashboardHook} (attempt : ℕ ⊕ ℕ)
    (hmounted : s'.mounted = s.mounted) (hstarted : s'.started = s.started)
    (heffects : s'.effects = Function.update s.effects id (some effect)) (heffect : effect.isUnmounted = false)
    (hsockets : ∀ socket, s'.opened ≤ socket → s'.sockets socket = none)
    (htimers : ∀ timer, s'.scheduled ≤ timer → s'.timers timer = none)
    (hchanged : ∀ socket, s'.sockets socket = s.sockets socket ∨ s'.sockets socket = some (id, .CONNECTING))
    (hkept : ∀ socket other, s.sockets socket = some (other, .CLOSING) → s'.sockets socket = some (other, .CLOSING))
    (hawaits : ∀ other waiting, s'.Awaits other waiting ↔ s.Awaits other waiting ∨ other = id ∧ waiting = attempt)
    (hknown : (∃ socket, effect.ws = some socket ∧ attempt = .inl socket) ∨
      ∃ timer, effect.reconnectTimeout = some timer ∧ attempt = .inr timer) : s'.Sound := by
  have hone (waiting : ℕ ⊕ ℕ) : s'.Awaits id waiting ↔ waiting = attempt := by
    rw [hawaits]
    simp [h.awaits waiting]
  refine ⟨⟨fun other hother => ?_, hsockets, htimers, fun socket other state hsocket => ?_,
    fun timer other hother => ?_, fun other old hold hne => ?_⟩, fun other hother => ?_⟩
  · rw [hstarted] at hother
    have hne : other ≠ id := by
      have hlt := h.started
      omega
    rw [heffects, Function.update_of_ne hne]
    exact h.effects other hother
  · rw [hstarted]
    obtain hsame | hnew := hchanged socket
    · exact h.socket_owner socket other state (hsame ▸ hsocket)
    · rw [hnew] at hsocket
      obtain ⟨rfl, -⟩ := Prod.mk.inj (Option.some.inj hsocket)
      exact h.started
  · rw [hstarted]
    obtain hold | ⟨rfl, -⟩ := (hawaits other (.inr timer)).mp hother
    · exact h.timer_owner timer other hold
    · exact h.started
  · have hother : other ≠ id := by
      rintro rfl
      exact hne (hmounted.trans h.mounted)
    rw [heffects, Function.update_of_ne hother] at hold
    obtain ⟨hunmounted, hgone⟩ := h.gone other old hold (hmounted ▸ hne)
    refine ⟨hunmounted, fun waiting hwaiting => ?_⟩
    obtain hwaiting | ⟨hsame, -⟩ := (hawaits other waiting).mp hwaiting
    · obtain ⟨socket, rfl, hclosing⟩ := hgone waiting hwaiting
      exact ⟨socket, rfl, hkept socket other hclosing⟩
    · exact absurd hsame hother
  · obtain rfl : id = other := Option.some.inj (h.mounted.symm.trans (hmounted ▸ hother))
    refine ⟨effect, by rw [heffects, Function.update_self], heffect, ?_⟩
    obtain ⟨socket, hws, rfl⟩ | ⟨timer, htimer, rfl⟩ := hknown
    · exact .inl ⟨socket, hws, hone⟩
    · exact .inr ⟨timer, htimer, hone⟩

theorem Idle.schedule_sound (h : s.Idle id) (heffect : effect.isUnmounted = false) :
    (s.schedule id effect).Sound := by
  refine h.sound_of_attempt (.inr s.scheduled) rfl rfl rfl heffect h.sockets (fun timer htimer => ?_)
    (fun _ => .inl rfl) (fun _ _ hclosing => hclosing) (fun other waiting => ?_) (.inr ⟨_, rfl, rfl⟩)
  · change s.scheduled + 1 ≤ timer at htimer
    have hne : timer ≠ s.scheduled := by omega
    exact (Function.update_of_ne hne ..).trans (h.timers timer (by omega))
  · cases waiting with
    | inl socket => simp [Awaits, schedule]
    | inr timer =>
      by_cases htimer : timer = s.scheduled
      · subst htimer
        simp [Awaits, schedule, h.timers _ le_rfl, eq_comm]
      · simp [Awaits, schedule, htimer]

theorem Idle.connect_sound (h : s.Idle id) (heffect : effect.isUnmounted = false) (fails : Bool) :
    (s.connect id effect fails).Sound := by
  unfold connect
  rw [if_neg (by simp [heffect])]
  split
  · exact h.schedule_sound heffect
  · refine h.sound_of_attempt (.inl s.opened) rfl rfl rfl heffect (fun socket hsocket => ?_) h.timers
      (fun socket => ?_) (fun socket other hclosing => ?_) (fun other waiting => ?_) (.inl ⟨_, rfl, rfl⟩)
    · change s.opened + 1 ≤ socket at hsocket
      have hne : socket ≠ s.opened := by omega
      exact (Function.update_of_ne hne ..).trans (h.sockets socket (by omega))
    · by_cases hsocket : socket = s.opened
      · subst hsocket
        exact .inr (Function.update_self ..)
      · exact .inl (Function.update_of_ne hsocket ..)
    · have hsocket : socket ≠ s.opened := by
        rintro rfl
        rw [h.sockets _ le_rfl] at hclosing
        cases hclosing
      exact (Function.update_of_ne hsocket ..).trans hclosing
    · cases waiting with
      | inr timer => simp [Awaits]
      | inl socket =>
        by_cases hsocket : socket = s.opened
        · subst hsocket
          simp [Awaits, h.sockets _ le_rfl, eq_comm]
        · simp [Awaits, hsocket]

/-! ## The steps -/

theorem current_eq_some (h : s.current = some (id, effect)) : s.mounted = some id ∧ s.effects id = some effect := by
  unfold current at h
  split at h
  · rename_i found hmounted
    obtain ⟨found_effect, heffect, heq⟩ := Option.map_eq_some_iff.mp h
    obtain ⟨rfl, rfl⟩ := Prod.mk.inj heq
    exact ⟨hmounted, heffect⟩
  · cases h

theorem Sound.mounted_of_current (h : s.Sound) (hcurrent : s.current = none) : s.mounted = none := by
  cases hmounted : s.mounted with
  | none => rfl
  | some id =>
    obtain ⟨effect, heffect, -⟩ := h.serving id hmounted
    simp [current, hmounted, heffect] at hcurrent

/-- The next run of the effect takes a new number. -/
theorem Settled.mount (h : s.Settled) (hmounted : s.mounted = none) :
    Settled { s with mounted := some s.started, started := s.started + 1 } where
  effects id hid := h.effects id (Nat.le_of_succ_le hid)
  sockets := h.sockets
  timers := h.timers
  socket_owner socket id state hsocket := (h.socket_owner socket id state hsocket).trans (Nat.lt_succ_self _)
  timer_owner timer id htimer := (h.timer_owner timer id htimer).trans (Nat.lt_succ_self _)
  gone id effect heffect _ := h.gone id effect heffect (by simp [hmounted])

theorem Settled.start_sound (h : s.Settled) (hmounted : s.mounted = none) (onMessage : ℕ) (fails : Bool) :
    (s.start onMessage fails).Sound := by
  have hidle : Idle { s with mounted := some s.started, started := s.started + 1 } s.started := by
    refine ⟨h.mount hmounted, rfl, Nat.lt_succ_self _, ?_⟩
    rintro (socket | timer) hawaits
    · obtain ⟨state, hsocket, -⟩ := hawaits
      exact lt_irrefl _ (h.socket_owner socket s.started state hsocket)
    · exact lt_irrefl _ (h.timer_owner timer s.started hawaits)
  exact hidle.connect_sound rfl fails

theorem clear_timeout_eq_some {cleared : Option ℕ} {timer : ℕ} (h : s.clear_timeout cleared timer = some id) :
    s.timers timer = some id ∧ cleared ≠ some timer := by
  cases cleared with
  | none => exact ⟨h, nofun⟩
  | some found =>
    by_cases htimer : timer = found
    · subst htimer
      rw [clear_timeout, Function.update_self] at h
      cases h
    · rw [clear_timeout, Function.update_of_ne htimer] at h
      exact ⟨h, fun hsame => htimer (Option.some.inj hsame).symm⟩

theorem close_socket_eq_some {ws : Option ℕ} {socket : ℕ} {state : ReadyState} :
    s.close_socket ws socket = some (id, state) ↔
      ∃ old, s.sockets socket = some (id, old) ∧ state = if ws = some socket then old.close else old := by
  cases ws with
  | none => simp [close_socket]
  | some found =>
    by_cases hsocket : socket = found
    · subst hsocket
      simp only [close_socket, Function.update_self, Option.map_eq_some_iff, Prod.mk.injEq, if_true]
      constructor
      · rintro ⟨⟨owner, old⟩, hold, rfl, rfl⟩
        exact ⟨old, hold, rfl⟩
      · rintro ⟨old, hold, rfl⟩
        exact ⟨(id, old), hold, rfl, rfl⟩
    · simp [close_socket, hsocket, eq_comm]

theorem close_eq_closing {state : ReadyState} (h : state ≠ .CLOSED) : state.close = .CLOSING := by
  cases state with
  | CLOSED => exact absurd rfl h
  | _ => rfl

/-- What is waited for after the cleanup has been waited for before. -/
theorem awaits_of_cleanup {other : ℕ} {attempt : ℕ ⊕ ℕ} (h : (s.cleanup id effect).Awaits other attempt) :
    s.Awaits other attempt := by
  cases attempt with
  | inl socket =>
    obtain ⟨state, hstate, hopen⟩ := h
    obtain ⟨old, hold, rfl⟩ := close_socket_eq_some.mp hstate
    refine ⟨old, hold, ?_⟩
    rintro rfl
    split at hopen <;> exact hopen rfl
  | inr timer => exact (clear_timeout_eq_some h).1

/-- The run that is cleaned up has closed its socket or cleared its timer. -/
theorem Serving.gone_cleanup (h : s.Serving id effect) : (s.cleanup id effect).Gone id := by
  intro attempt hattempt
  have hwaiting : s.Awaits id attempt := awaits_of_cleanup hattempt
  obtain ⟨socket, hws, hone⟩ | ⟨timer, htimer, hone⟩ := h
  · obtain rfl := (hone attempt).mp hwaiting
    obtain ⟨state, hstate, hopen⟩ := hwaiting
    exact ⟨socket, rfl, close_socket_eq_some.mpr ⟨state, hstate, by rw [if_pos hws, close_eq_closing hopen]⟩⟩
  · obtain rfl := (hone attempt).mp hwaiting
    exact absurd htimer (clear_timeout_eq_some hattempt).2

theorem Gone.cleanup {other : ℕ} (h : s.Gone other) : (s.cleanup id effect).Gone other := by
  intro attempt hattempt
  obtain ⟨socket, rfl, hclosing⟩ := h attempt (awaits_of_cleanup hattempt)
  refine ⟨socket, rfl, close_socket_eq_some.mpr ⟨.CLOSING, hclosing, ?_⟩⟩
  split <;> rfl

theorem Sound.cleanup_settled (h : s.Sound) (hcurrent : s.current = some (id, effect)) :
    (s.cleanup id effect).Settled := by
  obtain ⟨hmounted, heffect⟩ := current_eq_some hcurrent
  obtain ⟨found, hfound, -, hserving⟩ := h.serving id hmounted
  obtain rfl : found = effect := Option.some.inj (hfound.symm.trans heffect)
  have hlt : id < s.started := by
    by_contra hnot
    rw [h.effects id (by omega)] at heffect
    cases heffect
  refine ⟨fun other hother => ?_, fun socket hsocket => ?_, fun timer htimer => ?_,
    fun socket other state hsocket => ?_, fun timer other htimer => ?_, fun other old hold _ => ?_⟩
  · change s.started ≤ other at hother
    have hne : other ≠ id := by omega
    exact (Function.update_of_ne hne ..).trans (h.effects other hother)
  · have hnone : s.sockets socket = none := h.sockets socket hsocket
    rw [Option.eq_none_iff_forall_ne_some]
    rintro ⟨other, state⟩ hstate
    obtain ⟨old, hold, -⟩ := close_socket_eq_some.mp hstate
    rw [hnone] at hold
    cases hold
  · have hnone : s.timers timer = none := h.timers timer htimer
    rw [Option.eq_none_iff_forall_ne_some]
    intro other hother
    have hold : s.timers timer = some other := (clear_timeout_eq_some hother).1
    rw [hnone] at hold
    cases hold
  · obtain ⟨old, hold, -⟩ := close_socket_eq_some.mp hsocket
    exact h.socket_owner socket other old hold
  · exact h.timer_owner timer other (clear_timeout_eq_some htimer).1
  · obtain ⟨rfl, rfl⟩ | ⟨hother, hold⟩ := eq_or_of_update hold
    · exact ⟨rfl, hserving.gone_cleanup⟩
    · have hunmounted : s.mounted ≠ some other := by
        rw [hmounted]
        exact fun hsame => hother (Option.some.inj hsame).symm
      obtain ⟨hover, hgone⟩ := h.gone other old hold hunmounted
      exact ⟨hover, hgone.cleanup⟩

/-- A socket that changes without being closed is waited for as before. -/
theorem awaits_set_state {socket : ℕ} {old state : ReadyState} (hsocket : s.sockets socket = some (id, old))
    (hold : old ≠ .CLOSED) (other : ℕ) (attempt : ℕ ⊕ ℕ) :
    (s.set_state socket id state).Awaits other attempt ↔
      s.Awaits other attempt ∧ (state = .CLOSED → attempt ≠ .inl socket) := by
  cases attempt with
  | inr timer => simp [Awaits, set_state]
  | inl found =>
    by_cases hfound : found = socket
    · subst hfound
      simp [Awaits, set_state, hsocket, hold]
    · simp [Awaits, set_state, hfound]

theorem Settled.set_state (h : s.Settled) {socket : ℕ} {old state : ReadyState}
    (hsocket : s.sockets socket = some (id, old)) (hold : old ≠ .CLOSED)
    (hstate : state = .CLOSED ∨ state = .CLOSING ∨ old = .CONNECTING) : (s.set_state socket id state).Settled := by
  refine ⟨h.effects, fun found hfound => ?_, h.timers, fun found other next hfound => ?_, h.timer_owner,
    fun other effect heffect hmounted => ?_⟩
  · have hne : found ≠ socket := by
      rintro rfl
      rw [h.sockets found hfound] at hsocket
      cases hsocket
    exact (Function.update_of_ne hne ..).trans (h.sockets found hfound)
  · obtain ⟨rfl, hwritten⟩ | ⟨-, hfound⟩ := eq_or_of_update hfound
    · obtain ⟨rfl, -⟩ := Prod.mk.inj hwritten
      exact h.socket_owner found id old hsocket
    · exact h.socket_owner found other next hfound
  · obtain ⟨hunmounted, hgone⟩ := h.gone other effect heffect hmounted
    refine ⟨hunmounted, fun attempt hattempt => ?_⟩
    obtain ⟨hwaiting, hclosed⟩ := (awaits_set_state hsocket hold other attempt).mp hattempt
    obtain ⟨found, rfl, hclosing⟩ := hgone attempt hwaiting
    refine ⟨found, rfl, ?_⟩
    by_cases hne : found = socket
    · subst hne
      obtain ⟨rfl, rfl⟩ := Prod.mk.inj (Option.some.inj (hsocket.symm.trans hclosing))
      obtain rfl | rfl | hconnecting := hstate
      · exact absurd rfl (hclosed rfl)
      · exact Function.update_self ..
      · cases hconnecting
    · exact (Function.update_of_ne hne ..).trans hclosing

theorem Sound.set_state (h : s.Sound) {socket : ℕ} {old state : ReadyState}
    (hsocket : s.sockets socket = some (id, old)) (hold : old ≠ .CLOSED) (hopen : state ≠ .CLOSED)
    (hstate : state = .CLOSING ∨ old = .CONNECTING) : (s.set_state socket id state).Sound := by
  refine ⟨h.toSettled.set_state hsocket hold (.inr hstate), fun other hother => ?_⟩
  obtain ⟨effect, heffect, hmounted, hserving⟩ := h.serving other hother
  have hawaits (attempt : ℕ ⊕ ℕ) : (s.set_state socket id state).Awaits other attempt ↔ s.Awaits other attempt := by
    simp [awaits_set_state hsocket hold, hopen]
  exact ⟨effect, heffect, hmounted, by simpa only [Serving, hawaits] using hserving⟩

theorem Sound.with_connected (h : s.Sound) (isConnected : Bool) : Sound { s with isConnected } :=
  ⟨⟨h.effects, h.sockets, h.timers, h.socket_owner, h.timer_owner, h.gone⟩, h.serving⟩

/-- The run that waits for a socket or a timer is the mounted one, or it is over. -/
theorem Sound.mounted_of_not_unmounted (h : s.Sound) (heffect : s.effects id = some effect)
    (hunmounted : ¬effect.isUnmounted) : s.mounted = some id := by
  by_contra hmounted
  exact hunmounted (h.gone id effect heffect hmounted).1

/-! ## The end of a socket or of a timer -/

/-- What is left when a socket has ended or a timer has fired: nobody waits for it any more. -/
structure Ended (s : DashboardHook) (ended : ℕ ⊕ ℕ) (s' : DashboardHook) : Prop where
  settled : s'.Settled
  effects : s'.effects = s.effects
  mounted : s'.mounted = s.mounted
  started : s'.started = s.started
  awaits : ∀ id attempt, s'.Awaits id attempt ↔ s.Awaits id attempt ∧ attempt ≠ ended

/-- The mounted run has waited for it, and for nothing else. -/
theorem Ended.idle {s' : DashboardHook} {ended : ℕ ⊕ ℕ} (h : s.Ended ended s') (hsound : s.Sound)
    (hmounted : s.mounted = some id) (hwaiting : s.Awaits id ended) : s'.Idle id := by
  obtain ⟨effect, heffect, -, hserving⟩ := hsound.serving id hmounted
  refine ⟨h.settled, h.mounted.trans hmounted, ?_, fun attempt hattempt => ?_⟩
  · rw [h.started]
    by_contra hnot
    rw [hsound.effects id (by omega)] at heffect
    cases heffect
  · obtain ⟨hattempt, hne⟩ := (h.awaits id attempt).mp hattempt
    exact hne (hserving.unique hattempt hwaiting)

/-- Nothing changes for the mounted run if another one has waited for it. -/
theorem Ended.sound {s' : DashboardHook} {ended : ℕ ⊕ ℕ} (h : s.Ended ended s') (hsound : s.Sound)
    (hmounted : s.mounted ≠ some id) (hwaiting : s.Awaits id ended) : s'.Sound := by
  refine ⟨h.settled, fun other hother => ?_⟩
  rw [h.mounted] at hother
  obtain ⟨effect, heffect, hunmounted, hserving⟩ := hsound.serving other hother
  have hsame (attempt : ℕ ⊕ ℕ) : s'.Awaits other attempt ↔ s.Awaits other attempt := by
    rw [h.awaits]
    refine and_iff_left_of_imp fun hattempt => ?_
    rintro rfl
    obtain rfl := hwaiting.owner hattempt
    exact hmounted hother
  exact ⟨effect, h.effects ▸ heffect, hunmounted, by simpa only [Serving, hsame] using hserving⟩

theorem Sound.ended_socket (h : s.Sound) {socket : ℕ} {old : ReadyState} (hsocket : s.sockets socket = some (id, old))
    (hold : old ≠ .CLOSED) : s.Ended (.inl socket) { s.set_state socket id .CLOSED with isConnected := false } := by
  have hset : (s.set_state socket id .CLOSED).Settled := h.toSettled.set_state hsocket hold (.inl rfl)
  refine ⟨⟨hset.effects, hset.sockets, hset.timers, hset.socket_owner, hset.timer_owner, hset.gone⟩, rfl, rfl, rfl,
    fun other attempt => ?_⟩
  exact (awaits_set_state hsocket hold other attempt).trans (by simp)

theorem Sound.onclose_sound (h : s.Sound) (socket : ℕ) : (s.step (.onclose socket)).Sound := by
  simp only [step]
  split
  · exact h
  · exact h
  · rename_i id old hopen hsocket
    have hold : old ≠ .CLOSED := hopen
    have hended := h.ended_socket hsocket hold
    have hwaiting : s.Awaits id (.inl socket) := ⟨old, hsocket, hold⟩
    split
    · rename_i effect heffect
      split
      · rename_i hunmounted
        refine hended.sound h (fun hmounted => ?_) hwaiting
        obtain ⟨found, hfound, hnot, -⟩ := h.serving id hmounted
        obtain rfl := Option.some.inj (hfound.symm.trans heffect)
        rw [hunmounted] at hnot
        cases hnot
      · rename_i hunmounted
        have hmounted : s.mounted = some id := h.mounted_of_not_unmounted heffect hunmounted
        exact (hended.idle h hmounted hwaiting).schedule_sound (by simpa using hunmounted)
    · rename_i hnone
      refine hended.sound h (fun hmounted => ?_) hwaiting
      obtain ⟨found, hfound, -⟩ := h.serving id hmounted
      rw [hnone] at hfound
      cases hfound

theorem awaits_without_timer (timer other : ℕ) (attempt : ℕ ⊕ ℕ) :
    Awaits { s with timers := Function.update s.timers timer none } other attempt ↔
      s.Awaits other attempt ∧ attempt ≠ .inr timer := by
  cases attempt with
  | inl socket => simp [Awaits]
  | inr found =>
    by_cases hfound : found = timer
    · subst hfound
      simp [Awaits]
    · simp [Awaits, hfound]

theorem Settled.without_timer (h : s.Settled) (timer : ℕ) :
    Settled { s with timers := Function.update s.timers timer none } := by
  refine ⟨h.effects, h.sockets, fun found hfound => ?_, h.socket_owner, fun found other hfound => ?_,
    fun other effect heffect hmounted => ?_⟩
  · by_cases hne : found = timer
    · subst hne
      exact Function.update_self ..
    · exact (Function.update_of_ne hne ..).trans (h.timers found hfound)
  · exact h.timer_owner found other ((awaits_without_timer timer other (.inr found)).mp hfound).1
  · obtain ⟨hunmounted, hgone⟩ := h.gone other effect heffect hmounted
    refine ⟨hunmounted, fun attempt hattempt => ?_⟩
    exact hgone attempt ((awaits_without_timer timer other attempt).mp hattempt).1

theorem Sound.ended_timer (h : s.Sound) (timer : ℕ) :
    s.Ended (.inr timer) { s with timers := Function.update s.timers timer none } :=
  ⟨h.toSettled.without_timer timer, rfl, rfl, rfl, awaits_without_timer timer⟩

theorem Sound.timeout_sound (h : s.Sound) (timer : ℕ) (fails : Bool) : (s.step (.timeout timer fails)).Sound := by
  simp only [step]
  split
  · exact h
  · rename_i id htimer
    have hwaiting : s.Awaits id (.inr timer) := htimer
    split
    · rename_i effect heffect
      have hmounted : s.mounted = some id := by
        by_contra hmounted
        obtain ⟨socket, hsocket, -⟩ := (h.gone id effect heffect hmounted).2 _ hwaiting
        cases hsocket
      obtain ⟨found, hfound, hunmounted, -⟩ := h.serving id hmounted
      obtain rfl := Option.some.inj (hfound.symm.trans heffect)
      exact ((h.ended_timer timer).idle h hmounted hwaiting).connect_sound hunmounted fails
    · rename_i hnone
      refine (h.ended_timer timer).sound h (fun hmounted => ?_) hwaiting
      obtain ⟨effect, heffect, -⟩ := h.serving id hmounted
      rw [hnone] at heffect
      cases heffect

theorem step_sound (event : HookEvent) (h : s.Sound) : (s.step event).Sound := by
  cases event with
  | render onMessage fails =>
    simp only [step]
    split
    · rename_i hcurrent
      exact h.toSettled.start_sound (h.mounted_of_current hcurrent) onMessage fails
    · rename_i id effect hcurrent
      split
      · exact h
      · exact (h.cleanup_settled hcurrent).start_sound rfl onMessage fails
  | unmount =>
    simp only [step]
    split
    · exact h
    · rename_i id effect hcurrent
      exact ⟨h.cleanup_settled hcurrent, nofun⟩
  | onopen socket =>
    simp only [step]
    split
    · rename_i id hsocket
      exact (h.set_state hsocket (by decide) (by decide) (.inr rfl)).with_connected true
    · exact h
  | onmessage socket data =>
    simp only [step]
    split
    · exact ⟨⟨h.effects, h.sockets, h.timers, h.socket_owner, h.timer_owner, h.gone⟩, h.serving⟩
    · exact h
  | onerror socket => exact h
  | closing socket =>
    simp only [step]
    split
    · rename_i id hsocket
      exact h.set_state hsocket (by decide) (by decide) (.inl rfl)
    · exact h
  | onclose socket => exact h.onclose_sound socket
  | timeout timer fails => exact h.timeout_sound timer fails

/-! ## What the page is told -/

theorem reached_connect (h : s.Settled) (fails : Bool) : (s.connect id effect fails).Reached ↔ s.Reached := by
  unfold connect
  split
  · rfl
  · split
    · rfl
    · have hsockets (socket owner : ℕ) {state : ReadyState} (hstate : state ≠ .CONNECTING) :
          Function.update s.sockets s.opened (some (id, .CONNECTING)) socket = some (owner, state) ↔
            s.sockets socket = some (owner, state) := by
        by_cases hsocket : socket = s.opened
        · subst hsocket
          simp [h.sockets _ le_rfl, hstate.symm]
        · rw [Function.update_of_ne hsocket]
      simp only [Reached, hsockets _ _ (show ReadyState.OPEN ≠ .CONNECTING by decide),
        hsockets _ _ (show ReadyState.CLOSING ≠ .CONNECTING by decide)]

theorem connect_isConnected (fails : Bool) : (s.connect id effect fails).isConnected = s.isConnected := by
  unfold connect
  split
  · rfl
  · split <;> rfl

theorem Reached.cleanup (h : s.Reached) : (s.cleanup id effect).Reached := by
  obtain ⟨socket, owner, hsocket⟩ := h
  have hclosing {state : ReadyState} (hstate : s.sockets socket = some (owner, state))
      (hnext : state.close = .CLOSING) :
      (s.cleanup id effect).sockets socket = some (owner, .CLOSING) ∨
        (s.cleanup id effect).sockets socket = some (owner, state) := by
    by_cases hws : effect.ws = some socket
    · exact .inl (close_socket_eq_some.mpr ⟨state, hstate, by rw [if_pos hws, hnext]⟩)
    · exact .inr (close_socket_eq_some.mpr ⟨state, hstate, by rw [if_neg hws]⟩)
  obtain hopen | hdown := hsocket
  · obtain hnow | hstill := hclosing hopen rfl
    · exact ⟨socket, owner, .inr hnow⟩
    · exact ⟨socket, owner, .inl hstill⟩
  · obtain hnow | hstill := hclosing hdown rfl
    · exact ⟨socket, owner, .inr hnow⟩
    · exact ⟨socket, owner, .inr hstill⟩

theorem Settled.reached_start (h : s.Settled) (hmounted : s.mounted = none) (onMessage : ℕ) (fails : Bool) :
    (s.start onMessage fails).Reached ↔ s.Reached :=
  reached_connect (h.mount hmounted) fails

theorem start_isConnected (onMessage : ℕ) (fails : Bool) : (s.start onMessage fails).isConnected = s.isConnected :=
  connect_isConnected fails

/-- The page is told that it is connected only while a socket is open, or on its way down. -/
theorem step_reached (event : HookEvent) (h : s.Sound) (hreached : s.isConnected → s.Reached) :
    (s.step event).isConnected → (s.step event).Reached := by
  cases event with
  | render onMessage fails =>
    simp only [step]
    split
    · rename_i hcurrent
      rw [start_isConnected, h.toSettled.reached_start (h.mounted_of_current hcurrent)]
      exact hreached
    · rename_i id effect hcurrent
      split
      · exact hreached
      · rw [start_isConnected, (h.cleanup_settled hcurrent).reached_start rfl]
        exact fun hconnected => (hreached hconnected).cleanup
  | unmount =>
    simp only [step]
    split
    · exact hreached
    · exact fun hconnected => (hreached hconnected).cleanup
  | onopen socket =>
    simp only [step]
    split
    · exact fun _ => ⟨socket, _, .inl (Function.update_self ..)⟩
    · exact hreached
  | onmessage socket data =>
    simp only [step]
    split <;> exact hreached
  | onerror socket => exact hreached
  | closing socket =>
    simp only [step]
    split
    · exact fun _ => ⟨socket, _, .inr (Function.update_self ..)⟩
    · exact hreached
  | onclose socket =>
    simp only [step]
    split
    · exact hreached
    · exact hreached
    · split
      · split <;> exact nofun
      · exact nofun
  | timeout timer fails =>
    simp only [step]
    split
    · exact hreached
    · rename_i id htimer
      split
      · rw [connect_isConnected, reached_connect (h.toSettled.without_timer timer)]
        exact hreached
      · exact hreached

/-- A message goes to the handler of the mounted run, or to nobody. -/
theorem handled_onmessage (h : s.Sound) (socket : ℕ) (data : Option Json) :
    (s.step (.onmessage socket data)).handled = s.handled ∨
      ∃ id effect received, s.mounted = some id ∧ s.effects id = some effect ∧ data = some received ∧
        (s.step (.onmessage socket data)).handled = s.handled ++ [(effect.onMessage, received)] := by
  simp only [step]
  split
  · rename_i id received hsocket
    cases heffect : s.effects id with
    | none => exact .inl (by simp)
    | some effect =>
      refine .inr ⟨id, effect, received, ?_, heffect, rfl, by simp⟩
      by_contra hmounted
      obtain ⟨found, hfound, hclosing⟩ :=
        (h.gone id effect heffect hmounted).2 (.inl socket) ⟨.OPEN, hsocket, by decide⟩
      obtain rfl := Sum.inl.inj hfound
      rw [hsocket] at hclosing
      cases hclosing
  · exact .inl rfl

theorem sound_init : Sound {} where
  effects _ _ := rfl
  sockets _ _ := rfl
  timers _ _ := rfl
  socket_owner _ _ _ := nofun
  timer_owner _ _ := nofun
  gone _ _ := nofun
  serving _ := nofun

/-- Whatever renders with new handlers, failures, reconnections and late callbacks there have been: the mounted run of
the effect has exactly one socket that is not closed or one timer for the next, what an earlier run has left can only
be a socket that is closing, no message reaches an earlier handler, and the page is told that it is connected only
while a socket is open or closing. -/
theorem one_connection (events : List HookEvent) :
    let s := transition.run step {} events
    (∀ id, s.mounted = some id → ∃! attempt, s.Awaits id attempt) ∧
      (∀ id, s.mounted ≠ some id → (s.effects id).isSome → s.Gone id) ∧
      (∀ socket data, (s.step (.onmessage socket data)).handled = s.handled ∨
        ∃ id effect received, s.mounted = some id ∧ s.effects id = some effect ∧ data = some received ∧
          (s.step (.onmessage socket data)).handled = s.handled ++ [(effect.onMessage, received)]) ∧
      (s.isConnected → s.Reached) := by
  intro s
  have hrun : s.Sound ∧ (s.isConnected → s.Reached) :=
    transition.run_preserves (I := fun s : DashboardHook => s.Sound ∧ (s.isConnected → s.Reached))
      (fun _ event h => ⟨step_sound event h.1, step_reached event h.1 h.2⟩) ⟨sound_init, nofun⟩ events
  obtain ⟨hsound, hreached⟩ := hrun
  refine ⟨fun id hmounted => ?_, fun id hmounted heffect => ?_, handled_onmessage hsound, hreached⟩
  · obtain ⟨effect, -, -, hserving⟩ := hsound.serving id hmounted
    obtain ⟨socket, -, hone⟩ | ⟨timer, -, hone⟩ := hserving
    · exact ⟨.inl socket, (hone _).mpr rfl, fun attempt hattempt => (hone attempt).mp hattempt⟩
    · exact ⟨.inr timer, (hone _).mpr rfl, fun attempt hattempt => (hone attempt).mp hattempt⟩
  · obtain ⟨effect, heffect⟩ := Option.isSome_iff_exists.mp heffect
    exact (hsound.gone id effect heffect hmounted).2

/-! ## A page that keeps its handler -/

/-- There is one run of the effect, with this handler, and the page is told exactly how it stands. -/
structure OneHandler (s : DashboardHook) (onMessage : ℕ) : Prop where
  handler : ∀ id effect, s.effects id = some effect → s.mounted = some id ∧ effect.onMessage = onMessage
  sockets : ∀ socket id state, s.sockets socket = some (id, state) → s.mounted = some id
  connected : s.isConnected ↔ s.Reached

variable {onMessage : ℕ}

theorem OneHandler.schedule (h : s.OneHandler onMessage) (hmounted : s.mounted = some id)
    (heffect : effect.onMessage = onMessage) : (s.schedule id effect).OneHandler onMessage := by
  refine ⟨fun other found hfound => ?_, h.sockets, h.connected⟩
  obtain ⟨rfl, rfl⟩ | ⟨-, hfound⟩ := eq_or_of_update hfound
  · exact ⟨hmounted, heffect⟩
  · exact h.handler other found hfound

theorem OneHandler.connect (h : s.OneHandler onMessage) (hsettled : s.Settled) (hmounted : s.mounted = some id)
    (heffect : effect.onMessage = onMessage) (fails : Bool) : (s.connect id effect fails).OneHandler onMessage := by
  have hconnected : (s.connect id effect fails).isConnected ↔ (s.connect id effect fails).Reached := by
    rw [connect_isConnected, reached_connect hsettled]
    exact h.connected
  revert hconnected
  unfold DashboardHook.connect
  split
  · exact fun _ => h
  · split
    · exact fun _ => h.schedule hmounted heffect
    · refine fun hconnected => ⟨fun other found hfound => ?_, fun socket other state hsocket => ?_, hconnected⟩
      · obtain ⟨rfl, rfl⟩ | ⟨-, hfound⟩ := eq_or_of_update hfound
        · exact ⟨hmounted, heffect⟩
        · exact h.handler other found hfound
      · obtain ⟨-, hopened⟩ | ⟨-, hsocket⟩ := eq_or_of_update hsocket
        · obtain ⟨rfl, -⟩ := Prod.mk.inj hopened
          exact hmounted
        · exact h.sockets socket other state hsocket

theorem OneHandler.start (h : s.OneHandler onMessage) (hsettled : s.Settled) (hmounted : s.mounted = none)
    (fails : Bool) : (s.start onMessage fails).OneHandler onMessage := by
  have hfresh : OneHandler { s with mounted := some s.started, started := s.started + 1 } onMessage := by
    refine ⟨fun other effect heffect => ?_, fun socket other state hsocket => ?_, h.connected⟩
    · rw [(h.handler other effect heffect).1] at hmounted
      cases hmounted
    · rw [h.sockets socket other state hsocket] at hmounted
      cases hmounted
  exact hfresh.connect (hsettled.mount hmounted) rfl rfl fails

theorem OneHandler.set_state (h : s.OneHandler onMessage) {socket : ℕ} {old state : ReadyState}
    (hsocket : s.sockets socket = some (id, old)) {isConnected : Bool}
    (hconnected : isConnected ↔ (s.set_state socket id state).Reached) :
    OneHandler { s.set_state socket id state with isConnected } onMessage := by
  refine ⟨h.handler, fun found other next hfound => ?_, hconnected⟩
  obtain ⟨-, hwritten⟩ | ⟨-, hfound⟩ := eq_or_of_update hfound
  · obtain ⟨rfl, -⟩ := Prod.mk.inj hwritten
    exact h.sockets socket id old hsocket
  · exact h.sockets found other next hfound

/-- Once the only socket that is not closed has ended, none is left. -/
theorem not_reached_of_onclose (hsound : s.Sound) (h : s.OneHandler onMessage) {socket : ℕ} {old : ReadyState}
    (hsocket : s.sockets socket = some (id, old)) (hold : old ≠ .CLOSED) :
    ¬(s.set_state socket id .CLOSED).Reached := by
  have hmounted : s.mounted = some id := h.sockets socket id old hsocket
  obtain ⟨effect, -, -, hserving⟩ := hsound.serving id hmounted
  have hgone {found other : ℕ} {state : ReadyState} (hstate : state ≠ .CLOSED)
      (hfound : (s.set_state socket id .CLOSED).sockets found = some (other, state)) : False := by
    obtain ⟨-, hwritten⟩ | ⟨hne, hfound⟩ := eq_or_of_update hfound
    · exact hstate (Prod.mk.inj hwritten).2.symm
    · obtain rfl : id = other := Option.some.inj (hmounted.symm.trans (h.sockets found other state hfound))
      have hwaiting : s.Awaits id (.inl found) := ⟨state, hfound, hstate⟩
      exact hne (Sum.inl.inj (hserving.unique hwaiting ⟨old, hsocket, hold⟩))
  rintro ⟨found, other, hopen | hclosing⟩
  · exact hgone (by decide) hopen
  · exact hgone (by decide) hclosing

theorem step_oneHandler {event : HookEvent} (hsteady : event.Steady onMessage) (hsound : s.Sound)
    (h : s.OneHandler onMessage) : (s.step event).OneHandler onMessage := by
  cases event with
  | render handler fails =>
    obtain rfl : handler = onMessage := hsteady
    simp only [step]
    split
    · rename_i hcurrent
      exact h.start hsound.toSettled (hsound.mounted_of_current hcurrent) fails
    · rename_i id effect hcurrent
      rw [if_pos (h.handler id effect (current_eq_some hcurrent).2).2]
      exact h
  | unmount => cases hsteady
  | onopen socket =>
    simp only [step]
    split
    · rename_i id hsocket
      exact h.set_state hsocket (iff_of_true rfl ⟨socket, id, .inl (Function.update_self ..)⟩)
    · exact h
  | onmessage socket data =>
    simp only [step]
    split
    · exact ⟨h.handler, h.sockets, h.connected⟩
    · exact h
  | onerror socket => exact h
  | closing socket =>
    simp only [step]
    split
    · rename_i id hsocket
      refine h.set_state hsocket (iff_of_true ?_ ⟨socket, id, .inr (Function.update_self ..)⟩)
      exact h.connected.mpr ⟨socket, id, .inl hsocket⟩
    · exact h
  | onclose socket =>
    simp only [step]
    split
    · exact h
    · exact h
    · rename_i id old hopen hsocket
      have hclosed : OneHandler { s.set_state socket id .CLOSED with isConnected := false } onMessage :=
        h.set_state hsocket (iff_of_false (by decide) (not_reached_of_onclose hsound h hsocket hopen))
      split
      · rename_i effect heffect
        split
        · exact hclosed
        · obtain ⟨hmounted, hhandler⟩ := h.handler id effect heffect
          exact hclosed.schedule hmounted hhandler
      · exact hclosed
  | timeout timer fails =>
    simp only [step]
    split
    · exact h
    · rename_i id htimer
      have hfired : OneHandler { s with timers := Function.update s.timers timer none } onMessage :=
        ⟨h.handler, h.sockets, h.connected⟩
      split
      · rename_i effect heffect
        obtain ⟨hmounted, hhandler⟩ := h.handler id effect heffect
        exact hfired.connect (hsound.toSettled.without_timer timer) hmounted hhandler fails
      · exact hfired

/-- As long as the page stays and keeps its handler, it is told exactly whether a socket is open or closing. -/
theorem isConnected_iff (onMessage : ℕ) (events : List HookEvent)
    (hsteady : ∀ event ∈ events, event.Steady onMessage) :
    (transition.run step {} events).isConnected ↔ (transition.run step {} events).Reached := by
  have hrun : (transition.run step {} events).Sound ∧ (transition.run step {} events).OneHandler onMessage := by
    refine transition.run_invariant (I := fun s : DashboardHook => s.Sound ∧ s.OneHandler onMessage)
      (fun _ event h hevent => ⟨step_sound event h.1, step_oneHandler hevent h.1 h.2⟩)
      (transition.Along.of_forall hsteady _) ⟨sound_init, ?_⟩
    refine ⟨fun _ _ => nofun, fun _ _ _ => nofun, iff_of_false (by decide) ?_⟩
    rintro ⟨socket, id, hopen | hclosing⟩
    · cases hopen
    · cases hclosing
  exact hrun.2.connected

/-- The manager is restarted while the page is shown. -/
def manager_restart : List HookEvent :=
  [.render 0 false, .onopen 0, .onmessage 0 (some .null), .closing 0, .onclose 0, .timeout 0 true, .timeout 1 false]

theorem isConnected_iff_manager_restart :
    (transition.run step {} manager_restart).isConnected ↔ (transition.run step {} manager_restart).Reached :=
  isConnected_iff 0 manager_restart (by simp [manager_restart, HookEvent.Steady])

end DashboardHook

end larp
