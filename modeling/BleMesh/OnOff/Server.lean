import Mathlib.Data.List.Basic

/-! # The Generic OnOff server

The server of `BLE_mesh_light_server_generic_on_off_server.c` with what it acts on:
the LED pins, its delayed work and the messages it sends. Sending and publishing
succeed, and the model's user data is the server's own object.
-/

namespace BleMesh.OnOff

/-! ## Data -/

structure OnoffState where
  onoff : UInt8
  targetOnoff : UInt8
  deriving DecidableEq

/-- `esp_ble_mesh_last_msg_info_t`. -/
structure LastMsgInfo where
  tid : UInt8
  src : UInt16
  dst : UInt16
  timestamp : Nat
  deriving DecidableEq

/-- `esp_ble_mesh_state_transition_t`. Of the flags only the one of the timer is used. -/
structure Transition where
  justStarted : Bool
  transTime : UInt8
  remainTime : UInt8
  delay : UInt8
  quoTt : UInt32
  counter : UInt32
  totalDuration : UInt32
  startTimestamp : Nat
  timerStart : Bool
  deriving DecidableEq

/-- The levels last written to the pins of the LED. -/
structure LedLevels where
  red : UInt32
  green : UInt32
  blue : UInt32
  deriving DecidableEq

/-- A submitted timer: when it expires, and the number of the transition it was
submitted for. -/
structure Expiry where
  due : Nat
  owner : Nat
  deriving DecidableEq

inductive Opcode
  | onoffGet
  | onoffSet
  | onoffSetUnack
  | other (value : UInt32)
  deriving DecidableEq

/-- `esp_ble_mesh_msg_ctx_t`. -/
structure MsgCtx where
  addr : UInt16
  recvDst : UInt16
  recvOp : Opcode
  deriving DecidableEq

/-- `esp_ble_mesh_server_recv_gen_onoff_set_t`. -/
structure OnoffSet where
  opEn : Bool
  onoff : UInt8
  tid : UInt8
  transTime : UInt8
  delay : UInt8
  deriving DecidableEq

/-- The OnOff Status messages that leave the device. -/
inductive SentStatus
  | reply (ctx : MsgCtx) (onoff : UInt8)
  | publication (onoff : UInt8)
  deriving DecidableEq

/-- The server's user data and its surroundings. `submitted` lists the delays in ms
given to the timer so far. `now` is the time in µs and `owner` the transition the
running code works for; both belong to the model. -/
structure World where
  state : OnoffState
  last : LastMsgInfo
  transition : Transition
  publishAddr : UInt16
  led : LedLevels
  pending : List Expiry
  submitted : List Nat
  sent : List SentStatus
  now : Nat
  owner : Nat

/-- Static storage but for the initializer is zeroed, and setting the server up writes
the pins. -/
def World.initial (publishAddr : UInt16) : World where
  state := { onoff := 1, targetOnoff := 0 }
  last := { tid := 0, src := 0, dst := 0, timestamp := 0 }
  transition := {
    justStarted := false
    transTime := 0
    remainTime := 0
    delay := 0
    quoTt := 0
    counter := 0
    totalDuration := 0
    startTimestamp := 0
    timerStart := false }
  publishAddr := publishAddr
  led := { red := 1, green := 1, blue := 1 }
  pending := []
  submitted := []
  sent := []
  now := 0
  owner := 0

/-! ## The server's functions -/

/-- `k_delayed_work_submit` that takes a delay of 0 as any other: the worker runs when the
timer expires, and not before the call returns. -/
def World.submit (world : World) (delay : Nat) : World :=
  { world with
    pending := world.pending ++ [{ due := world.now + delay * 1000, owner := world.owner }]
    submitted := world.submitted ++ [delay] }

/-- `k_delayed_work_cancel` and `k_delayed_work_free`, and clearing the flag. The timer does
not expire any more. -/
def World.stopTimer (world : World) : World :=
  { world with pending := [], transition.timerStart := false }

def LedLevels.all (level : UInt32) : LedLevels where
  red := level
  green := level
  blue := level

/-- The value is written to all three pins, unless it is neither 0 nor 1. -/
def bleMeshDeviceControlletChangeOnoffState (world : World) (state : UInt8) : Int × World :=
  if state ≠ 0 ∧ state ≠ 1 then (-1, world)
  else (0, { world with led := LedLevels.all state.toUInt32 })

def bleMeshTransitionMultiplier (transTime : UInt8) : UInt32 :=
  let mulIndicator := 0xC0 &&& transTime
  if mulIndicator = 0x00 then 100
  else if mulIndicator = 0x40 then 1 * 1000
  else if mulIndicator = 0x80 then 10 * 1000
  else if mulIndicator = 0xC0 then 10 * 60 * 1000
  else 0

def bleMeshBeginOnoffWork (world : World) (onOffSet : OnoffSet) : World :=
  if onOffSet.delay = 0 ∧ onOffSet.opEn = false then
    let world := (bleMeshDeviceControlletChangeOnoffState world onOffSet.onoff).2
    { world with state.onoff := onOffSet.onoff }
  else
    let world := { world with transition.justStarted := true }
    let world :=
      if onOffSet.opEn = false then
        { world with
          transition.transTime := 0
          transition.quoTt := 0
          -- With a delay only, the worker runs once for the delay and once more.
          transition.counter := 1 }
      else
        { world with
          transition.transTime := onOffSet.transTime
          transition.quoTt := bleMeshTransitionMultiplier onOffSet.transTime
          transition.counter := (0x3F &&& onOffSet.transTime).toUInt32 }
    let world := { world with
      transition.delay := onOffSet.delay
      transition.totalDuration := world.transition.quoTt * world.transition.counter
      transition.remainTime := world.transition.transTime
      transition.startTimestamp := world.now
      state.targetOnoff := onOffSet.onoff }
    let world := { world with transition.timerStart := true }
    world.submit (world.transition.delay.toNat * 5)

def bleMeshOnOffStateChangeAndUpdate (world : World) : World :=
  let world := (bleMeshDeviceControlletChangeOnoffState world world.state.targetOnoff).2
  let world := { world with state.onoff := world.state.targetOnoff }
  if world.publishAddr = 0 then world
  else { world with sent := world.sent ++ [.publication world.state.onoff] }

def World.clearJustStarted (world : World) : World :=
  { world with transition.justStarted := false }

/-- The worker, run when the timer has expired. -/
def bleMeshOnOffOptionalWorker (world : World) : World :=
  if world.transition.timerStart = false then world.stopTimer
  else
    let world :=
      if world.transition.justStarted = true then
        let world := world.clearJustStarted
        if world.state.targetOnoff = 1 then bleMeshOnOffStateChangeAndUpdate world else world
      else world
    if world.transition.counter = 0 then
      let world :=
        if world.state.targetOnoff = 0 then bleMeshOnOffStateChangeAndUpdate world else world
      world.stopTimer
    else
      let world := { world with transition.counter := world.transition.counter - 1 }
      world.submit world.transition.quoTt.toNat

/-- `esp_ble_mesh_generic_server_cb_event_t`. -/
inductive ServerEvent
  | stateChange
  | recvGetMsg
  | recvSetMsg
  | other
  deriving DecidableEq

def World.sendStatus (world : World) (ctx : MsgCtx) : World :=
  { world with sent := world.sent ++ [.reply ctx world.state.onoff] }

/-- The branch of the callback for Set and Set Unacknowledged. -/
def receiveSet (world : World) (ctx : MsgCtx) (set : OnoffSet) : World :=
  let world := if world.transition.timerStart = true then world.stopTimer else world
  let world := { world with last := {
    dst := ctx.recvDst
    src := ctx.addr
    tid := set.tid
    timestamp := world.now } }
  let world := bleMeshBeginOnoffWork world set
  world.sendStatus ctx

def bleMeshLightServerGenericOnOffModelCallback (world : World) (event : ServerEvent)
    (ctx : MsgCtx) (set : OnoffSet) : World :=
  match event with
  | .stateChange => world
  | .recvGetMsg =>
      match ctx.recvOp with
      | .onoffGet => world.sendStatus ctx
      | _ => world
  | .recvSetMsg =>
      match ctx.recvOp with
      | .onoffSet => receiveSet world ctx set
      | .onoffSetUnack => receiveSet world ctx set
      | _ => world
  | .other => world

/-! ## What the functions do -/

@[simp] theorem World.submit_state (world : World) (delay : Nat) :
    (world.submit delay).state = world.state := rfl

@[simp] theorem World.submit_transition (world : World) (delay : Nat) :
    (world.submit delay).transition = world.transition := rfl

@[simp] theorem World.submit_pending (world : World) (delay : Nat) :
    (world.submit delay).pending =
      world.pending ++ [{ due := world.now + delay * 1000, owner := world.owner }] := rfl

@[simp] theorem World.submit_submitted (world : World) (delay : Nat) :
    (world.submit delay).submitted = world.submitted ++ [delay] := rfl

@[simp] theorem World.stopTimer_state (world : World) : world.stopTimer.state = world.state := rfl

@[simp] theorem World.stopTimer_led (world : World) : world.stopTimer.led = world.led := rfl

@[simp] theorem World.stopTimer_submitted (world : World) :
    world.stopTimer.submitted = world.submitted := rfl

@[simp] theorem World.stopTimer_transition (world : World) :
    world.stopTimer.transition = { world.transition with timerStart := false } := rfl

@[simp] theorem World.sendStatus_transition (world : World) (ctx : MsgCtx) :
    (world.sendStatus ctx).transition = world.transition := rfl

@[simp] theorem World.sendStatus_pending (world : World) (ctx : MsgCtx) :
    (world.sendStatus ctx).pending = world.pending := rfl

/-- The Generic OnOff values. -/
def IsOnoff (onoff : UInt8) : Prop := onoff = 0 ∨ onoff = 1

theorem isOnoff_zero : IsOnoff 0 := Or.inl rfl

theorem isOnoff_one : IsOnoff 1 := Or.inr rfl

theorem changeOnoffState_of_isOnoff {onoff : UInt8} (valid : IsOnoff onoff) (world : World) :
    bleMeshDeviceControlletChangeOnoffState world onoff =
      (0, { world with led := LedLevels.all onoff.toUInt32 }) := by
  rcases valid with rfl | rfl <;> rfl

/-- A Set without optional fields and with delay 0 is carried out at once. -/
def OnoffSet.Immediate (set : OnoffSet) : Prop := set.delay = 0 ∧ set.opEn = false

instance (set : OnoffSet) : Decidable set.Immediate :=
  inferInstanceAs (Decidable (_ ∧ _))

/-- The transition a delayed Set starts. Nothing of an older one is left in it. -/
def Transition.started (set : OnoffSet) (now : Nat) : Transition :=
  let transTime := if set.opEn = false then 0 else set.transTime
  let quoTt := if set.opEn = false then 0 else bleMeshTransitionMultiplier set.transTime
  let counter := if set.opEn = false then 1 else (0x3F &&& set.transTime).toUInt32
  { justStarted := true
    transTime
    remainTime := transTime
    delay := set.delay
    quoTt
    counter
    totalDuration := quoTt * counter
    startTimestamp := now
    timerStart := true }

theorem begin_of_immediate {set : OnoffSet} (immediate : set.Immediate)
    (valid : IsOnoff set.onoff) (world : World) :
    bleMeshBeginOnoffWork world set =
      { world with led := LedLevels.all set.onoff.toUInt32, state.onoff := set.onoff } := by
  rcases immediate with ⟨noDelay, noOptions⟩
  rw [bleMeshBeginOnoffWork, if_pos ⟨noDelay, noOptions⟩, changeOnoffState_of_isOnoff valid]

theorem begin_of_delayed {set : OnoffSet} (delayed : ¬ set.Immediate) (world : World) :
    bleMeshBeginOnoffWork world set =
      World.submit { world with
        transition := Transition.started set world.now
        state.targetOnoff := set.onoff } (set.delay.toNat * 5) := by
  have branch : ¬ (set.delay = 0 ∧ set.opEn = false) := delayed
  rw [bleMeshBeginOnoffWork, if_neg branch]
  by_cases noOptions : set.opEn = false <;> simp [noOptions, Transition.started]

/-- The world a Set is begun in: no timer runs, and one that ran has been stopped. -/
def World.beforeSet (world : World) (ctx : MsgCtx) (set : OnoffSet) : World :=
  { world with
    last := { dst := ctx.recvDst, src := ctx.addr, tid := set.tid, timestamp := world.now }
    transition.timerStart := false
    pending := if world.transition.timerStart = true then [] else world.pending }

theorem receiveSet_eq (world : World) (ctx : MsgCtx) (set : OnoffSet) :
    receiveSet world ctx set =
      (bleMeshBeginOnoffWork (world.beforeSet ctx set) set).sendStatus ctx := by
  cases running : world.transition.timerStart with
  | true => simp [receiveSet, World.beforeSet, World.stopTimer, running]
  | false =>
      rcases world with ⟨_, _, ⟨_, _, _, _, _, _, _, _, _⟩, _, _, _, _, _, _, _⟩
      cases running
      rfl

theorem update_of_isOnoff {world : World} (valid : IsOnoff world.state.targetOnoff) :
    bleMeshOnOffStateChangeAndUpdate world =
      { world with
        led := LedLevels.all world.state.targetOnoff.toUInt32
        state.onoff := world.state.targetOnoff
        sent := world.sent ++
          if world.publishAddr = 0 then [] else [.publication world.state.targetOnoff] } := by
  rw [bleMeshOnOffStateChangeAndUpdate, changeOnoffState_of_isOnoff valid]
  by_cases unassigned : world.publishAddr = 0 <;> simp [unassigned]

/-- A change of the state touches nothing but `onoff`, the LED and the messages sent. -/
theorem update_frame (world : World) :
    ∃ led sent, bleMeshOnOffStateChangeAndUpdate world =
      { world with led, sent, state.onoff := world.state.targetOnoff } := by
  simp only [bleMeshOnOffStateChangeAndUpdate, bleMeshDeviceControlletChangeOnoffState]
  split <;> split <;> exact ⟨_, _, rfl⟩

@[simp] theorem update_transition (world : World) :
    (bleMeshOnOffStateChangeAndUpdate world).transition = world.transition := by
  rcases update_frame world with ⟨led, sent, frame⟩
  rw [frame]

@[simp] theorem update_state (world : World) :
    (bleMeshOnOffStateChangeAndUpdate world).state =
      { world.state with onoff := world.state.targetOnoff } := by
  rcases update_frame world with ⟨led, sent, frame⟩
  rw [frame]

/-- A call of the worker changes the state: at its first run to 1, at its last to 0. -/
def World.Acts (world : World) : Prop :=
  world.transition.justStarted = true ∧ world.state.targetOnoff = 1 ∨
    world.transition.counter = 0 ∧ world.state.targetOnoff = 0

instance (world : World) : Decidable world.Acts :=
  inferInstanceAs (Decidable (_ ∧ _ ∨ _ ∧ _))

/-- The world after the worker has changed the state or left it alone. -/
def World.acted (world : World) : World :=
  if world.Acts then bleMeshOnOffStateChangeAndUpdate world.clearJustStarted
  else world.clearJustStarted

@[simp] theorem World.clearJustStarted_state (world : World) :
    world.clearJustStarted.state = world.state := rfl

@[simp] theorem World.clearJustStarted_transition (world : World) :
    world.clearJustStarted.transition = { world.transition with justStarted := false } := rfl

theorem World.clearJustStarted_of_not_started {world : World}
    (started : world.transition.justStarted = false) : world.clearJustStarted = world := by
  rcases world with ⟨_, _, ⟨_, _, _, _, _, _, _, _, _⟩, _, _, _, _, _, _, _⟩
  cases started
  rfl

/-- Acting touches nothing but `onoff`, `just_started`, the LED and the messages sent. -/
theorem World.acted_frame (world : World) :
    ∃ led sent, world.acted =
      { world with
        led
        sent
        transition.justStarted := false
        state.onoff := if world.Acts then world.state.targetOnoff else world.state.onoff } := by
  rw [World.acted]
  split
  · rcases update_frame world.clearJustStarted with ⟨led, sent, frame⟩
    exact ⟨led, sent, frame⟩
  · exact ⟨world.led, world.sent, rfl⟩

@[simp] theorem World.acted_transition (world : World) :
    world.acted.transition = { world.transition with justStarted := false } := by
  rcases world.acted_frame with ⟨led, sent, frame⟩
  rw [frame]

@[simp] theorem World.acted_targetOnoff (world : World) :
    world.acted.state.targetOnoff = world.state.targetOnoff := by
  rcases world.acted_frame with ⟨led, sent, frame⟩
  rw [frame]

@[simp] theorem World.acted_pending (world : World) : world.acted.pending = world.pending := by
  rcases world.acted_frame with ⟨led, sent, frame⟩
  rw [frame]

@[simp] theorem World.acted_submitted (world : World) :
    world.acted.submitted = world.submitted := by
  rcases world.acted_frame with ⟨led, sent, frame⟩
  rw [frame]

@[simp] theorem World.acted_owner (world : World) : world.acted.owner = world.owner := by
  rcases world.acted_frame with ⟨led, sent, frame⟩
  rw [frame]

theorem World.acted_onoff (world : World) :
    world.acted.state.onoff =
      if world.Acts then world.state.targetOnoff else world.state.onoff := by
  rcases world.acted_frame with ⟨led, sent, frame⟩
  rw [frame]

theorem World.acted_led {world : World} (valid : IsOnoff world.state.targetOnoff) :
    world.acted.led =
      if world.Acts then LedLevels.all world.state.targetOnoff.toUInt32 else world.led := by
  rw [World.acted]
  split
  · have targetValid : IsOnoff world.clearJustStarted.state.targetOnoff := valid
    rw [update_of_isOnoff targetValid]
    rfl
  · rfl

theorem worker_of_stopped {world : World} (stopped : world.transition.timerStart = false) :
    bleMeshOnOffOptionalWorker world = world.stopTimer := by
  rw [bleMeshOnOffOptionalWorker, if_pos stopped]

/-- A call of the worker for a running timer acts, and then stops or goes on. -/
theorem worker_of_running {world : World} (running : world.transition.timerStart = true) :
    bleMeshOnOffOptionalWorker world =
      if world.transition.counter = 0 then world.acted.stopTimer
      else
        World.submit { world.acted with
          transition.counter := world.transition.counter - 1 }
          world.transition.quoTt.toNat := by
  rw [bleMeshOnOffOptionalWorker, if_neg (by simp [running]), World.acted]
  by_cases isOn : world.state.targetOnoff = 1
  · cases started : world.transition.justStarted with
    | false =>
        rw [World.clearJustStarted_of_not_started started]
        simp [World.Acts, isOn, started]
    | true => simp [World.Acts, isOn, started]
  · cases started : world.transition.justStarted with
    | false =>
        rw [World.clearJustStarted_of_not_started started]
        by_cases last : world.transition.counter = 0 <;> simp [World.Acts, isOn, started, last]
    | true => by_cases last : world.transition.counter = 0 <;> simp [World.Acts, isOn, last]

theorem worker_justStarted (world : World) :
    (bleMeshOnOffOptionalWorker world).transition.justStarted =
      (world.transition.justStarted && !world.transition.timerStart) := by
  cases running : world.transition.timerStart with
  | false => simp [worker_of_stopped running]
  | true =>
      rw [worker_of_running running]
      split <;> simp

/-! ## Runs -/

/-- A Generic OnOff Set or Set Unacknowledged. The stack lets only the values 0 and 1
through. -/
structure SetMessage where
  acknowledged : Bool
  src : UInt16
  dst : UInt16
  set : OnoffSet
  onoff_valid : IsOnoff set.onoff

def SetMessage.ctx (message : SetMessage) : MsgCtx where
  addr := message.src
  recvDst := message.dst
  recvOp := if message.acknowledged then .onoffSet else .onoffSetUnack

inductive Event
  | receive (time : Nat) (message : SetMessage)
  | expire (time : Nat)

/-- The callback for a Set message that arrives at a time. -/
def World.receive (world : World) (time : Nat) (message : SetMessage) : World :=
  bleMeshLightServerGenericOnOffModelCallback { world with now := time } .recvSetMsg
    message.ctx message.set

/-- A timer can expire only while one is pending. -/
def serverStep (world : World) : Event → Option World
  | .receive time message => some (world.receive time message)
  | .expire time =>
      match world.pending with
      | [] => none
      | expiry :: rest =>
          some (bleMeshOnOffOptionalWorker
            { world with pending := rest, now := time, owner := expiry.owner })

theorem expire_of_step {world next : World} {time : Nat}
    (happens : serverStep world (.expire time) = some next) :
    ∃ expiry rest, world.pending = expiry :: rest ∧
      next = bleMeshOnOffOptionalWorker
        { world with pending := rest, now := time, owner := expiry.owner } := by
  cases pending : world.pending with
  | nil => simp [serverStep, pending] at happens
  | cons expiry rest =>
      simp only [serverStep, pending] at happens
      cases happens
      exact ⟨expiry, rest, rfl, rfl⟩

theorem World.receive_eq (world : World) (time : Nat) (message : SetMessage) :
    world.receive time message =
      receiveSet { world with now := time } message.ctx message.set := by
  simp only [World.receive, bleMeshLightServerGenericOnOffModelCallback, SetMessage.ctx]
  cases message.acknowledged <;> rfl

end BleMesh.OnOff
