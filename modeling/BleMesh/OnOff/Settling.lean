import BleMesh.OnOff.Node
import BleMesh.OnOff.Schedule

/-! # The server comes to rest

However far a transition has come and however it got there, the timer expires once more
for each step that is left and once to end it, and then the server rests at the value of
the last Set. Gets and publications do not come in between. A delay of 0 takes an expiry as
any other delay does.
-/

namespace BleMesh.OnOff

open Foundation.Execution

/-- How often the timer will still expire. -/
def World.remaining (world : World) : Nat :=
  if world.transition.timerStart = true then world.steps + 1 else 0

/-- The value of the most recent Set. The initial value is 1. -/
def recordRequest (latest : UInt8) (event : NodeEvent) : UInt8 := event.requested.getD latest

def mostRecentRequest (events : List NodeEvent) : UInt8 := events.foldl recordRequest 1

/-- What is known of a reachable world. -/
structure Settles (world : World) (latest : UInt8) : Prop where
  steady : Steady world
  follows : Follows world latest
  steps_le : world.transition.timerStart = true → world.steps ≤ 63

theorem settles_initial (publishAddr : UInt16) : Settles (World.initial publishAddr) 1 where
  steady := steady_initial publishAddr
  follows := follows_initial publishAddr
  steps_le running := by cases running

/-! ## One step -/

theorem Settles.pending_iff {world : World} {latest : UInt8} (settles : Settles world latest) :
    world.pending = [] ↔ world.remaining = 0 := by
  rw [← List.length_eq_zero_iff, settles.follows.pending, World.remaining]
  split <;> simp

/-- A world in which a timer is pending runs its transition, and has just that timer. -/
theorem Settles.of_pending {world : World} {latest : UInt8} (settles : Settles world latest)
    {expiry : Expiry} {rest : List Expiry} (pending : world.pending = expiry :: rest) :
    world.transition.timerStart = true ∧ rest = [] := by
  have length := settles.follows.pending
  rw [pending] at length
  cases running : world.transition.timerStart with
  | false => simp [running] at length
  | true => exact ⟨rfl, by simpa [running] using length⟩

theorem steps_started (set : OnoffSet) (now : Nat) :
    (Transition.started set now).counter.toNat ≤ 63 := by
  by_cases noOptions : set.opEn = false
  · simp [Transition.started, noOptions]
  · simpa [Transition.started, noOptions] using steps_le set.transTime

theorem receiveSet_steps_le (world : World) (ctx : MsgCtx) {set : OnoffSet}
    (valid : IsOnoff set.onoff) :
    (receiveSet world ctx set).transition.timerStart = true →
      (receiveSet world ctx set).steps ≤ 63 := by
  rw [receiveSet_eq]
  by_cases immediate : set.Immediate
  · rw [begin_of_immediate immediate valid]
    intro running
    cases running
  · rw [begin_of_delayed immediate]
    intro _
    exact steps_started set world.now

/-- A call of the worker makes one step or ends the transition. -/
theorem worker_remaining {world : World} (running : world.transition.timerStart = true) :
    (bleMeshOnOffOptionalWorker world).remaining + 1 = world.remaining := by
  have before : world.remaining = world.steps + 1 := if_pos running
  rw [before, worker_of_running running]
  by_cases last : world.transition.counter = 0
  · rw [if_pos last, (steps_eq_zero_iff world).mp last]
    rfl
  · have someSteps := mt (steps_eq_zero_iff world).mpr last
    have counted : (world.transition.counter - 1).toNat = world.steps - 1 :=
      counter_decremented last
    rw [if_neg last]
    have positive : 0 < world.steps := Nat.pos_of_ne_zero someSteps
    have stillRunning : (World.submit { world.acted with
        transition.counter := world.transition.counter - 1 }
        world.transition.quoTt.toNat).transition.timerStart = true := by simpa using running
    rw [World.remaining, if_pos stillRunning]
    change (world.transition.counter - 1).toNat + 1 + 1 = world.steps + 1
    omega

theorem settles_of_nodeStep {world next : World} {latest : UInt8} {event : NodeEvent}
    (settles : Settles world latest) (happens : nodeStep world event = some next) :
    Settles next (recordRequest latest event) := by
  have steadyNext := steady_of_nodeStep settles.steady happens
  cases nodeEffect_of_step happens with
  | set time ctx value valid requested =>
      rw [recordRequest, requested]
      have followsNow : Follows { world with now := time } latest :=
        settles.follows.congr rfl rfl rfl
      exact ⟨steadyNext, followsNow.receiveSet ctx valid,
        receiveSet_steps_le { world with now := time } ctx valid⟩
  | tell time statuses _ _ requested _ =>
      rw [recordRequest, requested]
      exact ⟨steadyNext, settles.follows.congr rfl rfl rfl, settles.steps_le⟩
  | work time expiry rest pending requested _ =>
      rw [recordRequest, requested]
      rcases settles.of_pending pending with ⟨running, rfl⟩
      have steadyNow : Steady { world with pending := [], now := time, owner := expiry.owner } :=
        settles.steady.congr rfl rfl rfl
      refine ⟨steadyNext, follows_worker steadyNow rfl running (settles.follows.running running),
        ?_⟩
      intro stillRunning
      let expired : World := { world with pending := [], now := time, owner := expiry.owner }
      have expiredRunning : expired.transition.timerStart = true := running
      have spent := worker_remaining expiredRunning
      have bound : expired.remaining ≤ 64 := by
        have steps : expired.steps ≤ 63 := settles.steps_le running
        rw [World.remaining, if_pos expiredRunning]
        omega
      have left : (bleMeshOnOffOptionalWorker expired).remaining =
          (bleMeshOnOffOptionalWorker expired).steps + 1 := if_pos stillRunning
      change (bleMeshOnOffOptionalWorker expired).steps ≤ 63
      omega

/-- Without a Set, only an expiry brings the server nearer to its rest. -/
theorem remaining_of_nodeStep {world next : World} {latest : UInt8} {event : NodeEvent}
    (settles : Settles world latest) (quiet : event.requested = none)
    (happens : nodeStep world event = some next) :
    next.remaining + event.isExpiry.toNat = world.remaining := by
  cases nodeEffect_of_step happens with
  | set time ctx value _ requested =>
      rw [quiet] at requested
      cases requested
  | tell time statuses _ _ _ noExpiry =>
      rw [noExpiry]
      rfl
  | work time expiry rest pending _ isExpiry =>
      have running : world.transition.timerStart = true := (settles.of_pending pending).1
      rw [isExpiry]
      exact worker_remaining running

theorem settles_of_run {publishAddr : UInt16} {events : List NodeEvent} {world : World}
    (runs : run nodeStep (World.initial publishAddr) events = some world) :
    Settles world (mostRecentRequest events) :=
  invariant_of_recorded_run recordRequest Settles
    (fun _ _ _ _ settles happens => settles_of_nodeStep settles happens)
    (settles_initial publishAddr) runs

/-- What the timer will still do in a world, and what a rest looks like. -/
structure ComesToRest (world : World) (latest : UInt8) : Prop where
  remaining_le : world.remaining ≤ 64
  expires_iff : ∀ time, (nodeStep world (.expire time)).isSome = true ↔ 0 < world.remaining
  rests : world.remaining = 0 →
    world.pending = [] ∧ world.state.onoff = latest ∧ world.led = written latest
  spends : ∀ later final, (∀ event ∈ later, event.requested = none) →
    run nodeStep world later = some final →
    final.remaining + later.countP NodeEvent.isExpiry = world.remaining

theorem Settles.comesToRest {world : World} {latest : UInt8} (settles : Settles world latest) :
    ComesToRest world latest where
  remaining_le := by
    rw [World.remaining]
    split
    next running =>
      have steps := settles.steps_le running
      omega
    · exact Nat.zero_le _
  expires_iff time := by
    rw [Nat.pos_iff_ne_zero, ne_eq, ← settles.pending_iff]
    cases pending : world.pending with
    | nil => simp [nodeStep, serverStep, pending]
    | cons expiry rest => simp [nodeStep, serverStep, pending]
  rests none := by
    have stopped : world.transition.timerStart = false := by
      by_contra running
      rw [Bool.not_eq_false] at running
      rw [World.remaining, if_pos running] at none
      cases none
    have onoff := settles.follows.settled stopped
    refine ⟨settles.pending_iff.mpr none, onoff, ?_⟩
    rw [settles.steady.led, onoff]
    rfl
  spends later final quiet runs := by
    have keeps : ∀ world event next, Settles world latest → event.requested = none →
        nodeStep world event = some next → Settles next latest := by
      intro world event next settles noSet happens
      have kept := settles_of_nodeStep settles happens
      rwa [recordRequest, noSet] at kept
    have spends : ∀ world event next, Settles world latest → event.requested = none →
        nodeStep world event = some next →
        next.remaining + event.isExpiry.toNat = world.remaining :=
      fun _ _ _ => remaining_of_nodeStep
    exact countdown_of_run keeps spends settles quiet runs

/-- From every reachable state: at most 64 expiries are left, the timer can expire exactly
while some are left, every run without a Set uses up one for each expiry, and when none is
left the state and the levels written last are those of the last Set. -/
theorem comes_to_rest (publishAddr : UInt16) (events : List NodeEvent) (world : World)
    (runs : run nodeStep (World.initial publishAddr) events = some world) :
    ComesToRest world (mostRecentRequest events) :=
  (settles_of_run runs).comesToRest

/-- A Set to OFF with three steps of 100 ms. -/
def fadeOut : OnoffParam where
  event := .recvSetMsg
  ctx := { addr := 0x0002, recvDst := 0x0005, recvOp := .onoffSet }
  value := { opEn := true, onoff := 0, tid := 1, transTime := 3, delay := 2 }
  onoff_valid _ := isOnoff_zero

/-- The light is on its way to OFF when its state is published. -/
def fadingOut : List NodeEvent := [.deliver 0 fadeOut, .expire 10000, .publishUpdate 50000]

theorem comes_to_rest_fading_out :
    ∃ world, run nodeStep (World.initial 0xC000) fadingOut = some world ∧
      ComesToRest world (mostRecentRequest fadingOut) :=
  ⟨_, rfl, comes_to_rest 0xC000 fadingOut _ rfl⟩

end BleMesh.OnOff
