import BleMesh.Foundation.Execution
import BleMesh.OnOff.Server

/-! # The last command wins

A Set may come before, during or after any step of an older transition. Whatever the
order, the levels written last are those of the state, one expiry is pending exactly
while a transition runs, and the state or the target of the transition is the value of
the last Set.
-/

namespace BleMesh.OnOff

open Foundation.Execution

/-- The levels written last are those of the state, and a transition to 1 that has run
once has reached 1. -/
structure Steady (world : World) : Prop where
  onoff : IsOnoff world.state.onoff
  targetOnoff : IsOnoff world.state.targetOnoff
  led : world.led = LedLevels.all world.state.onoff.toUInt32
  reached : world.transition.timerStart = true → world.transition.justStarted = false →
    world.state.targetOnoff = 1 → world.state.onoff = 1

/-- The timer runs exactly while the flag is set, towards the value of the latest Set;
otherwise the state has that value. -/
structure Follows (world : World) (latest : UInt8) : Prop where
  pending : world.pending.length = if world.transition.timerStart = true then 1 else 0
  settled : world.transition.timerStart = false → world.state.onoff = latest
  running : world.transition.timerStart = true → world.state.targetOnoff = latest

/-- The value of the most recent Set. The initial value is 1. -/
def recordSet (latest : UInt8) : Event → UInt8
  | .receive _ message => message.set.onoff
  | .expire _ => latest

def mostRecentSet (events : List Event) : UInt8 := events.foldl recordSet 1

/-- Only the state, the LED and the transition matter. -/
theorem Steady.congr {world other : World} (steady : Steady world)
    (state : other.state = world.state) (led : other.led = world.led)
    (transition : other.transition = world.transition) : Steady other := by
  refine ⟨?_, ?_, ?_, ?_⟩
  · rw [state]
    exact steady.onoff
  · rw [state]
    exact steady.targetOnoff
  · rw [led, state]
    exact steady.led
  · rw [state, transition]
    exact steady.reached

/-- Only the state, the pending expiries and the transition matter. -/
theorem Follows.congr {world other : World} {latest : UInt8} (follows : Follows world latest)
    (state : other.state = world.state) (pending : other.pending = world.pending)
    (transition : other.transition = world.transition) : Follows other latest := by
  refine ⟨?_, ?_, ?_⟩
  · rw [pending, transition]
    exact follows.pending
  · rw [state, transition]
    exact follows.settled
  · rw [state, transition]
    exact follows.running

theorem steady_initial (publishAddr : UInt16) : Steady (World.initial publishAddr) where
  onoff := Or.inr rfl
  targetOnoff := Or.inl rfl
  led := rfl
  reached running := by cases running

theorem follows_initial (publishAddr : UInt16) : Follows (World.initial publishAddr) 1 where
  pending := rfl
  settled _ := rfl
  running running := by cases running

/-! ## Set messages -/

theorem Steady.receiveSet {world : World} (steady : Steady world) (ctx : MsgCtx)
    {set : OnoffSet} (valid : IsOnoff set.onoff) : Steady (receiveSet world ctx set) := by
  rw [receiveSet_eq]
  by_cases immediate : set.Immediate
  · rw [begin_of_immediate immediate valid]
    refine ⟨valid, steady.targetOnoff, rfl, ?_⟩
    intro running
    cases running
  · rw [begin_of_delayed immediate]
    refine ⟨steady.onoff, valid, steady.led, ?_⟩
    intro _ started
    cases started

/-- A Set stops the timer that was running, so none is pending when it is begun. -/
theorem Follows.beforeSet_pending {world : World} {latest : UInt8}
    (follows : Follows world latest) (ctx : MsgCtx) (set : OnoffSet) :
    (world.beforeSet ctx set).pending = [] := by
  simp only [World.beforeSet]
  split
  · rfl
  next stopped =>
    have length := follows.pending
    rw [if_neg stopped] at length
    exact List.eq_nil_of_length_eq_zero length

theorem Follows.receiveSet {world : World} {latest : UInt8} (follows : Follows world latest)
    (ctx : MsgCtx) {set : OnoffSet} (valid : IsOnoff set.onoff) :
    Follows (receiveSet world ctx set) set.onoff := by
  have noneBefore := follows.beforeSet_pending ctx set
  rw [receiveSet_eq]
  by_cases immediate : set.Immediate
  · rw [begin_of_immediate immediate valid]
    refine ⟨congrArg List.length noneBefore, fun _ => rfl, ?_⟩
    intro running
    cases running
  · rw [begin_of_delayed immediate]
    refine ⟨by simp [noneBefore, Transition.started], ?_, fun _ => rfl⟩
    intro stopped
    cases stopped

/-! ## Expiries -/

/-- A call of the worker acts so that a target of 1 is reached after the first call and
a target of 0 after the last. -/
theorem acted_reached {world : World} (steady : Steady world)
    (running : world.transition.timerStart = true) :
    (world.state.targetOnoff = 1 → world.acted.state.onoff = 1) ∧
      (world.transition.counter = 0 → world.acted.state.onoff = world.state.targetOnoff) := by
  have reachesOne : world.state.targetOnoff = 1 → world.acted.state.onoff = 1 := by
    intro isOn
    rw [World.acted_onoff]
    cases started : world.transition.justStarted with
    | true =>
        have acts : world.Acts := Or.inl ⟨started, isOn⟩
        rw [if_pos acts, isOn]
    | false =>
        split
        · exact isOn
        · exact steady.reached running started isOn
  refine ⟨reachesOne, ?_⟩
  intro last
  rcases steady.targetOnoff with isOff | isOn
  · have acts : world.Acts := Or.inr ⟨last, isOff⟩
    rw [World.acted_onoff, if_pos acts]
  · rw [reachesOne isOn, isOn]

theorem Steady.acted {world : World} (steady : Steady world)
    (running : world.transition.timerStart = true) : Steady world.acted := by
  refine ⟨?_, ?_, ?_, ?_⟩
  · rw [World.acted_onoff]
    split
    · exact steady.targetOnoff
    · exact steady.onoff
  · rw [World.acted_targetOnoff]
    exact steady.targetOnoff
  · rw [World.acted_led steady.targetOnoff, World.acted_onoff]
    split
    · rfl
    · exact steady.led
  · intro _ _ isOn
    rw [World.acted_targetOnoff] at isOn
    exact (acted_reached steady running).1 isOn

theorem Steady.worker {world : World} (steady : Steady world) :
    Steady (bleMeshOnOffOptionalWorker world) := by
  cases running : world.transition.timerStart with
  | false =>
      rw [worker_of_stopped running]
      refine ⟨steady.onoff, steady.targetOnoff, steady.led, ?_⟩
      intro stillRunning
      cases stillRunning
  | true =>
      have acted := steady.acted running
      rw [worker_of_running running]
      split
      · refine ⟨acted.onoff, acted.targetOnoff, acted.led, ?_⟩
        intro stillRunning
        cases stillRunning
      · exact ⟨acted.onoff, acted.targetOnoff, acted.led, acted.reached⟩

/-- The worker submits the timer again or clears the flag with the target reached. -/
theorem follows_worker {world : World} {latest : UInt8} (steady : Steady world)
    (expired : world.pending = []) (running : world.transition.timerStart = true)
    (target : world.state.targetOnoff = latest) :
    Follows (bleMeshOnOffOptionalWorker world) latest := by
  rw [worker_of_running running]
  split
  next last =>
    refine ⟨rfl, ?_, ?_⟩
    · intro _
      rw [World.stopTimer_state, (acted_reached steady running).2 last, target]
    · intro stillRunning
      cases stillRunning
  · refine ⟨by simp [expired, running], ?_, ?_⟩
    · intro stopped
      simp [running] at stopped
    · intro _
      simpa using target

/-! ## The law -/

theorem follows_of_step {world next : World} {latest : UInt8} {event : Event}
    (holds : Steady world ∧ Follows world latest) (happens : serverStep world event = some next) :
    Steady next ∧ Follows next (recordSet latest event) := by
  rcases holds with ⟨steady, follows⟩
  cases event with
  | receive time message =>
      cases happens
      have steadyNow : Steady { world with now := time } := steady.congr rfl rfl rfl
      have followsNow : Follows { world with now := time } latest :=
        follows.congr rfl rfl rfl
      rw [World.receive_eq]
      exact ⟨steadyNow.receiveSet _ message.onoff_valid,
        followsNow.receiveSet _ message.onoff_valid⟩
  | expire time =>
      rcases expire_of_step happens with ⟨expiry, rest, pending, nextEq⟩
      have length := follows.pending
      rw [pending] at length
      have running : world.transition.timerStart = true := by
        by_contra stopped
        simp [stopped] at length
      have expired : rest = [] := by simpa [running] using length
      have steadyNow : Steady { world with
          pending := rest, now := time, owner := expiry.owner } :=
        steady.congr rfl rfl rfl
      rw [nextEq]
      exact ⟨steadyNow.worker,
        follows_worker steadyNow expired running (follows.running running)⟩

/-- From any state in which the invariant holds. -/
theorem follows_of_run_from {initial world : World} {latest : UInt8} {events : List Event}
    (holds : Steady initial ∧ Follows initial latest)
    (runs : run serverStep initial events = some world) :
    Steady world ∧ Follows world (events.foldl recordSet latest) :=
  invariant_of_recorded_run recordSet (fun world latest => Steady world ∧ Follows world latest)
    (fun _ _ _ _ holds happens => follows_of_step holds happens) holds runs

theorem follows_of_run {publishAddr : UInt16} {events : List Event} {world : World}
    (runs : run serverStep (World.initial publishAddr) events = some world) :
    Steady world ∧ Follows world (mostRecentSet events) :=
  follows_of_run_from ⟨steady_initial publishAddr, follows_initial publishAddr⟩ runs

/-- In every reachable state: the flag is set iff exactly one expiry is pending; the
pins show the state; without a transition the state is the value of the most recent
Set; during one the target is, and a target of 1 is reached after the first call. -/
theorem last_command_wins (publishAddr : UInt16) (events : List Event) (world : World)
    (runs : run serverStep (World.initial publishAddr) events = some world) :
    (world.transition.timerStart = true ↔ world.pending.length = 1) ∧
      world.led = LedLevels.all world.state.onoff.toUInt32 ∧
      (world.transition.timerStart = false → world.state.onoff = mostRecentSet events) ∧
      (world.transition.timerStart = true →
        world.state.targetOnoff = mostRecentSet events ∧
        (world.transition.justStarted = false → world.state.targetOnoff = 1 →
          world.state.onoff = 1)) := by
  rcases follows_of_run runs with ⟨steady, follows⟩
  refine ⟨?_, steady.led, follows.settled, ?_⟩
  · rw [follows.pending]
    split
    next running => simp [running]
    next stopped => simp [stopped]
  · intro running
    exact ⟨follows.running running, steady.reached running⟩

/-- A Set to a value with delay 1 (5 ms) and no transition time. -/
def delayedSet (onoff : UInt8) (valid : IsOnoff onoff) : SetMessage where
  acknowledged := true
  src := 0x0001
  dst := 0x0005
  set := { opEn := false, onoff, tid := 1, transTime := 0, delay := 1 }
  onoff_valid := valid

/-- A second Set arrives between the two calls of the worker for the first. -/
def overtakenSet : List Event :=
  [.receive 0 (delayedSet 0 isOnoff_zero), .expire 5000,
    .receive 5000 (delayedSet 1 isOnoff_one), .expire 10000]

theorem last_command_wins_overtaken :
    ∃ world, run serverStep (World.initial 0) overtakenSet = some world ∧
      (world.transition.timerStart = true ↔ world.pending.length = 1) ∧
      world.led = LedLevels.all world.state.onoff.toUInt32 ∧
      (world.transition.timerStart = false →
        world.state.onoff = mostRecentSet overtakenSet) ∧
      (world.transition.timerStart = true →
        world.state.targetOnoff = mostRecentSet overtakenSet ∧
        (world.transition.justStarted = false → world.state.targetOnoff = 1 →
          world.state.onoff = 1)) :=
  ⟨_, rfl, last_command_wins 0 overtakenSet _ rfl⟩

end BleMesh.OnOff
