import Mathlib.Algebra.GroupWithZero.Nat
import BleMesh.OnOff.LastCommandWins

/-! # Uninterrupted transitions

A transition counts its steps down to zero, and the run that finds zero is the last. ON is
reached with the first run and OFF with the last one. Nothing is assumed here about the
world a transition is started in.
-/

namespace BleMesh.OnOff

open Foundation.Execution

/-- The number of steps a transition still has to make. -/
def World.steps (world : World) : Nat := world.transition.counter.toNat

/-- The time of one step in ms. -/
def World.stepTime (world : World) : Nat := world.transition.quoTt.toNat

/-- A transition to `value` has just been started. So far the timer was given its delay
only, after what had been given to it `before`. -/
structure FreshlyStarted (world : World) (before : List Nat) (value : UInt8) : Prop where
  valid : IsOnoff value
  targetOnoff : world.state.targetOnoff = value
  timerStart : world.transition.timerStart = true
  justStarted : world.transition.justStarted = true
  pending : world.pending ≠ []
  submitted : world.submitted = before ++ [5 * world.transition.delay.toNat]

/-- What `runs` runs of the worker have made of a world in which a transition to `value`
had just been started. The counter is a number without wrap-around here. -/
structure OnSchedule (world : World) (before : List Nat) (value : UInt8) (runs : Nat)
    (after : World) : Prop where
  onoff : after.state.onoff =
    if runs = world.steps + 1 ∨ value = 1 ∧ 1 ≤ runs then value else world.state.onoff
  steps : after.steps = world.steps - runs
  submitted : after.submitted = before ++ 5 * world.transition.delay.toNat ::
    List.replicate (min runs world.steps) world.stepTime
  running : runs ≤ world.steps → after.transition.timerStart = true ∧ after.pending ≠ []
  ended : runs = world.steps + 1 → after.transition.timerStart = false ∧ after.pending = []

/-- Expiries of the timer at some times, and nothing else. -/
def expiries (times : List Nat) : List Event := times.map Event.expire

/-- The worker runs once more than there are steps, and then never again; after each run
the world is on schedule; and when the transition has ended, the intervals given to the
timer sum up to the delay and the time of all steps. -/
structure RunsOnSchedule (world : World) (before : List Nat) (value : UInt8) : Prop where
  runs_iff : ∀ times, (∃ after, run serverStep world (expiries times) = some after) ↔
    times.length ≤ world.steps + 1
  onSchedule : ∀ times after, run serverStep world (expiries times) = some after →
    OnSchedule world before value times.length after
  total : ∀ times after, run serverStep world (expiries times) = some after →
    times.length = world.steps + 1 → ∃ intervals, after.submitted = before ++ intervals ∧
      intervals.sum = 5 * world.transition.delay.toNat + world.stepTime * world.steps

/-! ## One run of the worker -/

/-- Also what the worker uses but does not show. -/
structure Phase (world : World) (before : List Nat) (value : UInt8) (runs : Nat)
    (after : World) : Prop extends OnSchedule world before value runs after where
  targetOnoff : after.state.targetOnoff = value
  quoTt : after.transition.quoTt = world.transition.quoTt
  justStarted : after.transition.justStarted = decide (runs = 0)

theorem FreshlyStarted.phase {world : World} {before : List Nat} {value : UInt8}
    (started : FreshlyStarted world before value) : Phase world before value 0 world where
  onoff := by simp
  steps := rfl
  submitted := by simp [started.submitted]
  running _ := ⟨started.timerStart, started.pending⟩
  ended impossible := by cases impossible
  targetOnoff := started.targetOnoff
  quoTt := rfl
  justStarted := started.justStarted

/-- ON is reached with the first run and OFF with the last. -/
theorem Phase.acted_onoff {world current : World} {before : List Nat} {value : UInt8}
    {runs : Nat} (valid : IsOnoff value) (phase : Phase world before value runs current)
    (unfinished : runs ≤ world.steps) :
    current.acted.state.onoff =
      if runs + 1 = world.steps + 1 ∨ value = 1 ∧ 1 ≤ runs + 1 then value
      else world.state.onoff := by
  have counter : current.transition.counter = 0 ↔ runs = world.steps := by
    rw [← UInt32.toNat_inj]
    have steps := phase.steps
    rw [World.steps] at steps
    simp only [UInt32.toNat_zero]
    omega
  rw [World.acted_onoff, phase.targetOnoff, phase.onoff]
  simp only [World.Acts, phase.justStarted, phase.targetOnoff, counter, decide_eq_true_eq]
  rcases valid with rfl | rfl
  · have notEnded : runs ≠ world.steps + 1 := by omega
    by_cases last : runs = world.steps <;> simp [last, notEnded]
  · by_cases first : runs = 0 <;> simp [first, Nat.one_le_iff_ne_zero]

theorem steps_eq_zero_iff (world : World) : world.transition.counter = 0 ↔ world.steps = 0 := by
  rw [← UInt32.toNat_inj, UInt32.toNat_zero, World.steps]

/-- The counter is tested before it is decremented. -/
theorem counter_decremented {counter : UInt32} (positive : counter ≠ 0) :
    (counter - 1).toNat = counter.toNat - 1 := by
  have bound := UInt32.toNat_lt counter
  rw [ne_eq, ← UInt32.toNat_inj, UInt32.toNat_zero] at positive
  rw [UInt32.toNat_sub, UInt32.toNat_one]
  omega

theorem Phase.next {world current next : World} {before : List Nat} {value : UInt8}
    {runs time : Nat} (valid : IsOnoff value) (phase : Phase world before value runs current)
    (unfinished : runs ≤ world.steps)
    (happens : serverStep current (.expire time) = some next) :
    Phase world before value (runs + 1) next := by
  rcases expire_of_step happens with ⟨expiry, rest, _, rfl⟩
  let expired : World := { current with pending := rest, now := time, owner := expiry.owner }
  change Phase world before value (runs + 1) (bleMeshOnOffOptionalWorker expired)
  have running : expired.transition.timerStart = true := (phase.running unfinished).1
  have steps : expired.steps = world.steps - runs := phase.steps
  have submitted : expired.submitted = before ++ 5 * world.transition.delay.toNat ::
      List.replicate (min runs world.steps) world.stepTime := phase.submitted
  have onoff : expired.acted.state.onoff =
      if runs + 1 = world.steps + 1 ∨ value = 1 ∧ 1 ≤ runs + 1 then value
      else world.state.onoff :=
    ((World.acted_onoff expired).trans (World.acted_onoff current).symm).trans
      (phase.acted_onoff valid unfinished)
  rw [worker_of_running running]
  by_cases last : expired.transition.counter = 0
  · have noSteps := (steps_eq_zero_iff expired).mp last
    have final : runs = world.steps := by omega
    rw [if_pos last]
    refine ⟨⟨onoff, ?_, ?_, ?_, ?_⟩, ?_, ?_, ?_⟩
    · have same : expired.acted.stopTimer.steps = expired.steps := by simp [World.steps]
      omega
    · simp [submitted, final]
    · intro more
      omega
    · intro _
      exact ⟨rfl, rfl⟩
    · simpa using phase.targetOnoff
    · simpa using phase.quoTt
    · simp
  · have someSteps := mt (steps_eq_zero_iff expired).mpr last
    have counted : (expired.transition.counter - 1).toNat = world.steps - (runs + 1) := by
      rw [counter_decremented last]
      change expired.steps - 1 = _
      omega
    have interval : expired.transition.quoTt.toNat = world.stepTime :=
      congrArg UInt32.toNat phase.quoTt
    have earlier : min runs world.steps = runs := Nat.min_eq_left unfinished
    have later : min (runs + 1) world.steps = runs + 1 := Nat.min_eq_left (by omega)
    rw [if_neg last]
    refine ⟨⟨onoff, counted, ?_, ?_, ?_⟩, ?_, ?_, ?_⟩
    · simp [submitted, interval, earlier, later, List.replicate_succ']
    · intro _
      exact ⟨by simpa using running, by simp⟩
    · intro ended
      omega
    · simpa using phase.targetOnoff
    · simpa using phase.quoTt
    · simp

/-! ## All runs of the worker -/

/-- A run of the worker can follow exactly while there are steps left or none has been
found yet. -/
theorem Phase.expires_iff {world current : World} {before : List Nat} {value : UInt8}
    {runs : Nat} (phase : Phase world before value runs current) (bound : runs ≤ world.steps + 1)
    (time : Nat) :
    (∃ next, serverStep current (.expire time) = some next) ↔ runs ≤ world.steps := by
  constructor
  · intro happens
    rcases happens with ⟨next, happens⟩
    rcases expire_of_step happens with ⟨expiry, rest, pending, _⟩
    by_contra ended
    rw [(phase.ended (by omega)).2] at pending
    cases pending
  · intro unfinished
    cases pending : current.pending with
    | nil => exact absurd pending (phase.running unfinished).2
    | cons expiry rest => exact ⟨_, by rw [serverStep, pending]⟩

theorem Phase.run_iff {world current : World} {before : List Nat} {value : UInt8} {runs : Nat}
    (valid : IsOnoff value) (phase : Phase world before value runs current)
    (bound : runs ≤ world.steps + 1) (times : List Nat) :
    (∃ after, run serverStep current (expiries times) = some after) ↔
      runs + times.length ≤ world.steps + 1 := by
  induction times generalizing current runs with
  | nil => simpa [expiries] using bound
  | cons time times induction =>
      simp only [expiries, List.map_cons, run_cons_eq_some_iff, List.length_cons]
      constructor
      · intro runsOn
        rcases runsOn with ⟨after, next, happens, rest⟩
        have unfinished := (phase.expires_iff bound time).mp ⟨next, happens⟩
        have tail := (induction (phase.next valid unfinished happens) (by omega)).mp ⟨after, rest⟩
        omega
      · intro within
        have unfinished : runs ≤ world.steps := by omega
        rcases (phase.expires_iff bound time).mpr unfinished with ⟨next, happens⟩
        have tail := (induction (phase.next valid unfinished happens) (by omega)).mpr (by omega)
        rcases tail with ⟨after, rest⟩
        exact ⟨after, next, happens, rest⟩

theorem Phase.of_run {world current after : World} {before : List Nat} {value : UInt8}
    {runs : Nat} (valid : IsOnoff value) (phase : Phase world before value runs current)
    (bound : runs ≤ world.steps + 1) {times : List Nat}
    (runsOn : run serverStep current (expiries times) = some after) :
    Phase world before value (runs + times.length) after := by
  induction times generalizing current runs with
  | nil =>
      cases runsOn
      exact phase
  | cons time times induction =>
      rcases run_cons_eq_some_iff.mp runsOn with ⟨next, happens, rest⟩
      have unfinished := (phase.expires_iff bound time).mp ⟨next, happens⟩
      have final := induction (phase.next valid unfinished happens) (by omega) rest
      rw [List.length_cons, Nat.add_comm times.length, ← Nat.add_assoc]
      exact final

theorem FreshlyStarted.runsOnSchedule {world : World} {before : List Nat} {value : UInt8}
    (started : FreshlyStarted world before value) : RunsOnSchedule world before value := by
  have onSchedule : ∀ times after, run serverStep world (expiries times) = some after →
      OnSchedule world before value times.length after := by
    intro times after runsOn
    have phase := started.phase.of_run started.valid (Nat.zero_le _) runsOn
    rw [Nat.zero_add] at phase
    exact phase.toOnSchedule
  refine ⟨?_, onSchedule, ?_⟩
  · intro times
    have runIff := started.phase.run_iff started.valid (Nat.zero_le _) times
    rwa [Nat.zero_add] at runIff
  · intro times after runsOn all
    refine ⟨_, (onSchedule times after runsOn).submitted, ?_⟩
    rw [List.sum_cons, List.sum_replicate_nat, all, Nat.min_eq_right (Nat.le_succ _),
      Nat.mul_comm world.steps]

/-! ## Transitions that a Set starts -/

theorem multiplier_le (transTime : UInt8) :
    (bleMeshTransitionMultiplier transTime).toNat ≤ 600000 := by
  simp only [bleMeshTransitionMultiplier]
  split_ifs <;> decide

theorem steps_le (transTime : UInt8) : (0x3F &&& transTime).toUInt32.toNat ≤ 63 := by
  rw [UInt8.toNat_toUInt32, UInt8.toNat_and]
  exact Nat.and_le_left

/-- The duration of 63 steps of ten minutes fits into 32 bits. -/
theorem totalDuration_started (set : OnoffSet) (now : Nat) :
    (Transition.started set now).totalDuration.toNat =
      (Transition.started set now).quoTt.toNat * (Transition.started set now).counter.toNat := by
  by_cases noOptions : set.opEn = false
  · simp [Transition.started, noOptions]
  · simp only [Transition.started, noOptions, UInt32.toNat_mul]
    apply Nat.mod_eq_of_lt
    calc (bleMeshTransitionMultiplier set.transTime).toNat *
          (0x3F &&& set.transTime).toUInt32.toNat
        ≤ 600000 * 63 := Nat.mul_le_mul (multiplier_le _) (steps_le _)
      _ < UInt32.size := by decide

theorem freshlyStarted_of_delayed (world : World) (time : Nat) {message : SetMessage}
    (delayed : ¬ message.set.Immediate) :
    FreshlyStarted (world.receive time message) world.submitted message.set.onoff := by
  rw [World.receive_eq, receiveSet_eq, begin_of_delayed delayed]
  refine ⟨message.onoff_valid, rfl, rfl, rfl, by simp, ?_⟩
  rw [Nat.mul_comm]
  rfl

/-- Every transition that has just been started runs on schedule, and a delayed Set starts
its own without touching the state. The time of all its steps is what is stored as the total
duration. -/
theorem transition_runs_on_schedule :
    (∀ world before value, FreshlyStarted world before value →
      RunsOnSchedule world before value) ∧
    ∀ (world : World) (time : Nat) (message : SetMessage), ¬ message.set.Immediate →
      RunsOnSchedule (world.receive time message) world.submitted message.set.onoff ∧
        (world.receive time message).state.onoff = world.state.onoff ∧
        (world.receive time message).transition = Transition.started message.set time ∧
        (world.receive time message).transition.delay = message.set.delay ∧
        (world.receive time message).transition.totalDuration.toNat =
          (world.receive time message).stepTime * (world.receive time message).steps := by
  refine ⟨fun _ _ _ started => started.runsOnSchedule, ?_⟩
  intro world time message delayed
  refine ⟨(freshlyStarted_of_delayed world time delayed).runsOnSchedule, ?_⟩
  rw [World.receive_eq, receiveSet_eq, begin_of_delayed delayed]
  exact ⟨rfl, rfl, rfl, totalDuration_started _ _⟩

/-- A Set to OFF with a delay of 10 ms and three steps of a second. -/
def stepwiseSet : SetMessage where
  acknowledged := true
  src := 0x0002
  dst := 0x0005
  set := { opEn := true, onoff := 0, tid := 1, transTime := 0x43, delay := 2 }
  onoff_valid := isOnoff_zero

theorem transition_runs_on_schedule_off :
    RunsOnSchedule ((World.initial 0).receive 0 stepwiseSet) [] 0 ∧
      ((World.initial 0).receive 0 stepwiseSet).stepTime = 1000 ∧
      ((World.initial 0).receive 0 stepwiseSet).steps = 3 :=
  ⟨(transition_runs_on_schedule.2 (World.initial 0) 0 stepwiseSet (by decide)).1,
    by decide, by decide⟩

end BleMesh.OnOff
