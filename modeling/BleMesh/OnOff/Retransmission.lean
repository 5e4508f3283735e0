import BleMesh.OnOff.LastCommandWins

/-! # Retransmitted Set messages

The callback records source, destination, TID and time of each Set and never compares
them with a new one. A copy is handled like a new command: it restarts the transition
the first one started, or starts it again.
-/

namespace BleMesh.OnOff

open Foundation.Execution

/-- Nothing has changed of the state, the transition, its pending expiry and the LED. -/
structure Unchanged (before after : World) : Prop where
  state : after.state = before.state
  counter : after.transition.counter = before.transition.counter
  justStarted : after.transition.justStarted = before.transition.justStarted
  timerStart : after.transition.timerStart = before.transition.timerStart
  pending : after.pending = before.pending
  led : after.led = before.led

/-- What a Set leaves behind that is carried out at once. -/
structure CarriedOut (world after : World) (message : SetMessage) : Prop where
  state : after.state = { world.state with onoff := message.set.onoff }
  transition : after.transition = { world.transition with timerStart := false }
  pending : after.pending = []
  led : after.led = LedLevels.all message.set.onoff.toUInt32

/-- What a Set leaves behind that starts a transition. -/
structure Started (world after : World) (time : Nat) (message : SetMessage) : Prop where
  state : after.state = { world.state with targetOnoff := message.set.onoff }
  transition : after.transition = Transition.started message.set time
  pending : after.pending =
    [{ due := time + message.set.delay.toNat * 5 * 1000, owner := world.owner }]
  led : after.led = world.led
  owner : after.owner = world.owner

theorem receive_of_immediate {world : World} {latest : UInt8} (follows : Follows world latest)
    (time : Nat) {message : SetMessage} (immediate : message.set.Immediate) :
    CarriedOut world (world.receive time message) message := by
  have followsNow : Follows { world with now := time } latest :=
    follows.congr rfl rfl rfl
  have noneBefore := followsNow.beforeSet_pending message.ctx message.set
  rw [World.receive_eq, receiveSet_eq, begin_of_immediate immediate message.onoff_valid]
  exact ⟨rfl, rfl, noneBefore, rfl⟩

theorem receive_of_delayed {world : World} {latest : UInt8} (follows : Follows world latest)
    (time : Nat) {message : SetMessage} (delayed : ¬ message.set.Immediate) :
    Started world (world.receive time message) time message := by
  have followsNow : Follows { world with now := time } latest :=
    follows.congr rfl rfl rfl
  have noneBefore := followsNow.beforeSet_pending message.ctx message.set
  rw [World.receive_eq, receiveSet_eq, begin_of_delayed delayed]
  refine ⟨rfl, rfl, ?_, rfl, rfl⟩
  rw [World.sendStatus_pending, World.submit_pending, noneBefore]
  rfl

/-- A transition that has run once stays so until the next Set. -/
theorem justStarted_of_expiries {times : List Nat} {world final : World}
    (runs : run serverStep world (times.map Event.expire) = some final)
    (started : world.transition.justStarted = false) :
    final.transition.justStarted = false := by
  induction times generalizing world with
  | nil =>
      cases runs
      exact started
  | cons time times induction =>
      rcases run_cons_eq_some_iff.mp runs with ⟨next, happens, rest⟩
      rcases expire_of_step happens with ⟨expiry, pending, -, nextEq⟩
      apply induction rest
      rw [nextEq, worker_justStarted, started]
      rfl

/-- After an expiry the transition of a delayed Set is no longer just started. -/
theorem justStarted_of_started {world after final : World} {time : Nat} {message : SetMessage}
    (begun : Started world after time message) {expiry : Nat} {times : List Nat}
    (runs : run serverStep after ((expiry :: times).map Event.expire) = some final) :
    final.transition.justStarted = false := by
  rcases run_cons_eq_some_iff.mp runs with ⟨next, happens, rest⟩
  rcases expire_of_step happens with ⟨_, _, -, nextEq⟩
  apply justStarted_of_expiries rest
  rw [nextEq, worker_justStarted]
  simp [begun.transition, Transition.started]

/-- A Set that is carried out at once leaves no timer that could expire, and nothing for a
copy to change. -/
theorem unchanged_of_immediate {world between : World} {message : SetMessage}
    {first second : Nat} {times : List Nat} {latest : UInt8}
    (carriedOut : CarriedOut world (world.receive first message) message)
    (expiries : run serverStep (world.receive first message) (times.map Event.expire) =
      some between)
    (follows : Follows between latest) (immediate : message.set.Immediate) :
    Unchanged between (between.receive second message) := by
  have again := receive_of_immediate follows second immediate
  cases times with
  | nil =>
      cases expiries
      refine ⟨?_, ?_, ?_, ?_, ?_, ?_⟩
      · rw [again.state, carriedOut.state]
      · rw [again.transition]
      · rw [again.transition]
      · rw [again.transition, carriedOut.transition]
      · rw [again.pending, carriedOut.pending]
      · rw [again.led, carriedOut.led]
  | cons time times =>
      rcases run_cons_eq_some_iff.mp expiries with ⟨next, happens, -⟩
      rcases expire_of_step happens with ⟨expiry, rest, pending, -⟩
      rw [carriedOut.pending] at pending
      cases pending

/-- A copy of a delayed Set starts its transition once more. -/
theorem unchanged_of_delayed_iff {world between : World} {message : SetMessage}
    {first second : Nat} {times : List Nat} {latest : UInt8}
    (started : Started world (world.receive first message) first message)
    (expiries : run serverStep (world.receive first message) (times.map Event.expire) =
      some between)
    (follows : Follows between latest) (delayed : ¬ message.set.Immediate) :
    Unchanged between (between.receive second message) ↔ times = [] ∧ second = first := by
  have again := receive_of_delayed follows second delayed
  cases times with
  | nil =>
      cases expiries
      constructor
      · intro unchanged
        have pending := unchanged.pending
        rw [again.pending, started.pending, List.cons.injEq, Expiry.mk.injEq] at pending
        exact ⟨rfl, by omega⟩
      · intro sameInstant
        rcases sameInstant with ⟨-, rfl⟩
        refine ⟨?_, ?_, ?_, ?_, ?_, ?_⟩
        · rw [again.state, started.state]
        · rw [again.transition, started.transition]
        · rw [again.transition, started.transition]
        · rw [again.transition, started.transition]
        · rw [again.pending, started.pending, started.owner]
        · rw [again.led]
  | cons time times =>
      refine iff_of_false ?_ (by simp)
      intro unchanged
      have runOnce := justStarted_of_started started expiries
      have restarted := unchanged.justStarted
      rw [runOnce, again.transition] at restarted
      cases restarted

/-- A copy of a Set, after any number of expiries, changes nothing exactly if the Set
is carried out at once, or the copy comes at the same time with no expiry between. -/
theorem retransmission_unchanged_iff (publishAddr : UInt16) (events : List Event)
    (world between : World) (message : SetMessage) (first second : Nat) (times : List Nat)
    (reachable : run serverStep (World.initial publishAddr) events = some world)
    (expiries : run serverStep (world.receive first message) (times.map Event.expire) =
      some between) :
    Unchanged between (between.receive second message) ↔
      message.set.Immediate ∨ times = [] ∧ second = first := by
  have holds := follows_of_run reachable
  have happens : serverStep world (.receive first message) =
      some (world.receive first message) := rfl
  have holdsFirst := follows_of_step holds happens
  have follows := (follows_of_run_from holdsFirst expiries).2
  by_cases immediate : message.set.Immediate
  · have carriedOut := receive_of_immediate holds.2 first immediate
    exact iff_of_true (unchanged_of_immediate carriedOut expiries follows immediate)
      (Or.inl immediate)
  · have started := receive_of_delayed holds.2 first immediate
    simp only [immediate, false_or]
    exact unchanged_of_delayed_iff started expiries follows immediate

/-- The Set is delayed by 5 ms, and its copy comes 2 ms later. -/
theorem retransmission_unchanged_iff_delayed :
    ∃ between, run serverStep ((World.initial 0).receive 1000 (delayedSet 0 isOnoff_zero))
        (([] : List Nat).map Event.expire) = some between ∧
      (Unchanged between (between.receive 3000 (delayedSet 0 isOnoff_zero)) ↔
        (delayedSet 0 isOnoff_zero).set.Immediate ∨ ([] : List Nat) = [] ∧ 3000 = 1000) :=
  ⟨_, rfl, retransmission_unchanged_iff 0 [] _ _ (delayedSet 0 isOnoff_zero) 1000 3000 [] rfl rfl⟩

/-- Six seconds in µs, the window in which a copy belongs to the same transaction. -/
def transactionWindow : Nat := 6000000

/-- A copy 2 ms after a delayed Set restarts its timer. -/
theorem retransmission_restarts_timer :
    ¬ ∀ (publishAddr : UInt16) (events : List Event) (world between : World)
      (message : SetMessage) (first second : Nat) (times : List Nat),
      run serverStep (World.initial publishAddr) events = some world →
      run serverStep (world.receive first message) (times.map Event.expire) = some between →
      first ≤ second → second ≤ first + transactionWindow →
      Unchanged between (between.receive second message) := by
  intro always
  have unchanged := always 0 [] _ _ (delayedSet 0 isOnoff_zero) 1000 3000 [] rfl rfl
    (by decide) (by decide)
  exact absurd unchanged.pending (by decide)

end BleMesh.OnOff
