import BleMesh.OnOff.LastCommandWins

/-! # Worker calls that come too late

An expired timer puts a call of the worker in a queue, and cancelling the timer does not
take the call back. The worker knows its transition only by the flag, which the newer
Set has set again, so a late call is taken for one of the newer transition.
-/

namespace BleMesh.OnOff

open Foundation.Execution

/-- `latest` is the number of Set messages so far, and so that of the newest
transition. The queue holds the numbers of the transitions whose timers have expired.
`delayExpired` tells whether a timer of the newest one has. -/
structure QueueState where
  world : World
  latest : Nat
  queue : List Nat
  delayExpired : Bool

def QueueState.initial (publishAddr : UInt16) : QueueState where
  world := World.initial publishAddr
  latest := 0
  queue := []
  delayExpired := false

inductive QueueEvent
  | receive (time : Nat) (message : SetMessage)
  | expire (index : Nat)
  | execute (time : Nat)

/-- A queued call is made for the transition it was queued for. -/
def World.execute (world : World) (time owner : Nat) : World :=
  bleMeshOnOffOptionalWorker { world with now := time, owner }

def queueStep (state : QueueState) : QueueEvent → Option QueueState
  | .receive time message =>
      some { state with
        world := World.receive { state.world with owner := state.latest + 1 } time message
        latest := state.latest + 1
        delayExpired := false }
  | .expire index =>
      match state.world.pending[index]? with
      | none => none
      | some expiry =>
          some { state with
            world.pending := state.world.pending.eraseIdx index
            queue := state.queue ++ [expiry.owner]
            delayExpired := state.delayExpired || expiry.owner == state.latest }
  | .execute time =>
      match state.queue with
      | [] => none
      | owner :: rest =>
          some { state with world := state.world.execute time owner, queue := rest }

/-- State, LED, step counter and timer are left alone. -/
structure LeavesAlone (before after : World) : Prop where
  onoff : after.state.onoff = before.state.onoff
  led : after.led = before.led
  counter : after.transition.counter = before.transition.counter
  submitted : after.submitted = before.submitted

/-- A call that is made acts only for the newest transition, and not before the delay
of that one has expired. -/
def ActsForLatest (state : QueueState) : QueueEvent → Prop
  | .execute time => ∀ owner rest, state.queue = owner :: rest →
      (owner ≠ state.latest → LeavesAlone state.world (state.world.execute time owner)) ∧
      (state.delayExpired = false →
        (state.world.execute time owner).state.onoff = state.world.state.onoff ∧
          (state.world.execute time owner).led = state.world.led)
  | _ => True

/-- A call for a replaced transition finds no timer running, or all steps taken and
the target reached. -/
def FindsNothingToDo (state : QueueState) : QueueEvent → Prop
  | .execute _ => ∀ owner rest, state.queue = owner :: rest → owner ≠ state.latest →
      state.world.transition.timerStart = false ∨
        state.world.transition.counter = 0 ∧
          state.world.state.onoff = state.world.state.targetOnoff
  | _ => True

/-! ## One call -/

theorem leavesAlone_execute_iff {world : World} (steady : Steady world) (time owner : Nat) :
    LeavesAlone world (world.execute time owner) ↔
      world.transition.timerStart = false ∨
        world.transition.counter = 0 ∧ world.state.onoff = world.state.targetOnoff := by
  let called : World := { world with now := time, owner }
  have steadyNow : Steady called := steady.congr rfl rfl rfl
  have execute : world.execute time owner = bleMeshOnOffOptionalWorker called := rfl
  rw [execute]
  cases running : world.transition.timerStart with
  | false =>
      have stopped : called.transition.timerStart = false := running
      rw [worker_of_stopped stopped]
      exact iff_of_true ⟨rfl, rfl, rfl, rfl⟩ (Or.inl rfl)
  | true =>
      have runningNow : called.transition.timerStart = true := running
      have acted := steadyNow.acted runningNow
      rw [worker_of_running runningNow]
      split
      next last =>
        have reached := (acted_reached steadyNow runningNow).2 last
        have counter : world.transition.counter = 0 := last
        have target : called.state.targetOnoff = world.state.targetOnoff := rfl
        simp only [Bool.true_eq_false, counter, true_and, false_or]
        constructor
        · intro alone
          have onoff := alone.onoff
          rw [World.stopTimer_state, reached] at onoff
          exact onoff.symm
        · intro same
          refine ⟨?_, ?_, ?_, ?_⟩
          · rw [World.stopTimer_state, reached, target, same]
          · rw [World.stopTimer_led, acted.led, reached, target, ← same, steady.led]
          · simp [called]
          · simp [called]
      next more =>
        refine iff_of_false ?_ ?_
        · intro alone
          have submitted := alone.submitted
          simp [called] at submitted
        · simp only [Bool.true_eq_false, false_or]
          exact fun both => more both.1

/-! ## Runs -/

/-- The server is steady, no call is newer than the newest transition, and a call for
that one is queued only when its timer has expired. -/
structure Owned (state : QueueState) : Prop where
  steady : Steady state.world
  pending : ∀ expiry ∈ state.world.pending, expiry.owner ≤ state.latest
  queue : ∀ owner ∈ state.queue, owner ≤ state.latest
  expired : ∀ owner ∈ state.queue, owner = state.latest → state.delayExpired = true

theorem owned_initial (publishAddr : UInt16) : Owned (QueueState.initial publishAddr) where
  steady := steady_initial publishAddr
  pending := by simp [QueueState.initial, World.initial]
  queue := by simp [QueueState.initial]
  expired := by simp [QueueState.initial]

/-- A Set keeps pending expiries or puts in one of its own. -/
theorem receiveSet_pending (world : World) (ctx : MsgCtx) {set : OnoffSet}
    (valid : IsOnoff set.onoff) :
    ∀ expiry ∈ (receiveSet world ctx set).pending,
      expiry ∈ world.pending ∨ expiry.owner = world.owner := by
  have kept : ∀ expiry ∈ (world.beforeSet ctx set).pending, expiry ∈ world.pending := by
    intro expiry member
    simp only [World.beforeSet] at member
    split at member
    · cases member
    · exact member
  intro expiry member
  rw [receiveSet_eq, World.sendStatus_pending] at member
  by_cases immediate : set.Immediate
  · rw [begin_of_immediate immediate valid] at member
    exact Or.inl (kept expiry member)
  · rw [begin_of_delayed immediate, World.submit_pending, List.mem_append,
      List.mem_singleton] at member
    rcases member with member | rfl
    · exact Or.inl (kept expiry member)
    · exact Or.inr rfl

/-- So does a call of the worker. -/
theorem worker_pending (world : World) :
    ∀ expiry ∈ (bleMeshOnOffOptionalWorker world).pending,
      expiry ∈ world.pending ∨ expiry.owner = world.owner := by
  intro expiry member
  cases running : world.transition.timerStart with
  | false =>
      rw [worker_of_stopped running] at member
      cases member
  | true =>
      rw [worker_of_running running] at member
      split at member
      · cases member
      · simp only [World.submit_pending, World.acted_pending, World.acted_owner,
          List.mem_append, List.mem_singleton] at member
        rcases member with member | rfl
        · exact Or.inl member
        · exact Or.inr rfl

theorem Owned.receive {state : QueueState} (owned : Owned state) (time : Nat)
    (message : SetMessage) :
    Owned { state with
      world := World.receive { state.world with owner := state.latest + 1 } time message
      latest := state.latest + 1
      delayExpired := false } := by
  have steadyNow : Steady { state.world with owner := state.latest + 1, now := time } :=
    owned.steady.congr rfl rfl rfl
  refine ⟨?_, ?_, ?_, ?_⟩
  · rw [World.receive_eq]
    exact steadyNow.receiveSet _ message.onoff_valid
  · intro expiry member
    rw [World.receive_eq] at member
    rcases receiveSet_pending _ _ message.onoff_valid expiry member with kept | own
    · exact Nat.le_succ_of_le (owned.pending expiry kept)
    · exact Nat.le_of_eq own
  · intro owner member
    exact Nat.le_succ_of_le (owned.queue owner member)
  · intro owner member newest
    have bound := owned.queue owner member
    dsimp only at newest
    omega

theorem Owned.expire {state : QueueState} (owned : Owned state) {index : Nat} {expiry : Expiry}
    (present : state.world.pending[index]? = some expiry) :
    Owned { state with
      world.pending := state.world.pending.eraseIdx index
      queue := state.queue ++ [expiry.owner]
      delayExpired := state.delayExpired || expiry.owner == state.latest } := by
  refine ⟨owned.steady.congr rfl rfl rfl, ?_, ?_, ?_⟩
  · intro other member
    exact owned.pending other (List.mem_of_mem_eraseIdx member)
  · intro owner member
    rcases List.mem_append.mp member with queued | new
    · exact owned.queue owner queued
    · rw [List.mem_singleton.mp new]
      exact owned.pending expiry (List.mem_of_getElem? present)
  · intro owner member newest
    rcases List.mem_append.mp member with queued | new
    · simp [owned.expired owner queued newest]
    · rw [List.mem_singleton.mp new] at newest
      simpa using Or.inr newest

theorem Owned.execute {state : QueueState} (owned : Owned state) (time : Nat) {owner : Nat}
    {rest : List Nat} (queue : state.queue = owner :: rest) :
    Owned { state with world := state.world.execute time owner, queue := rest } := by
  have steadyNow : Steady { state.world with now := time, owner } :=
    owned.steady.congr rfl rfl rfl
  have queued : ∀ other ∈ rest, other ∈ state.queue := by
    intro other member
    rw [queue]
    exact List.mem_cons_of_mem owner member
  refine ⟨steadyNow.worker, ?_, ?_, ?_⟩
  · intro expiry member
    rcases worker_pending _ expiry member with kept | own
    · exact owned.pending expiry kept
    · rw [own]
      exact owned.queue owner (by simp [queue])
  · intro other member
    exact owned.queue other (queued other member)
  · intro other member newest
    exact owned.expired other (queued other member) newest

theorem owned_of_step {state next : QueueState} {event : QueueEvent} (owned : Owned state)
    (happens : queueStep state event = some next) : Owned next := by
  cases event with
  | receive time message =>
      cases happens
      exact owned.receive time message
  | expire index =>
      simp only [queueStep] at happens
      split at happens
      · cases happens
      next expiry present =>
        cases happens
        exact owned.expire present
  | execute time =>
      simp only [queueStep] at happens
      split at happens
      · cases happens
      next owner rest queue =>
        cases happens
        exact owned.execute time queue

/-- Along every run, calls act for the newest transition only exactly if each call for a
replaced one finds nothing to do. -/
theorem actsForLatest_throughout_iff (publishAddr : UInt16) (events : List QueueEvent) :
    (∀ performed ∈ taken queueStep (QueueState.initial publishAddr) events,
        ActsForLatest performed.1 performed.2) ↔
      ∀ performed ∈ taken queueStep (QueueState.initial publishAddr) events,
        FindsNothingToDo performed.1 performed.2 := by
  apply forall_taken_congr Owned
  · intro state event next owned happens
    exact owned_of_step owned happens
  · intro state event owned
    cases event with
    | receive time message => exact Iff.rfl
    | expire index => exact Iff.rfl
    | execute time =>
        constructor
        · intro acts owner rest queue stale
          exact (leavesAlone_execute_iff owned.steady time owner).mp
            ((acts owner rest queue).1 stale)
        · intro finds owner rest queue
          have alone : owner ≠ state.latest →
              LeavesAlone state.world (state.world.execute time owner) :=
            fun stale => (leavesAlone_execute_iff owned.steady time owner).mpr
              (finds owner rest queue stale)
          refine ⟨alone, ?_⟩
          intro early
          have stale : owner ≠ state.latest := by
            intro newest
            have expired := owned.expired owner (by simp [queue]) newest
            rw [early] at expired
            cases expired
          exact ⟨(alone stale).onoff, (alone stale).led⟩
  · exact owned_initial publishAddr

/-- The first transition's timer expires, a second Set replaces it, and then the call
that is still queued is made. -/
def lateCall : List QueueEvent :=
  [.receive 0 (delayedSet 0 isOnoff_zero), .expire 0,
    .receive 5001 (delayedSet 1 isOnoff_one), .execute 5002]

theorem late_call_acts :
    ¬ ∀ (publishAddr : UInt16) (events : List QueueEvent),
      ∀ performed ∈ taken queueStep (QueueState.initial publishAddr) events,
        ActsForLatest performed.1 performed.2 := by
  intro always
  have last : ∃ performed ∈ (taken queueStep (QueueState.initial 0) lateCall).getLast?,
      performed.1.queue = [1] ∧ performed.1.latest = 2 ∧
        performed.2 = .execute 5002 ∧
        (performed.1.world.execute 5002 1).submitted ≠ performed.1.world.submitted :=
    ⟨_, rfl, rfl, rfl, rfl, by decide⟩
  rcases last with ⟨⟨state, event⟩, member, queue, latest, rfl, submits⟩
  have acts := always 0 lateCall _ (List.mem_of_getLast? member) 1 [] queue
  have stale : 1 ≠ state.latest := by
    rw [latest]
    decide
  exact submits (acts.1 stale).submitted

end BleMesh.OnOff
