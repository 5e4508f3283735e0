import BleMesh.OnOff.LastCommandWins

/-! # The immediate path and the delayed path

A Set without optional fields and with delay 0 is carried out in
`ble_mesh_begin_onoff_work` itself. The same Set with a transition of no steps goes through
the worker, which also sets the target and publishes the change.
-/

namespace BleMesh.OnOff

open Foundation.Execution

/-- The values published so far. Answers to a Set are not publications. -/
def World.publications (world : World) : List UInt8 :=
  world.sent.filterMap fun status =>
    match status with
    | .reply _ _ => none
    | .publication onoff => some onoff

/-- What is compared of the two paths. -/
structure SetOutcome where
  onoff : UInt8
  targetOnoff : UInt8
  led : LedLevels
  timerStart : Bool
  pending : List Expiry
  publications : List UInt8
  deriving DecidableEq

def World.outcome (world : World) : SetOutcome where
  onoff := world.state.onoff
  targetOnoff := world.state.targetOnoff
  led := world.led
  timerStart := world.transition.timerStart
  pending := world.pending
  publications := world.publications

/-- The same message with the optional fields. -/
def SetMessage.withTransition (message : SetMessage) (transTime : UInt8) : SetMessage :=
  { message with set := { message.set with opEn := true, transTime } }

/-- A message handled at `time` on the immediate path, and on the delayed path with the
worker's run at `later`, leaves the same behind. -/
def PathsAgree (world : World) (message : SetMessage) (transTime : UInt8)
    (time later : Nat) : Prop :=
  (serverStep (world.receive time (message.withTransition transTime)) (.expire later)).map
    World.outcome = some (world.receive time message).outcome

/-! ## What each path leaves behind -/

theorem publications_sendStatus (world : World) (ctx : MsgCtx) :
    (world.sendStatus ctx).publications = world.publications := by
  simp [World.publications, World.sendStatus]

theorem outcome_of_immediate {world : World} {latest : UInt8} (follows : Follows world latest)
    {message : SetMessage} (immediate : message.set.Immediate) (time : Nat) :
    (world.receive time message).outcome =
      { onoff := message.set.onoff
        targetOnoff := world.state.targetOnoff
        led := LedLevels.all message.set.onoff.toUInt32
        timerStart := false
        pending := []
        publications := world.publications } := by
  have noneBefore : (({ world with now := time } : World).beforeSet message.ctx
      message.set).pending = [] := follows.beforeSet_pending message.ctx message.set
  rw [World.receive_eq, receiveSet_eq, begin_of_immediate immediate message.onoff_valid]
  simp only [World.outcome, publications_sendStatus, World.sendStatus_pending, noneBefore]
  rfl

/-- The only run of the worker for a transition without steps changes the state. -/
theorem worker_of_single_run {world : World} (running : world.transition.timerStart = true)
    (noSteps : world.transition.counter = 0) (started : world.transition.justStarted = true)
    (valid : IsOnoff world.state.targetOnoff) :
    bleMeshOnOffOptionalWorker world =
      (bleMeshOnOffStateChangeAndUpdate world.clearJustStarted).stopTimer := by
  have acts : world.Acts := by
    rcases valid with isOff | isOn
    · exact Or.inr ⟨noSteps, isOff⟩
    · exact Or.inl ⟨started, isOn⟩
  rw [worker_of_running running, if_pos noSteps, World.acted, if_pos acts]

/-- A change of the state that ends a transition. -/
theorem outcome_of_update {world : World} (valid : IsOnoff world.state.targetOnoff) :
    (bleMeshOnOffStateChangeAndUpdate world).stopTimer.outcome =
      { onoff := world.state.targetOnoff
        targetOnoff := world.state.targetOnoff
        led := LedLevels.all world.state.targetOnoff.toUInt32
        timerStart := false
        pending := []
        publications := world.publications ++
          if world.publishAddr = 0 then [] else [world.state.targetOnoff] } := by
  rw [update_of_isOnoff valid]
  by_cases unassigned : world.publishAddr = 0 <;>
    simp [World.outcome, World.publications, World.stopTimer, unassigned]

theorem outcome_of_zeroSteps {world : World} {latest : UInt8} (follows : Follows world latest)
    (message : SetMessage) {transTime : UInt8} (noSteps : 0x3F &&& transTime = 0)
    (time later : Nat) :
    (serverStep (world.receive time (message.withTransition transTime)) (.expire later)).map
        World.outcome =
      some {
        onoff := message.set.onoff
        targetOnoff := message.set.onoff
        led := LedLevels.all message.set.onoff.toUInt32
        timerStart := false
        pending := []
        publications := world.publications ++
          if world.publishAddr = 0 then [] else [message.set.onoff] } := by
  let slow := message.withTransition transTime
  have delayed : ¬ slow.set.Immediate := by
    intro immediate
    cases immediate.2
  have noneBefore : (({ world with now := time } : World).beforeSet slow.ctx
      slow.set).pending = [] := follows.beforeSet_pending slow.ctx slow.set
  change (serverStep (world.receive time slow) (.expire later)).map World.outcome = _
  rw [World.receive_eq, receiveSet_eq, begin_of_delayed delayed]
  simp only [serverStep, World.sendStatus_pending, World.submit_pending, noneBefore,
    List.nil_append, Option.map_some]
  have counter : (Transition.started slow.set time).counter = 0 := by
    simp [slow, SetMessage.withTransition, Transition.started, noSteps]
  rw [worker_of_single_run rfl counter rfl message.onoff_valid,
    outcome_of_update message.onoff_valid, Option.some.injEq, SetOutcome.mk.injEq]
  refine ⟨rfl, rfl, rfl, rfl, rfl, ?_⟩
  exact congrArg₂ _ (publications_sendStatus _ slow.ctx) rfl

/-- In every reachable state the two paths leave the same behind exactly if the target is
the value already and no publish address is assigned. -/
theorem pathsAgree_iff {publishAddr : UInt16} {events : List Event} {world : World}
    (reached : run serverStep (World.initial publishAddr) events = some world)
    {message : SetMessage} (immediate : message.set.Immediate) {transTime : UInt8}
    (noSteps : 0x3F &&& transTime = 0) (time later : Nat) :
    PathsAgree world message transTime time later ↔
      world.state.targetOnoff = message.set.onoff ∧ world.publishAddr = 0 := by
  have follows := (follows_of_run reached).2
  rw [PathsAgree, outcome_of_zeroSteps follows message noSteps,
    outcome_of_immediate follows immediate]
  by_cases unassigned : world.publishAddr = 0
  · simp [unassigned, eq_comm]
  · simp [unassigned]

/-- A Set without optional fields and with delay 0. -/
def immediateSet (onoff : UInt8) (valid : IsOnoff onoff) : SetMessage where
  acknowledged := true
  src := 0x0001
  dst := 0x0005
  set := { opEn := false, onoff, tid := 1, transTime := 0, delay := 0 }
  onoff_valid := valid

/-- The target is zeroed at the start, so a first Set to OFF without a publish address is
such a case. -/
theorem pathsAgree_iff_off :
    PathsAgree (World.initial 0) (immediateSet 0 isOnoff_zero) 0x40 0 1 ↔
      (World.initial 0).state.targetOnoff = 0 ∧ (World.initial 0).publishAddr = 0 :=
  @pathsAgree_iff 0 [] _ rfl (immediateSet 0 isOnoff_zero) ⟨rfl, rfl⟩ 0x40 rfl 0 1

/-- A first Set to ON leaves the target at 0, and nothing is published to the group that is
assigned. -/
theorem immediate_path_differs :
    ¬ ∀ (publishAddr : UInt16) (events : List Event) (world : World),
      run serverStep (World.initial publishAddr) events = some world →
        ∀ message : SetMessage, message.set.Immediate → ∀ transTime : UInt8,
          0x3F &&& transTime = 0 → ∀ time later, PathsAgree world message transTime time later := by
  intro always
  have agree := always 0xC000 [] _ rfl (immediateSet 1 isOnoff_one) ⟨rfl, rfl⟩ 0 rfl 0 1
  have target : (1 : UInt8) = 0 := congrArg (fun outcome => outcome.targetOnoff)
    (Option.some.inj agree)
  cases target

end BleMesh.OnOff
