import BleMesh.Foundation.Observation
import BleMesh.OnOff.LastCommandWins
import BleMesh.OnOff.Replies

/-! # The node and the levels it writes

All that reaches the Generic OnOff server of a node: every event of its callback with every
opcode, expiries of the transition timer and the publication timer of the model. What the
node tells about itself are the levels it has last written to the pins of the LED, and it
writes other levels only as it is asked to.

In `nodeStep` the timer takes a delay of 0 as any other delay: the worker runs when the timer
expires. In `pieceStep` it may as well run before the call that submits it returns.
-/

namespace BleMesh.OnOff

open Foundation.Execution Foundation.Observation

/-- `esp_ble_mesh_generic_server_cb_param_t` with its event. `value` is the union of the
parameters. The stack drops a Set with another value. -/
structure OnoffParam where
  event : ServerEvent
  ctx : MsgCtx
  value : OnoffSet
  onoff_valid : event = .recvSetMsg → IsOnoff value.onoff

inductive NodeEvent
  | deliver (time : Nat) (param : OnoffParam)
  | expire (time : Nat)
  | publishUpdate (time : Nat)

/-- The callback registered for the publication timer. -/
def bleMeshLightServertGenericOnOffServerPublicationCallback (world : World) : World :=
  { world with sent := world.sent ++ [.publication world.state.onoff] }

def nodeStep (world : World) : NodeEvent → Option World
  | .deliver time param =>
      some (bleMeshLightServerGenericOnOffModelCallback { world with now := time } param.event
        param.ctx param.value)
  | .expire time => serverStep world (.expire time)
  | .publishUpdate time =>
      some (bleMeshLightServertGenericOnOffServerPublicationCallback { world with now := time })

def Opcode.isSet : Opcode → Bool
  | .onoffSet => true
  | .onoffSetUnack => true
  | .onoffGet => false
  | .other _ => false

/-- The value a Set asks for. -/
def NodeEvent.requested : NodeEvent → Option UInt8
  | .deliver _ param =>
      if param.event = .recvSetMsg ∧ param.ctx.recvOp.isSet = true then some param.value.onoff
      else none
  | .expire _ => none
  | .publishUpdate _ => none

def NodeEvent.isExpiry : NodeEvent → Bool
  | .deliver _ _ => false
  | .expire _ => true
  | .publishUpdate _ => false

/-- The value that a Status message carries. -/
def SentStatus.onoff : SentStatus → UInt8
  | .reply _ onoff => onoff
  | .publication onoff => onoff

/-- The levels that a value of the state is written as. -/
def written (onoff : UInt8) : LedLevels := LedLevels.all onoff.toUInt32

/-! ## One step -/

/-- A step begins the work of a Set, sends the state, or runs the worker. -/
inductive NodeEffect (world : World) (event : NodeEvent) : World → Prop
  | set (time : Nat) (ctx : MsgCtx) (value : OnoffSet) (valid : IsOnoff value.onoff)
      (requested : event.requested = some value.onoff) :
      NodeEffect world event (receiveSet { world with now := time } ctx value)
  | tell (time : Nat) (statuses : List SentStatus) (single : statuses.length ≤ 1)
      (state : ∀ status ∈ statuses, status.onoff = world.state.onoff)
      (requested : event.requested = none) (noExpiry : event.isExpiry = false) :
      NodeEffect world event { world with now := time, sent := world.sent ++ statuses }
  | work (time : Nat) (expiry : Expiry) (rest : List Expiry)
      (pending : world.pending = expiry :: rest) (requested : event.requested = none)
      (isExpiry : event.isExpiry = true) :
      NodeEffect world event (bleMeshOnOffOptionalWorker
        { world with pending := rest, now := time, owner := expiry.owner })

/-- An event that is not handled is only logged. -/
theorem NodeEffect.quiet {world : World} {event : NodeEvent} (time : Nat)
    (requested : event.requested = none) (noExpiry : event.isExpiry = false) :
    NodeEffect world event { world with now := time } := by
  have effect : NodeEffect world event
      { world with now := time, sent := world.sent ++ [] } :=
    NodeEffect.tell time [] (Nat.zero_le _) (by simp) requested noExpiry
  rwa [List.append_nil] at effect

theorem NodeEffect.tellOne {world : World} {event : NodeEvent} (time : Nat)
    {status : SentStatus} (state : status.onoff = world.state.onoff)
    (requested : event.requested = none) (noExpiry : event.isExpiry = false) :
    NodeEffect world event { world with now := time, sent := world.sent ++ [status] } := by
  refine NodeEffect.tell time [status] (Nat.le_refl _) ?_ requested noExpiry
  intro told member
  rw [List.mem_singleton.mp member]
  exact state

theorem nodeEffect_of_step {world next : World} {event : NodeEvent}
    (happens : nodeStep world event = some next) : NodeEffect world event next := by
  cases event with
  | deliver time param =>
      rcases param with ⟨event, ⟨addr, recvDst, recvOp⟩, value, valid⟩
      cases happens
      cases event with
      | stateChange => exact NodeEffect.quiet time rfl rfl
      | other => exact NodeEffect.quiet time rfl rfl
      | recvGetMsg =>
          cases recvOp with
          | onoffGet => exact NodeEffect.tellOne time rfl rfl rfl
          | onoffSet => exact NodeEffect.quiet time rfl rfl
          | onoffSetUnack => exact NodeEffect.quiet time rfl rfl
          | other => exact NodeEffect.quiet time rfl rfl
      | recvSetMsg =>
          cases recvOp with
          | onoffGet => exact NodeEffect.quiet time rfl rfl
          | onoffSet => exact NodeEffect.set time _ value (valid rfl) rfl
          | onoffSetUnack => exact NodeEffect.set time _ value (valid rfl) rfl
          | other => exact NodeEffect.quiet time rfl rfl
  | expire time =>
      rcases expire_of_step happens with ⟨expiry, rest, pending, rfl⟩
      exact NodeEffect.work time expiry rest pending rfl rfl
  | publishUpdate time =>
      cases happens
      exact NodeEffect.tellOne time rfl rfl rfl

theorem steady_of_nodeStep {world next : World} {event : NodeEvent} (steady : Steady world)
    (happens : nodeStep world event = some next) : Steady next := by
  cases nodeEffect_of_step happens with
  | set time ctx value valid _ =>
      have steadyNow : Steady { world with now := time } := steady.congr rfl rfl rfl
      exact steadyNow.receiveSet ctx valid
  | tell time statuses _ _ _ _ => exact steady.congr rfl rfl rfl
  | work time expiry rest _ _ _ =>
      have steadyNow : Steady { world with
          pending := rest, now := time, owner := expiry.owner } :=
        steady.congr rfl rfl rfl
      exact steadyNow.worker

/-! ## What is told -/

/-- The node between two pieces of its code. `unanswered` is the message of a Set whose
reply is still to be sent. -/
structure Serving where
  world : World
  unanswered : Option MsgCtx

/-- A piece runs without a break. A Set is begun in one piece and answered in another. -/
inductive NodePiece
  | event (event : NodeEvent)
  | answer

def OnoffParam.isSet (param : OnoffParam) : Bool :=
  param.event == .recvSetMsg && param.ctx.recvOp.isSet

/-- The branch of the callback for a Set up to its reply. -/
def World.beginSet (world : World) (ctx : MsgCtx) (set : OnoffSet) : World :=
  bleMeshBeginOnoffWork (world.beforeSet ctx set) set

/-- A timer that calls the worker itself makes it run between the two pieces of a Set, or
right behind the worker, which submits last. A callback returns before the next message. -/
def pieceStep (serving : Serving) : NodePiece → Option Serving
  | .event (.deliver time param) =>
      if serving.unanswered.isSome then none
      else if param.isSet then
        some {
          world := World.beginSet { serving.world with now := time } param.ctx param.value
          unanswered := some param.ctx }
      else
        (nodeStep serving.world (.deliver time param)).map fun world => { serving with world }
  | .event event => (nodeStep serving.world event).map fun world => { serving with world }
  | .answer =>
      serving.unanswered.map fun ctx =>
        { world := serving.world.sendStatus ctx, unanswered := none }

/-- A piece begins a Set, answers it, or is an event without a Set. -/
inductive PieceEffect (serving : Serving) : Serving → Prop
  | begins (time : Nat) (ctx : MsgCtx) (set : OnoffSet) (valid : IsOnoff set.onoff) :
      PieceEffect serving {
        world := World.beginSet { serving.world with now := time } ctx set
        unanswered := some ctx }
  | runs {event world} (requested : event.requested = none)
      (happens : nodeStep serving.world event = some world) :
      PieceEffect serving { serving with world }
  | answers (ctx : MsgCtx) :
      PieceEffect serving { world := serving.world.sendStatus ctx, unanswered := none }

theorem requested_deliver (time : Nat) (param : OnoffParam) :
    (NodeEvent.deliver time param).requested =
      if param.isSet then some param.value.onoff else none := by
  simp [NodeEvent.requested, OnoffParam.isSet]

theorem pieceEffect_of_step {serving next : Serving} {piece : NodePiece}
    (happens : pieceStep serving piece = some next) : PieceEffect serving next := by
  have runs : ∀ event, event.requested = none →
      (nodeStep serving.world event).map (fun world => { serving with world }) = some next →
      PieceEffect serving next := by
    intro event requested happens
    rcases Option.map_eq_some_iff.mp happens with ⟨world, stepped, rfl⟩
    exact .runs requested stepped
  cases piece with
  | answer =>
      rcases Option.map_eq_some_iff.mp happens with ⟨ctx, _, rfl⟩
      exact .answers ctx
  | event event =>
      cases event with
      | expire time => exact runs (.expire time) rfl happens
      | publishUpdate time => exact runs (.publishUpdate time) rfl happens
      | deliver time param =>
          simp only [pieceStep] at happens
          split at happens
          · cases happens
          split at happens
          next isSet =>
            cases happens
            have received : param.event = .recvSetMsg := by
              simp only [OnoffParam.isSet, Bool.and_eq_true, beq_iff_eq] at isSet
              exact isSet.1
            exact .begins time param.ctx param.value (param.onoff_valid received)
          next noSet =>
            exact runs (.deliver time param) ((requested_deliver time param).trans (if_neg noSet))
              happens

theorem Steady.beginSet {world : World} (steady : Steady world) (ctx : MsgCtx)
    {set : OnoffSet} (valid : IsOnoff set.onoff) : Steady (world.beginSet ctx set) := by
  have answered := steady.receiveSet ctx valid
  rw [receiveSet_eq] at answered
  exact answered.congr rfl rfl rfl

theorem steady_of_pieceStep {serving next : Serving} {piece : NodePiece}
    (steady : Steady serving.world) (happens : pieceStep serving piece = some next) :
    Steady next.world := by
  cases pieceEffect_of_step happens with
  | begins time ctx set valid =>
      have steadyNow : Steady { serving.world with now := time } := steady.congr rfl rfl rfl
      exact steadyNow.beginSet ctx valid
  | runs _ stepped => exact steady_of_nodeStep steady stepped
  | answers ctx => exact steady.congr rfl rfl rfl

/-- At most one Status message is sent, with the value that the state has then. -/
def TellsState (before after : World) : Prop :=
  ∃ statuses, after.sent = before.sent ++ statuses ∧ statuses.length ≤ 1 ∧
    ∀ status ∈ statuses, status.onoff = after.state.onoff

theorem tellsState_of_silent {before after : World} (silent : after.sent = before.sent) :
    TellsState before after :=
  ⟨[], silent.trans (List.append_nil _).symm, Nat.zero_le _, by simp⟩

theorem tellsState_of_status {before after : World} {status : SentStatus}
    (sent : after.sent = before.sent ++ [status]) (state : status.onoff = after.state.onoff) :
    TellsState before after := by
  refine ⟨[status], sent, Nat.le_refl _, ?_⟩
  intro told member
  rw [List.mem_singleton.mp member]
  exact state

/-- A change of the state is published if the model has an address to publish to. -/
theorem acted_tellsState (world : World) : TellsState world world.acted := by
  by_cases acts : world.Acts
  · have onoff : world.acted.state.onoff = world.state.targetOnoff := by
      rw [World.acted_onoff, if_pos acts]
    have sent : world.acted.sent = world.sent ∨
        world.acted.sent = world.sent ++ [.publication world.state.targetOnoff] := by
      rw [World.acted, if_pos acts]
      simp only [bleMeshOnOffStateChangeAndUpdate, bleMeshDeviceControlletChangeOnoffState]
      split <;> split
      · exact Or.inl rfl
      · exact Or.inr rfl
      · exact Or.inl rfl
      · exact Or.inr rfl
    rcases sent with silent | published
    · exact tellsState_of_silent silent
    · exact tellsState_of_status published onoff.symm
  · have silent : world.acted.sent = world.sent := by
      rw [World.acted, if_neg acts]
      rfl
    exact tellsState_of_silent silent

theorem worker_tellsState (world : World) :
    TellsState world (bleMeshOnOffOptionalWorker world) := by
  cases running : world.transition.timerStart with
  | false =>
      rw [worker_of_stopped running]
      exact tellsState_of_silent rfl
  | true =>
      rw [worker_of_running running]
      split
      · exact acted_tellsState world
      · exact acted_tellsState world

theorem tellsState_of_pieceStep {serving next : Serving} {piece : NodePiece}
    (happens : pieceStep serving piece = some next) : TellsState serving.world next.world := by
  cases pieceEffect_of_step happens with
  | begins time ctx set _ => exact tellsState_of_silent (begin_sent _ set)
  | answers ctx => exact tellsState_of_status rfl rfl
  | runs requested stepped =>
      cases nodeEffect_of_step stepped with
      | set time ctx value _ asked =>
          rw [requested] at asked
          cases asked
      | tell time statuses single state _ _ => exact ⟨statuses, rfl, single, state⟩
      | work time expiry rest _ _ _ =>
          exact worker_tellsState
            { serving.world with pending := rest, now := time, owner := expiry.owner }

/-- At most one Status message is sent, with the value that the levels written last stand
for. -/
def TellsWritten (before after : World) : Prop :=
  ∃ statuses, after.sent = before.sent ++ statuses ∧ statuses.length ≤ 1 ∧
    ∀ status ∈ statuses, after.led = written status.onoff

theorem tellsWritten_of_pieceStep {serving next : Serving} {piece : NodePiece}
    (steady : Steady serving.world) (happens : pieceStep serving piece = some next) :
    TellsWritten serving.world next.world := by
  have steadyNext := steady_of_pieceStep steady happens
  rcases tellsState_of_pieceStep happens with ⟨statuses, sent, single, state⟩
  refine ⟨statuses, sent, single, ?_⟩
  intro status member
  rw [state status member]
  exact steadyNext.led

/-- In every run of its pieces, wherever the worker runs, each Status message that leaves the
node, a reply or a publication of either kind, carries the value that stands for the levels
written last when it is sent. -/
theorem statuses_tell_led (publishAddr : UInt16) (pieces : List NodePiece) :
    EveryStep pieceStep (fun serving _ next => TellsWritten serving.world next.world)
      { world := World.initial publishAddr, unanswered := none } pieces := by
  refine everyStep_of_invariant (fun serving => Steady serving.world) ?_ ?_ pieces
    (steady_initial publishAddr)
  · intro serving piece next steady happens
    exact steady_of_pieceStep steady happens
  · intro serving piece next steady happens
    exact tellsWritten_of_pieceStep steady happens

/-- A Set to ON with optional fields, but without steps and delay. -/
def switchOn : OnoffParam where
  event := .recvSetMsg
  ctx := { addr := 0x0002, recvDst := 0x0005, recvOp := .onoffSet }
  value := { opEn := true, onoff := 1, tid := 1, transTime := 0, delay := 0 }
  onoff_valid _ := isOnoff_one

-- A timer that calls the worker itself publishes the change before the Set is answered.
example :
    (run pieceStep { world := World.initial 0xC000, unanswered := none }
      [.event (.deliver 0 switchOn), .event (.expire 0), .answer]).map
        (fun serving => serving.world.sent) =
      some [.publication 1, .reply switchOn.ctx 1] := by
  decide

/-- The pieces of an event when the timer takes a delay of 0 as any other. -/
def NodeEvent.pieces (event : NodeEvent) : List NodePiece :=
  if event.requested.isSome then [.event event, .answer] else [.event event]

theorem run_pieces (world : World) (event : NodeEvent) :
    run pieceStep { world, unanswered := none } event.pieces =
      (nodeStep world event).map fun world => { world, unanswered := none } := by
  have single : ∀ piece, run pieceStep { world, unanswered := none } [piece] =
      pieceStep { world, unanswered := none } piece := by
    intro piece
    rw [run]
    cases pieceStep { world, unanswered := none } piece <;> rfl
  cases event with
  | expire time => exact single _
  | publishUpdate time => exact single _
  | deliver time param =>
      rw [NodeEvent.pieces, requested_deliver]
      cases isSet : param.isSet with
      | false => simp [single, pieceStep, isSet]
      | true =>
          rcases param with ⟨event, ⟨addr, recvDst, recvOp⟩, value, valid⟩
          simp only [OnoffParam.isSet, Bool.and_eq_true, beq_iff_eq] at isSet
          rcases isSet with ⟨rfl, setOp⟩
          cases recvOp with
          | onoffGet => cases setOp
          | other value => cases setOp
          | onoffSet =>
              simp [run, pieceStep, OnoffParam.isSet, Opcode.isSet, nodeStep,
                bleMeshLightServerGenericOnOffModelCallback, receiveSet_eq, World.beginSet]
          | onoffSetUnack =>
              simp [run, pieceStep, OnoffParam.isSet, Opcode.isSet, nodeStep,
                bleMeshLightServerGenericOnOffModelCallback, receiveSet_eq, World.beginSet]

/-- Every run of events is a run of pieces. -/
theorem run_pieces_of_events (world : World) (events : List NodeEvent) :
    run pieceStep { world, unanswered := none } (events.flatMap NodeEvent.pieces) =
      (run nodeStep world events).map fun world => { world, unanswered := none } := by
  induction events generalizing world with
  | nil => rfl
  | cons event events induction =>
      rw [List.flatMap_cons, run_append, run_pieces, run]
      cases nodeStep world event with
      | none => rfl
      | some next => exact induction next

/-! ## What is written -/

/-- A running transition whose target has not been written yet owes one change. -/
def World.owed (world : World) : List LedLevels :=
  if world.transition.timerStart = true ∧ world.led ≠ written world.state.targetOnoff then
    [written world.state.targetOnoff]
  else []

def NodeEvent.asked (event : NodeEvent) : List LedLevels :=
  (event.requested.map written).toList

theorem owed_of_stopped {world : World} (stopped : world.transition.timerStart = false) :
    world.owed = [] := by
  simp [World.owed, stopped]

theorem owed_of_written {world : World} (reached : world.led = written world.state.targetOnoff) :
    world.owed = [] := by
  simp [World.owed, reached]

theorem owed_sublist (world : World) :
    world.owed.Sublist [written world.state.targetOnoff] := by
  rw [World.owed]
  split
  · exact List.Sublist.refl _
  · exact List.nil_sublist _

theorem change_sublist {world next : World} {levels : LedLevels} (led : next.led = levels) :
    (change World.led world next).Sublist [levels] := by
  rw [change, led]
  split
  · exact List.nil_sublist _
  · exact List.Sublist.refl _

theorem change_of_same {world next : World} (same : next.led = world.led) :
    change World.led world next = [] := if_pos same

/-- Without a change nothing is paid. -/
theorem pays_of_same {world next : World} {due : List LedLevels} (same : next.led = world.led)
    (owed : next.owed.Sublist due) :
    (change World.led world next ++ next.owed).Sublist due := by
  rw [change_of_same same, List.nil_append]
  exact owed

/-- An immediate Set is paid for at once, a delayed one is owed. -/
theorem receiveSet_pays (world : World) (ctx : MsgCtx) {set : OnoffSet}
    (valid : IsOnoff set.onoff) :
    (change World.led world (receiveSet world ctx set) ++
      (receiveSet world ctx set).owed).Sublist [written set.onoff] := by
  rw [receiveSet_eq]
  by_cases immediate : set.Immediate
  · rw [begin_of_immediate immediate valid]
    have nothing : (({ world.beforeSet ctx set with
        led := LedLevels.all set.onoff.toUInt32,
        state.onoff := set.onoff } : World).sendStatus ctx).owed = [] := owed_of_stopped rfl
    rw [nothing, List.append_nil]
    exact change_sublist rfl
  · rw [begin_of_delayed immediate]
    exact pays_of_same rfl (owed_sublist _)

/-- The worker pays what is owed or leaves it owed. -/
theorem worker_pays {world : World} (steady : Steady world) :
    (change World.led world (bleMeshOnOffOptionalWorker world) ++
      (bleMeshOnOffOptionalWorker world).owed).Sublist world.owed := by
  cases running : world.transition.timerStart with
  | false =>
      rw [worker_of_stopped running]
      refine pays_of_same rfl ?_
      rw [owed_of_stopped rfl]
      exact List.nil_sublist _
  | true =>
      have acted := World.acted_led steady.targetOnoff
      have after : (bleMeshOnOffOptionalWorker world).led = world.acted.led ∧
          (bleMeshOnOffOptionalWorker world).state.targetOnoff = world.state.targetOnoff := by
        rw [worker_of_running running]
        split <;> exact ⟨rfl, world.acted_targetOnoff⟩
      by_cases acts : world.Acts
      · rw [if_pos acts] at acted
        have reached : (bleMeshOnOffOptionalWorker world).led =
            written (bleMeshOnOffOptionalWorker world).state.targetOnoff := by
          rw [after.1, after.2]
          exact acted
        rw [owed_of_written reached, List.append_nil]
        by_cases same : (bleMeshOnOffOptionalWorker world).led = world.led
        · rw [change_of_same same]
          exact List.nil_sublist _
        · have owes : world.owed = [written world.state.targetOnoff] := by
            refine if_pos ⟨running, ?_⟩
            intro shows
            exact same (by rw [after.1, acted, shows]; rfl)
          rw [owes]
          exact change_sublist (by rw [after.1]; exact acted)
      · rw [if_neg acts] at acted
        have same : (bleMeshOnOffOptionalWorker world).led = world.led := after.1.trans acted
        refine pays_of_same same ?_
        simp only [World.owed, same, after.2, running, true_and]
        split
        next owes =>
          rw [if_pos owes.2]
        · exact List.nil_sublist _

theorem pays_of_nodeStep {world next : World} {event : NodeEvent} (steady : Steady world)
    (happens : nodeStep world event = some next) :
    (change World.led world next ++ next.owed).Sublist (world.owed ++ event.asked) := by
  cases nodeEffect_of_step happens with
  | set time ctx value valid requested =>
      rw [NodeEvent.asked, requested]
      exact (receiveSet_pays { world with now := time } ctx valid).trans
        (List.sublist_append_right _ _)
  | tell time statuses _ _ _ _ =>
      exact pays_of_same rfl (List.sublist_append_left _ _)
  | work time expiry rest _ _ _ =>
      have steadyNow : Steady { world with
          pending := rest, now := time, owner := expiry.owner } :=
        steady.congr rfl rfl rfl
      exact (worker_pays steadyNow).trans (List.sublist_append_left _ _)

/-- In every run the levels written change at most once for each Set, to those of its value,
and in the order of the Sets. -/
theorem led_changes_as_requested (publishAddr : UInt16) (events : List NodeEvent) :
    (changes nodeStep World.led (World.initial publishAddr) events).Sublist
      (events.flatMap NodeEvent.asked) := by
  have nothingOwed : (World.initial publishAddr).owed = [] := owed_of_stopped rfl
  have keeps : ∀ world event next, Steady world → nodeStep world event = some next →
      Steady next := fun _ _ _ => steady_of_nodeStep
  have pays : ∀ world event next, Steady world → nodeStep world event = some next →
      (change World.led world next ++ next.owed).Sublist (world.owed ++ event.asked) :=
    fun _ _ _ => pays_of_nodeStep
  have paid := changes_sublist_of_owed keeps pays events (steady_initial publishAddr)
  rwa [nothingOwed, List.nil_append] at paid

end BleMesh.OnOff
