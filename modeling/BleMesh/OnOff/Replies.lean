import BleMesh.Foundation.Execution
import BleMesh.OnOff.Server

/-! # The replies of the server

A Get is answered with the state. Set and Set Unacknowledged share a branch of the
callback, which begins the work and then answers, so that every Set Unacknowledged is
answered as well.
-/

namespace BleMesh.OnOff

open Foundation.Execution

inductive MessageKind
  | get
  | set
  | setUnack
  deriving DecidableEq

/-- A Generic OnOff message. `value` is the union of the parameters, which a Get leaves
alone. -/
structure Message where
  kind : MessageKind
  src : UInt16
  dst : UInt16
  value : OnoffSet

def Message.ctx (message : Message) : MsgCtx where
  addr := message.src
  recvDst := message.dst
  recvOp :=
    match message.kind with
    | .get => .onoffGet
    | .set => .onoffSet
    | .setUnack => .onoffSetUnack

/-- The event with which the stack hands the message over. -/
def Message.serverEvent (message : Message) : ServerEvent :=
  match message.kind with
  | .get => .recvGetMsg
  | .set => .recvSetMsg
  | .setUnack => .recvSetMsg

inductive MessageEvent
  | deliver (time : Nat) (message : Message)
  | expire (time : Nat)

/-- The callback for a message that arrives at a time. -/
def World.handle (world : World) (time : Nat) (message : Message) : World :=
  bleMeshLightServerGenericOnOffModelCallback { world with now := time } message.serverEvent
    message.ctx message.value

def messageStep (world : World) : MessageEvent → Option World
  | .deliver time message => some (world.handle time message)
  | .expire time => serverStep world (.expire time)

def SentStatus.isReply : SentStatus → Bool
  | .reply _ _ => true
  | .publication _ => false

/-- The Status messages sent in answer to a message, in order. -/
def World.replies (world : World) : List SentStatus := world.sent.filter SentStatus.isReply

/-- The replies that an event asks for: a Get and an acknowledged Set for one, with the
state they leave behind. -/
def MessageEvent.asksFor (after : World) : MessageEvent → List SentStatus
  | .deliver _ message =>
      if message.kind = .setUnack then [] else [.reply message.ctx after.state.onoff]
  | .expire _ => []

/-- The replies asked for by a step. -/
def repliesDue (performed : World × MessageEvent) : List SentStatus :=
  (messageStep performed.1 performed.2).elim [] fun after => performed.2.asksFor after

def MessageEvent.IsSetUnack : MessageEvent → Prop
  | .deliver _ message => message.kind = .setUnack
  | .expire _ => False

/-! ## One step -/

/-- The replies that an event gets. -/
def MessageEvent.gets (after : World) : MessageEvent → List SentStatus
  | .deliver _ message => [.reply message.ctx after.state.onoff]
  | .expire _ => []

def repliesGiven (performed : World × MessageEvent) : List SentStatus :=
  (messageStep performed.1 performed.2).elim [] fun after => performed.2.gets after

theorem replies_sendStatus (world : World) (ctx : MsgCtx) :
    (world.sendStatus ctx).replies =
      world.replies ++ [.reply ctx (world.sendStatus ctx).state.onoff] := by
  rw [World.replies, World.sendStatus, List.filter_append]
  rfl

/-- Beginning the work of a Set sends nothing. -/
theorem begin_sent (world : World) (set : OnoffSet) :
    (bleMeshBeginOnoffWork world set).sent = world.sent := by
  by_cases immediate : set.Immediate
  · have branch : set.delay = 0 ∧ set.opEn = false := immediate
    rw [bleMeshBeginOnoffWork, if_pos branch]
    simp only [bleMeshDeviceControlletChangeOnoffState]
    split <;> rfl
  · rw [begin_of_delayed immediate]
    rfl

theorem replies_receiveSet (world : World) (ctx : MsgCtx) (set : OnoffSet) :
    (receiveSet world ctx set).replies =
      world.replies ++ [.reply ctx (receiveSet world ctx set).state.onoff] := by
  rw [receiveSet_eq, replies_sendStatus]
  congr 1
  rw [World.replies, begin_sent]
  rfl

/-- Every message is answered, once it has been applied. -/
theorem replies_handle (world : World) (time : Nat) (message : Message) :
    (world.handle time message).replies =
      world.replies ++ [.reply message.ctx (world.handle time message).state.onoff] := by
  rcases message with ⟨kind, src, dst, value⟩
  cases kind with
  | get => exact replies_sendStatus { world with now := time } _
  | set => exact replies_receiveSet { world with now := time } _ value
  | setUnack => exact replies_receiveSet { world with now := time } _ value

theorem replies_update (world : World) :
    (bleMeshOnOffStateChangeAndUpdate world).replies = world.replies := by
  simp only [bleMeshOnOffStateChangeAndUpdate, bleMeshDeviceControlletChangeOnoffState]
  split <;> split <;> simp [World.replies, SentStatus.isReply]

theorem replies_acted (world : World) : world.acted.replies = world.replies := by
  rw [World.acted]
  split
  · exact replies_update world.clearJustStarted
  · rfl

/-- The worker publishes and does not reply. -/
theorem replies_worker (world : World) :
    (bleMeshOnOffOptionalWorker world).replies = world.replies := by
  cases running : world.transition.timerStart with
  | false =>
      rw [worker_of_stopped running]
      rfl
  | true =>
      rw [worker_of_running running]
      split
      · exact replies_acted world
      · exact replies_acted world

/-- What a step adds to the replies. -/
theorem replies_of_step {world next : World} {event : MessageEvent}
    (happens : messageStep world event = some next) :
    next.replies = world.replies ++ repliesGiven (world, event) := by
  rw [repliesGiven, happens, Option.elim_some]
  cases event with
  | deliver time message =>
      cases happens
      exact replies_handle world time message
  | expire time =>
      rcases expire_of_step happens with ⟨expiry, rest, -, nextEq⟩
      rw [nextEq, replies_worker, MessageEvent.gets, List.append_nil]
      rfl

theorem repliesDue_eq_given_iff (performed : World × MessageEvent) :
    repliesDue performed = repliesGiven performed ↔ ¬ performed.2.IsSetUnack := by
  rcases performed with ⟨world, event⟩
  cases event with
  | deliver time message =>
      simp only [repliesDue, repliesGiven, messageStep, Option.elim_some, MessageEvent.asksFor,
        MessageEvent.gets, MessageEvent.IsSetUnack]
      by_cases unack : message.kind = .setUnack <;> simp [unack]
  | expire time => exact iff_of_true rfl id

/-- Nothing is asked for that is not given. -/
theorem repliesDue_eq_or_nil (performed : World × MessageEvent) :
    repliesDue performed = repliesGiven performed ∨ repliesDue performed = [] := by
  by_cases unack : performed.2.IsSetUnack
  · rcases performed with ⟨world, event⟩
    cases event with
    | deliver time message => exact Or.inr (if_pos unack)
    | expire time => cases unack
  · exact Or.inl ((repliesDue_eq_given_iff performed).mpr unack)

/-! ## Runs -/

/-- The replies of a run: one for each message of any kind. -/
theorem replies_of_run {publishAddr : UInt16} {events : List MessageEvent} {final : World}
    (runs : run messageStep (World.initial publishAddr) events = some final) :
    final.replies =
      (taken messageStep (World.initial publishAddr) events).flatMap repliesGiven := by
  have noneBefore : (World.initial publishAddr).replies = [] := rfl
  have log := log_of_run World.replies repliesGiven (fun _ _ _ => replies_of_step) runs
  rwa [noneBefore, List.nil_append] at log

/-- The replies of a run are the ones asked for exactly if no message of the run is a
Set Unacknowledged. -/
theorem replies_eq_due_iff (publishAddr : UInt16) (events : List MessageEvent) (final : World)
    (runs : run messageStep (World.initial publishAddr) events = some final) :
    final.replies =
        (taken messageStep (World.initial publishAddr) events).flatMap repliesDue ↔
      ∀ event ∈ events, ¬ event.IsSetUnack := by
  have happened := taken_events_of_run runs
  rw [replies_of_run runs, flatMap_eq_iff_of_lacks repliesDue_eq_or_nil]
  calc (∀ performed ∈ taken messageStep (World.initial publishAddr) events,
        repliesDue performed = repliesGiven performed)
      ↔ ∀ performed ∈ taken messageStep (World.initial publishAddr) events,
          ¬ performed.2.IsSetUnack := by simp only [repliesDue_eq_given_iff]
    _ ↔ ∀ event ∈ (taken messageStep (World.initial publishAddr) events).map Prod.snd,
          ¬ event.IsSetUnack := by rw [List.forall_mem_map]
    _ ↔ ∀ event ∈ events, ¬ event.IsSetUnack := by rw [happened]

/-- A message that switches off at once, sent to a group. -/
def groupMessage (kind : MessageKind) : Message where
  kind := kind
  src := 0x0002
  dst := 0xC000
  value := { opEn := false, onoff := 0, tid := 1, transTime := 0, delay := 0 }

/-- A Set between two Gets. -/
def acknowledgedEvents : List MessageEvent :=
  [.deliver 0 (groupMessage .get), .deliver 1 (groupMessage .set),
    .deliver 2 (groupMessage .get)]

theorem replies_eq_due_iff_acknowledged :
    ∃ final, run messageStep (World.initial 0) acknowledgedEvents = some final ∧
      (final.replies =
          (taken messageStep (World.initial 0) acknowledgedEvents).flatMap repliesDue ↔
        ∀ event ∈ acknowledgedEvents, ¬ event.IsSetUnack) :=
  ⟨_, rfl, replies_eq_due_iff 0 acknowledgedEvents _ rfl⟩

/-- The server answers a Set Unacknowledged that was sent to a group. -/
theorem set_unack_is_answered :
    ¬ ∀ (publishAddr : UInt16) (events : List MessageEvent) (final : World),
      run messageStep (World.initial publishAddr) events = some final →
      final.replies =
        (taken messageStep (World.initial publishAddr) events).flatMap repliesDue := by
  intro always
  have replies := always 0 [.deliver 0 (groupMessage .setUnack)] _ rfl
  exact absurd replies (by decide)

end BleMesh.OnOff
