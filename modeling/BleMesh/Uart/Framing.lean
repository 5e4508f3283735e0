import BleMesh.Foundation.Segments
import BleMesh.Uart.Commands

/-! # Frames and reads

The sender's stream is a sequence of frames, and the task cuts it into chunks by what
happens to be buffered. The handler takes each chunk for a packet of its own: it
executes at most one command for a chunk, from the first bytes of it.
-/

namespace BleMesh.Uart

open Foundation Foundation.Segments

/-- A well-formed frame: start byte, command byte, fields, and the XOR of all these. The
command byte is that of a handler, for with another one no fields are decoded, while the
operation is up to the handler and may be any byte. -/
structure Frame where
  command : Command
  fits : command.PayloadFits

def Frame.checksum (frame : Frame) : UInt8 := xorAll frame.command.body

def Frame.bytes (frame : Frame) : List UInt8 := frame.command.body ++ [frame.checksum]

theorem Frame.bytes_length (frame : Frame) :
    frame.bytes.length = frame.command.body.length + 1 := by
  simp [Frame.bytes]

/-- The bytes one read delivers. Their number is returned as an `int`.
`payloadAllocated` is the answer to the allocation of a payload in this pass. -/
structure Chunk where
  bytes : List UInt8
  nonempty : bytes ≠ []
  counted : bytes.length ≤ intMax
  payloadAllocated : Bool

/-- A pass that delivers a chunk: as many bytes as were asked for or fewer, and what
lies in memory behind the buffer. -/
structure Delivery where
  chunk : Chunk
  tempDataLen : Nat
  buffered : chunk.bytes.length ≤ tempDataLen
  heap : Nat → UInt8

/-- The buffer is set to zero before the read. -/
def Delivery.source (delivery : Delivery) : Source where
  byte := overlay delivery.chunk.bytes fun index =>
    if index < delivery.tempDataLen then 0 else delivery.heap index
  malloc number := number == 0 || delivery.chunk.payloadAllocated

/-- The command executed in a pass. After a restart the task is started again, so the
next chunk is delivered as after any other command. -/
def Delivery.executed (delivery : Delivery) : Option Command :=
  executedCommand (uartRxTask delivery.tempDataLen delivery.chunk.bytes.length)
    delivery.source Cursor.start

def Delivery.size (delivery : Delivery) : Nat := delivery.chunk.bytes.length

theorem Delivery.size_pos (delivery : Delivery) : 0 < delivery.size :=
  List.length_pos_iff.mpr delivery.chunk.nonempty

/-- The commands of some frames, each with the position of its frame in the stream. -/
def commands (position : Nat) (frames : List Frame) : List (Nat × Command) :=
  yields (fun frame => frame.bytes.length) (fun frame => some frame.command) position frames

/-- However the chunks are delivered, what is executed is what is listed. A command is
executed at the position of its chunk. -/
def ExecutesFrom (position : Nat) (expected : List (Nat × Command)) (chunks : List Chunk) :
    Prop :=
  ∀ deliveries : List Delivery, deliveries.map Delivery.chunk = chunks →
    yields Delivery.size Delivery.executed position deliveries = expected

/-- Each chunk is a frame, or a frame without its checksum and the next chunk is that
checksum alone, which is not taken for a start byte. -/
inductive Aligned : List Frame → List Chunk → Prop
  | nil : Aligned [] []
  | whole {frame : Frame} {frames : List Frame} {chunk : Chunk} {chunks : List Chunk}
      (bytes : chunk.bytes = frame.bytes)
      (executable : frame.command.Executable chunk.payloadAllocated)
      (rest : Aligned frames chunks) : Aligned (frame :: frames) (chunk :: chunks)
  | checksumApart {frame : Frame} {frames : List Frame} {chunk check : Chunk}
      {chunks : List Chunk}
      (bytes : chunk.bytes = frame.command.body)
      (executable : frame.command.Executable chunk.payloadAllocated)
      (apart : check.bytes = [frame.checksum])
      (ignored : frame.checksum ≠ uartCmdStartByte)
      (rest : Aligned frames chunks) : Aligned (frame :: frames) (chunk :: check :: chunks)

/-! ## One chunk -/

theorem executed_eq_some_iff (delivery : Delivery) (command : Command) :
    delivery.executed = some command ↔
      delivery.source.HoldsBytes 0 command.body ∧
        command.Executable delivery.chunk.payloadAllocated := by
  have received := List.length_pos_iff.mpr delivery.chunk.nonempty
  exact executedCommand_uartRxTask received delivery.buffered delivery.chunk.counted rfl

/-- A chunk delivered in full, with the given bytes behind it. -/
def Chunk.deliver (chunk : Chunk) (heap : Nat → UInt8) : Delivery where
  chunk
  tempDataLen := chunk.bytes.length
  buffered := Nat.le_refl _
  heap

theorem deliver_byte (chunk : Chunk) (heap : Nat → UInt8) :
    (chunk.deliver heap).source.byte = overlay chunk.bytes heap := by
  funext index
  by_cases within : index < chunk.bytes.length
  · simp [Delivery.source, Chunk.deliver, overlay, List.getElem?_eq_getElem within]
  · simp [Delivery.source, Chunk.deliver, overlay, within]

/-- A chunk is sure to be executed as a command exactly if it has all bytes but the
checksum. -/
theorem executed_always_iff (chunk : Chunk) (command : Command) :
    (∀ delivery : Delivery, delivery.chunk = chunk → delivery.executed = some command) ↔
      command.body <+: chunk.bytes ∧ command.Executable chunk.payloadAllocated := by
  constructor
  · intro executes
    refine ⟨?_, ?_⟩
    · apply Source.prefix_of_holdsBytes
      intro behind
      have executed := executes (chunk.deliver behind) rfl
      exact ⟨_, deliver_byte chunk behind, ((executed_eq_some_iff _ _).mp executed).1⟩
    · have executed := executes (chunk.deliver fun _ => 0) rfl
      exact ((executed_eq_some_iff _ _).mp executed).2
  · intro both delivery same
    cases same
    rw [executed_eq_some_iff]
    exact ⟨Source.holdsBytes_of_prefix rfl both.1, both.2⟩

/-- A single byte is sure to be ignored exactly if it is not the start byte. -/
theorem ignored_iff {chunk : Chunk} {byte : UInt8} (bytes : chunk.bytes = [byte]) :
    (∀ delivery : Delivery, delivery.chunk = chunk → delivery.executed = none) ↔
      byte ≠ uartCmdStartByte := by
  constructor
  · intro ignored start
    -- Behind the chunk lies the rest of a ping.
    let ping : Command :=
      { group := .system, requiredResponse := 0, operation := uartCmdSystemOperationPing,
        payload := [] }
    have executed : (chunk.deliver fun index => ping.body[index]?.getD 0).executed =
        some ping := by
      rw [executed_eq_some_iff]
      refine ⟨?_, by simp [Command.PayloadFits, ping], by simp [ping], ?_⟩
      · simp [Command.body, Command.fields, deliver_byte, overlay, bytes, start, ping]
      · intro provisioner
        cases provisioner
    rw [ignored _ rfl] at executed
    cases executed
  · intro notStart delivery same
    cases executed : delivery.executed with
    | none => rfl
    | some command =>
        have holds := ((executed_eq_some_iff _ _).mp executed).1
        rw [Command.body, Source.holdsBytes_cons] at holds
        have first : delivery.source.byte 0 = byte := by
          simp [Delivery.source, overlay, same, bytes]
        exact absurd (first.symm.trans holds.1) notStart

/-! ## Runs -/

theorem exists_deliveries (chunks : List Chunk) :
    ∃ deliveries : List Delivery, deliveries.map Delivery.chunk = chunks := by
  refine ⟨chunks.map fun chunk => chunk.deliver fun _ => 0, ?_⟩
  simp [Chunk.deliver, Function.comp_def]

@[simp] theorem commands_cons (position : Nat) (frame : Frame) (frames : List Frame) :
    commands position (frame :: frames) =
      (position, frame.command) :: commands (position + frame.bytes.length) frames := rfl

theorem executesFrom_nil (position : Nat) : ExecutesFrom position [] [] := by
  intro deliveries same
  rw [List.map_eq_nil_iff.mp same]
  rfl

/-- What holds of the first delivery and the others, whatever is delivered, holds of the
first chunk and the others. -/
theorem executesFrom_cons {position : Nat} {expected later : List (Nat × Command)}
    {outcome : Option Command} {chunk : Chunk} {chunks : List Chunk}
    (splits : ∀ (delivery : Delivery) (deliveries : List Delivery),
      yields Delivery.size Delivery.executed position (delivery :: deliveries) = expected ↔
        delivery.executed = outcome ∧
          yields Delivery.size Delivery.executed (position + delivery.size) deliveries = later) :
    ExecutesFrom position expected (chunk :: chunks) ↔
      (∀ delivery : Delivery, delivery.chunk = chunk → delivery.executed = outcome) ∧
        ExecutesFrom (position + chunk.bytes.length) later chunks := by
  constructor
  · intro executes
    refine ⟨?_, ?_⟩
    · intro delivery same
      rcases exists_deliveries chunks with ⟨deliveries, rest⟩
      exact ((splits delivery deliveries).mp (executes _ (by simp [same, rest]))).1
    · intro deliveries rest
      let delivery := chunk.deliver fun _ => 0
      have same : delivery.chunk = chunk := rfl
      exact ((splits delivery deliveries).mp (executes _ (by simp [same, rest]))).2
  · intro both deliveries same
    rcases List.map_eq_cons_iff.mp same with ⟨delivery, rest, rfl, rfl, restSame⟩
    exact (splits delivery rest).mpr ⟨both.1 delivery rfl, both.2 rest restSame⟩

theorem executesFrom_cons_iff {position : Nat} {command : Command}
    {expected : List (Nat × Command)} {chunk : Chunk} {chunks : List Chunk} :
    ExecutesFrom position ((position, command) :: expected) (chunk :: chunks) ↔
      (∀ delivery : Delivery, delivery.chunk = chunk → delivery.executed = some command) ∧
        ExecutesFrom (position + chunk.bytes.length) expected chunks := by
  apply executesFrom_cons
  intro delivery deliveries
  exact yields_cons_eq_cons_iff delivery.size_pos

theorem executesFrom_cons_of_later {position : Nat} {expected : List (Nat × Command)}
    {chunk : Chunk} {chunks : List Chunk} (later : ∀ entry ∈ expected, position < entry.1) :
    ExecutesFrom position expected (chunk :: chunks) ↔
      (∀ delivery : Delivery, delivery.chunk = chunk → delivery.executed = none) ∧
        ExecutesFrom (position + chunk.bytes.length) expected chunks := by
  apply executesFrom_cons
  intro delivery deliveries
  exact yields_cons_eq_of_later later

/-- The command of a frame that starts inside a chunk is never executed. -/
theorem no_overlap {position : Nat} {frames : List Frame} {chunks : List Chunk}
    {extra : List UInt8} (executes : ExecutesFrom (position + extra.length)
      (commands position frames) chunks)
    (cut : extra ++ chunks.flatMap Chunk.bytes = frames.flatMap Frame.bytes) : extra = [] := by
  cases frames with
  | nil => exact (List.append_eq_nil_iff.mp cut).1
  | cons frame frames =>
      by_contra overlaps
      have inside := List.length_pos_iff.mpr overlaps
      rcases exists_deliveries chunks with ⟨deliveries, same⟩
      have equal := executes deliveries same
      rw [commands_cons] at equal
      exact yields_ne_cons_of_lt (by omega) equal

theorem commands_later {position start : Nat} {frames : List Frame} (before : position < start) :
    ∀ entry ∈ commands start frames, position < entry.1 := by
  intro entry member
  exact Nat.lt_of_lt_of_le before (le_of_mem_yields member)

/-- A checksum that is not in its frame's chunk is a chunk of its own. -/
theorem apart_of_executesFrom {position : Nat} {checksum : UInt8} {frames : List Frame}
    {chunks : List Chunk}
    (cut : chunks.flatMap Chunk.bytes = checksum :: frames.flatMap Frame.bytes)
    (executes : ExecutesFrom position (commands (position + 1) frames) chunks) :
    ∃ check rest, chunks = check :: rest ∧ check.bytes = [checksum] ∧
      checksum ≠ uartCmdStartByte ∧
      rest.flatMap Chunk.bytes = frames.flatMap Frame.bytes ∧
      ExecutesFrom (position + 1) (commands (position + 1) frames) rest := by
  cases chunks with
  | nil => cases cut
  | cons check rest =>
      rw [executesFrom_cons_of_later (commands_later (Nat.lt_succ_self position))] at executes
      rcases executes with ⟨ignored, later⟩
      cases received : check.bytes with
      | nil => exact absurd received check.nonempty
      | cons first extra =>
          rw [List.flatMap_cons, received, List.cons_append, List.cons.injEq] at cut
          rcases cut with ⟨rfl, cut⟩
          have length : position + check.bytes.length = position + 1 + extra.length := by
            rw [received, List.length_cons]
            omega
          rw [length] at later
          cases no_overlap later cut
          exact ⟨check, rest, rfl, received, (ignored_iff received).mp ignored, cut, later⟩

theorem aligned_of_executesFrom {position : Nat} {frames : List Frame} {chunks : List Chunk}
    (cut : chunks.flatMap Chunk.bytes = frames.flatMap Frame.bytes)
    (executes : ExecutesFrom position (commands position frames) chunks) :
    Aligned frames chunks := by
  induction frames generalizing position chunks with
  | nil =>
      cases chunks with
      | nil => exact Aligned.nil
      | cons chunk chunks =>
          have empty := (List.append_eq_nil_iff.mp cut).1
          exact absurd empty chunk.nonempty
  | cons frame frames induction =>
      cases chunks with
      | nil => simp [Frame.bytes] at cut
      | cons chunk chunks =>
          rw [commands_cons, executesFrom_cons_iff, executed_always_iff,
            frame.bytes_length] at executes
          rcases executes with ⟨⟨⟨rest, bytes⟩, executable⟩, later⟩
          rw [List.flatMap_cons, List.flatMap_cons, ← bytes, Frame.bytes, List.append_assoc,
            List.append_assoc, List.append_cancel_left_eq, List.singleton_append] at cut
          rw [← bytes, List.length_append, ← Nat.add_assoc, ← Nat.add_assoc] at later
          -- What the chunk holds behind the body: nothing, or the checksum and more.
          cases rest with
          | nil =>
              rcases apart_of_executesFrom cut later with
                ⟨check, others, rfl, apart, ignored, cutLater, executesLater⟩
              rw [List.append_nil] at bytes
              exact Aligned.checksumApart bytes.symm executable apart ignored
                (induction cutLater executesLater)
          | cons first extra =>
              rw [List.cons_append, List.cons.injEq] at cut
              rcases cut with ⟨rfl, cut⟩
              rw [List.length_cons, ← Nat.add_assoc, Nat.add_right_comm] at later
              cases no_overlap later cut
              exact Aligned.whole bytes.symm executable (induction cut later)

theorem executesFrom_of_aligned {frames : List Frame} {chunks : List Chunk}
    (aligned : Aligned frames chunks) (position : Nat) :
    ExecutesFrom position (commands position frames) chunks := by
  induction aligned generalizing position with
  | nil => exact executesFrom_nil position
  | whole bytes executable _ induction =>
      rw [commands_cons, executesFrom_cons_iff, executed_always_iff, bytes]
      exact ⟨⟨List.prefix_append _ _, executable⟩, induction _⟩
  | @checksumApart frame frames chunk check chunks bytes executable apart ignored _ induction =>
      have length : position + chunk.bytes.length + 1 = position + frame.bytes.length := by
        rw [bytes, frame.bytes_length, Nat.add_assoc]
      rw [commands_cons, executesFrom_cons_iff, executed_always_iff,
        executesFrom_cons_of_later (commands_later (by omega)), ignored_iff apart]
      refine ⟨⟨⟨[], by simp [bytes]⟩, executable⟩, ignored, ?_⟩
      rw [apart, List.length_singleton, length]
      exact induction _

/-- A stream of frames is executed as it was sent exactly if its chunks are aligned with
the frames. -/
theorem executes_stream_iff (frames : List Frame) (chunks : List Chunk)
    (cut : chunks.flatMap Chunk.bytes = frames.flatMap Frame.bytes) :
    ExecutesFrom 0 (commands 0 frames) chunks ↔ Aligned frames chunks := by
  constructor
  · exact aligned_of_executesFrom cut
  · intro aligned
    exact executesFrom_of_aligned aligned 0

/-- A frame without payload. -/
def shortFrame (group : Group) (operation : UInt8) : Frame where
  command := { group, requiredResponse := 0, operation, payload := [] }
  fits := Nat.zero_lt_succ 255

/-- Two commands sent within one polling interval. -/
def sentAtOnce : List Frame :=
  [shortFrame .bluetooth uartCmdBluetoothOperationStartBle,
    shortFrame .provisioner uartCmdProvisionerOperationBeginProv]

def readAtOnce : Chunk where
  bytes := sentAtOnce.flatMap Frame.bytes
  nonempty := by decide
  counted := by decide
  payloadAllocated := true

theorem executes_stream_iff_at_once :
    ExecutesFrom 0 (commands 0 sentAtOnce) [readAtOnce] ↔ Aligned sentAtOnce [readAtOnce] :=
  executes_stream_iff sentAtOnce [readAtOnce] rfl

/-- The second of the two commands is lost. -/
theorem stream_loses_second_frame :
    ¬ ∀ (frames : List Frame) (chunks : List Chunk),
      chunks.flatMap Chunk.bytes = frames.flatMap Frame.bytes →
      ExecutesFrom 0 (commands 0 frames) chunks := by
  intro always
  have executes := always sentAtOnce [readAtOnce] rfl
  exact absurd (executes [readAtOnce.deliver fun _ => 0] rfl) (by decide)

end BleMesh.Uart
