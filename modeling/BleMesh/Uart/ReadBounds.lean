import BleMesh.Uart.Commands

/-! # What is read of the receive buffer

The handlers share an offset into the buffer and are not told where the buffer ends. Each
byte they read is compared here with the number of bytes that were received.
-/

namespace BleMesh.Uart

open Foundation

/-- The reader reads below the limit and not through a NULL pointer. -/
def ReadsWithin {α : Type} (reader : Reader α) (source : Source) (cursor : Cursor)
    (limit : Nat) : Prop :=
  (reader.run source cursor).2.Within limit ∧ (reader.run source cursor).1 ≠ none

/-- What a reader does first does not matter, only where it leaves the cursor. -/
theorem readsWithin_bind {α β : Type} {first : Reader α} {next : α → Reader β} {value : α}
    {source : Source} {cursor : Cursor} {limit : Nat} (after : Cursor)
    (returns : first.run source cursor = (some value, after)) :
    ReadsWithin (first >>= next) source cursor limit ↔
      ReadsWithin (next value) source after limit := by
  rw [ReadsWithin, ReadsWithin, Reader.run_bind_some returns]

theorem readsWithin_pure {α : Type} (value : α) (source : Source) (cursor : Cursor)
    (limit : Nat) :
    ReadsWithin (pure value) source cursor limit ↔ cursor.Within limit := by
  simp [ReadsWithin]

/-- The fields of a command from an offset on, with the payload if it is copied, lie below
the limit, and the payload is there if it is used. -/
structure FieldsWithin (group : Group) (source : Source) (offset mallocs limit : Nat) :
    Prop where
  fixed : offset + 3 ≤ limit
  payload : source.malloc mallocs = true →
    offset + 3 + (source.byte (offset + 2)).toNat ≤ limit
  operand : group = .provisioner →
    source.byte (offset + 1) = uartCmdProvisionerOperationAddNodeIdx →
    0 < source.byte (offset + 2)

/-! ## The handlers -/

/-- How many payload bytes a handler copies. -/
def copiedPayload (source : Source) (offset mallocs : Nat) : Nat :=
  if source.malloc mallocs then (source.byte (offset + 2)).toNat else 0

theorem readCommand_reads (group : Group) (source : Source) (cursor : Cursor) :
    ((readCommand group).run source cursor).2.reads =
      cursor.reads ++
        List.range' cursor.offset (3 + copiedPayload source cursor.offset cursor.mallocs) := by
  by_cases payload : 0 < source.byte (cursor.offset + 2)
  · cases allocated : source.malloc cursor.mallocs with
    | false => simp [readCommand, Reader.run_bind, copiedPayload, payload, allocated]
    | true => simp [readCommand, Reader.run_bind, copiedPayload, payload, allocated]
  · have empty : (source.byte (cursor.offset + 2)).toNat = 0 := Nat.eq_zero_of_not_pos payload
    simp [readCommand, Reader.run_bind, copiedPayload, payload, empty]

theorem handler_reads (group : Group) (source : Source) (cursor : Cursor) :
    (group.handler.run source cursor).2.reads =
      cursor.reads ++
        List.range' cursor.offset (3 + copiedPayload source cursor.offset cursor.mallocs) := by
  rcases handler_carriesOut group with ⟨perform, handlerEq, carriesOut⟩
  rcases readCommand_returns group source cursor with ⟨after, returns⟩
  have reads := readCommand_reads group source cursor
  rw [returns] at reads
  rw [handlerEq, handleControl, Reader.run_bind_some returns, ← reads]
  cases decoded : commandAt source group cursor.offset cursor.mallocs with
  | none => rfl
  | some command =>
      have same := carriesOut.cursor_same command source after
      rw [Reader.run_bind]
      rcases performed : (perform command).run source after with ⟨result, final⟩
      rw [performed] at same
      cases result <;> simp [← same]

/-- A handler fails exactly if it uses the payload of a command that has none. -/
theorem handler_fails_iff (group : Group) (source : Source) (cursor : Cursor) :
    (group.handler.run source cursor).1 = none ↔
      ∃ command, commandAt source group cursor.offset cursor.mallocs = some command ∧
        ¬ command.HasOperand := by
  rcases handler_carriesOut group with ⟨perform, handlerEq, carriesOut⟩
  rcases readCommand_returns group source cursor with ⟨after, returns⟩
  rw [handlerEq, handleControl, Reader.run_bind_some returns]
  cases decoded : commandAt source group cursor.offset cursor.mallocs with
  | none => simp
  | some command =>
      have same := (commandAt_eq_some_iff.mp decoded).1.symm
      have returnsIff := carriesOut.returns_iff command source after same
      simp only [Option.some.injEq, exists_eq_left', Reader.run_bind, ← returnsIff]
      rcases performed : (perform command).run source after with ⟨result, final⟩
      cases result <;> simp

/-- The operand is missing exactly if the bytes announce an addition without payload. -/
theorem operand_missing_iff (group : Group) (source : Source) (offset mallocs : Nat) :
    (∃ command, commandAt source group offset mallocs = some command ∧
      ¬ command.HasOperand) ↔
      group = .provisioner ∧
        source.byte (offset + 1) = uartCmdProvisionerOperationAddNodeIdx ∧
        ¬ 0 < source.byte (offset + 2) := by
  by_cases payload : 0 < source.byte (offset + 2)
  · have nonempty : (source.byte (offset + 2)).toNat ≠ 0 := Nat.ne_of_gt payload
    simp [commandAt, Command.HasOperand, payload, nonempty]
  · have empty : (source.byte (offset + 2)).toNat = 0 := Nat.eq_zero_of_not_pos payload
    simp [commandAt, Command.HasOperand, payload, empty]

theorem handler_readsWithin_iff (group : Group) (source : Source) (cursor : Cursor)
    (limit : Nat) :
    ReadsWithin group.handler source cursor limit ↔
      cursor.Within limit ∧ FieldsWithin group source cursor.offset cursor.mallocs limit := by
  rw [ReadsWithin, Cursor.within_append_range' (handler_reads group source cursor), ne_eq,
    handler_fails_iff, operand_missing_iff, and_assoc]
  apply and_congr_right'
  constructor
  · intro both
    rcases both with ⟨bound, operand⟩
    have below := bound (by omega)
    refine ⟨by omega, ?_, ?_⟩
    · intro allocated
      rw [copiedPayload, if_pos allocated] at below
      omega
    · intro provisioner adds
      by_contra missing
      exact operand ⟨provisioner, adds, missing⟩
  · intro fields
    refine ⟨?_, ?_⟩
    · intro _
      cases allocated : source.malloc cursor.mallocs with
      | false => simpa [copiedPayload, allocated] using fields.fixed
      | true =>
          have below := fields.payload allocated
          simp only [copiedPayload, allocated, if_true]
          omega
    · intro missing
      exact missing.2.2 (fields.operand missing.1 missing.2.1)

/-! ## The dispatch and the task -/

theorem dispatch_readsWithin_iff (code : UInt8) (source : Source) (cursor : Cursor)
    (limit : Nat) :
    ReadsWithin
        (if code = Group.system.code then handleSystemControl
        else if code = Group.bluetooth.code then handleBluetoothControl
        else if code = Group.provisioner.code then handleProvisionerControl
        else return none) source cursor limit ↔
      cursor.Within limit ∧
        ∀ group : Group, code = group.code →
          FieldsWithin group source cursor.offset cursor.mallocs limit := by
  rcases dispatch_cases code with ⟨group, codeEq, selected⟩ | ⟨noGroup, selected⟩
  · rw [selected, handler_readsWithin_iff]
    apply and_congr_right'
    constructor
    · intro fields other otherEq
      rw [← Group.code_injective (codeEq.symm.trans otherEq)]
      exact fields
    · intro fields
      exact fields group codeEq
  · rw [selected, readsWithin_pure]
    simp [noGroup]

/-- The bytes of a packet that are read lie below the limit. -/
structure PacketWithin (source : Source) (mallocs limit : Nat) : Prop where
  command : source.byte 0 = uartCmdStartByte → 2 ≤ limit
  fields : source.byte 0 = uartCmdStartByte → ∀ group : Group, source.byte 1 = group.code →
    FieldsWithin group source 2 mallocs limit

theorem process_readsWithin_iff {len : Nat} (received : 0 < len) {source : Source}
    {cursor : Cursor} (atStart : cursor.offset = 0) (limit : Nat) :
    ReadsWithin (uartCmdHandlerProcessUartData len) source cursor limit ↔
      cursor.Within limit ∧ len ≤ limit ∧ PacketWithin source cursor.mallocs limit := by
  have notEmpty : len ≠ 0 := Nat.ne_of_gt received
  let logged : Cursor := { cursor with reads := cursor.reads ++ List.range' 0 len }
  let opened : Cursor := logged.advance 1
  let checked : Cursor := { opened with reads := opened.reads ++ List.range' (len - 1) 1 }
  let summed : Cursor := { checked with reads := checked.reads ++ List.range' 0 (len - 1) }
  have summedOffset : summed.offset = 1 := by simp [summed, checked, opened, logged, atStart]
  have checkedWithin : checked.Within limit ↔ cursor.Within limit ∧ len ≤ limit := by
    rw [Cursor.within_append_range' rfl, Cursor.within_append_range' rfl,
      Cursor.within_append_range' rfl, and_assoc, and_assoc]
    apply and_congr_right'
    simp only [logged, atStart]
    omega
  have summedReads : summed.reads = checked.reads ++ List.range' 0 (len - 1) := rfl
  have commandWithin : (summed.advance 1).Within limit ↔
      (cursor.Within limit ∧ len ≤ limit) ∧ 2 ≤ limit := by
    rw [Cursor.within_append_range' (summed.advance_reads 1),
      Cursor.within_append_range' summedReads, checkedWithin, summedOffset, and_assoc]
    apply and_congr_right
    intro checkedAlready
    omega
  rw [uartCmdHandlerProcessUartData, if_neg notEmpty,
    readsWithin_bind logged (Reader.run_readRange 0 len source cursor),
    readsWithin_bind opened (Reader.run_readNext source logged),
    readsWithin_bind checked (Reader.run_readAt (len - 1) source opened)]
  simp only [logged, atStart]
  by_cases started : source.byte 0 = uartCmdStartByte
  · rw [if_neg (not_not.mpr started),
      readsWithin_bind summed (Reader.run_readRange 0 (len - 1) source checked),
      readsWithin_bind (summed.advance 1) (Reader.run_readNext source summed),
      dispatch_readsWithin_iff, commandWithin]
    change _ ∧ (∀ group : Group, source.byte summed.offset = group.code →
      FieldsWithin group source (summed.offset + 1) cursor.mallocs limit) ↔ _
    rw [summedOffset, and_assoc, and_assoc]
    apply and_congr_right'
    apply and_congr_right'
    constructor
    · intro both
      exact ⟨fun _ => both.1, fun _ => both.2⟩
    · intro packet
      exact ⟨packet.command started, packet.fields started⟩
  · rw [if_pos started, readsWithin_pure, checkedWithin]
    apply and_congr_right'
    refine (and_iff_left ⟨?_, ?_⟩).symm
    · intro starts
      exact absurd starts started
    · intro starts
      exact absurd starts started

/-! ## A pass of the task -/

/-- What one pass of the task receives: `-1` for an error, or the number of bytes that
were stored in the buffer. The bytes are the first of the buffer, which is zero behind
them. -/
structure Reception where
  tempDataLen : Nat
  bytes : List UInt8
  buffered : bytes.length ≤ tempDataLen
  actualBytesRead : Int
  returned : actualBytesRead = -1 ∨ actualBytesRead = bytes.length
  counted : bytes.length ≤ intMax
  heap : Nat → UInt8
  malloc : Nat → Bool

def Reception.source (reception : Reception) : Source where
  byte := overlay reception.bytes fun index =>
    if index < reception.tempDataLen then 0 else reception.heap index
  malloc := reception.malloc

def Reception.process (reception : Reception) : Option (Option Execution) × Cursor :=
  (uartRxTask reception.tempDataLen reception.actualBytesRead).run reception.source
    Cursor.start

/-- Only received bytes are read, and `payload[0]` only of a payload. -/
def Reception.InBounds (reception : Reception) : Prop :=
  (∀ index ∈ reception.process.2.reads, (index : Int) < reception.actualBytesRead) ∧
    reception.process.1 ≠ none

theorem Reception.inBounds_iff_readsWithin (reception : Reception) :
    reception.InBounds ↔
      ReadsWithin (uartRxTask reception.tempDataLen reception.actualBytesRead)
        reception.source Cursor.start reception.actualBytesRead.toNat := by
  simp only [Reception.InBounds, ReadsWithin, Cursor.Within, Int.lt_toNat]
  rfl

/-- The length the handler is given is at most the number of bytes that were received
exactly if there was no error. -/
theorem Reception.size_bounds (reception : Reception) (received : reception.actualBytesRead ≠ 0) :
    0 < (reception.actualBytesRead % UInt32.size).toNat ∧
      ((reception.actualBytesRead % UInt32.size).toNat ≤ reception.actualBytesRead.toNat ↔
        0 < reception.actualBytesRead) := by
  have counted := reception.counted
  simp only [intMax, UInt32.size] at counted ⊢
  rcases reception.returned with failed | stored <;> omega

/-- A pass stays in bounds exactly if it stops before it looks at the buffer, or if there
was no error and the fields of the packet, as far as they are read, were received. The
first allocation is that of the buffer, the second that of the payload. -/
theorem inBounds_iff (reception : Reception) :
    reception.InBounds ↔
      reception.tempDataLen = 0 ∨ reception.malloc 0 = false ∨
        reception.actualBytesRead = 0 ∨
        0 < reception.actualBytesRead ∧
          PacketWithin reception.source 1 reception.actualBytesRead.toNat := by
  rw [reception.inBounds_iff_readsWithin, uartRxTask]
  by_cases nothing : reception.tempDataLen = 0
  · rw [if_pos nothing, readsWithin_pure]
    exact iff_of_true (Cursor.within_start _) (Or.inl nothing)
  rw [if_neg nothing, readsWithin_bind Cursor.start.countMalloc (Reader.run_allocate _ _)]
  simp only [nothing, false_or]
  cases allocated : reception.malloc 0 with
  | false =>
      rw [if_neg (by simp [Reception.source, Cursor.start, allocated]), readsWithin_pure]
      exact iff_of_true (Cursor.within_start _) (Or.inl rfl)
  | true =>
      rw [if_pos (by simp [Reception.source, Cursor.start, allocated])]
      by_cases none : reception.actualBytesRead = 0
      · rw [if_pos none, readsWithin_pure]
        exact iff_of_true (Cursor.within_start _) (Or.inr (Or.inl none))
      rcases reception.size_bounds none with ⟨positive, sizeIff⟩
      let logged : Cursor :=
        { Cursor.start.countMalloc with
          reads := Cursor.start.countMalloc.reads ++
            List.range' 0 (reception.actualBytesRead % UInt16.size).toNat }
      have loggedReads : logged.reads = Cursor.start.reads ++
          List.range' 0 (reception.actualBytesRead % UInt16.size).toNat := rfl
      have loggedWithin : 0 < reception.actualBytesRead →
          logged.Within reception.actualBytesRead.toNat := by
        intro received
        rw [Cursor.within_append_range' loggedReads]
        refine ⟨Cursor.within_start _, ?_⟩
        simp only [UInt16.size]
        omega
      rw [if_neg none, readsWithin_bind logged (Reader.run_readRange _ _ _ _),
        process_readsWithin_iff positive rfl, sizeIff]
      simp only [none, Bool.true_eq_false, false_or]
      constructor
      · intro all
        exact ⟨all.2.1, all.2.2⟩
      · intro both
        exact ⟨loggedWithin both.1, both.1, both.2⟩

/-- The checksum byte alone arrives, the start byte of the next frame. -/
def startByteAlone : Reception where
  tempDataLen := 1
  bytes := [uartCmdStartByte]
  buffered := by decide
  actualBytesRead := 1
  returned := by decide
  counted := by decide
  heap _ := 0
  malloc _ := true

/-- After a start byte that arrives alone, the handler reads behind the buffer. -/
theorem startByteAlone_out_of_bounds : ¬ ∀ reception : Reception, reception.InBounds := by
  intro inBounds
  have reads := (inBounds startByteAlone).1 1 (by decide)
  exact absurd reads (by decide)

end BleMesh.Uart
