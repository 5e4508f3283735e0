import BleMesh.Foundation.BlockCode
import BleMesh.Foundation.Encoders

/-! # The encoder of an LED strip

The encoder of `led_strip_rmt_encoder.c` sends the bytes of the pixels through one encoder of
the RMT driver and the reset code after them through another. The room for symbols may run
out at any point, and the encoder is called again when there is more.
-/

namespace BleMesh.LedStrip

open Foundation

/-! ## Symbols -/

/-- `rmt_symbol_word_t`. -/
structure RmtSymbol where
  level0 : Bool
  duration0 : BitVec 15
  level1 : Bool
  duration1 : BitVec 15
  deriving DecidableEq

/-- `led_model_t`. -/
inductive LedModel
  | ws2812
  | sk6812
  deriving DecidableEq

/-- `led_strip_encoder_config_t`. -/
structure LedStripEncoderConfig where
  resolution : UInt32
  ledModel : LedModel

namespace LedStripEncoderConfig

/-- Some tenths of a microsecond in ticks. The product is taken exactly, and the cast
truncates. -/
def ticks (config : LedStripEncoderConfig) (tenths : Nat) : BitVec 15 :=
  BitVec.ofNat 15 (tenths * config.resolution.toNat / 10000000)

def bit0 (config : LedStripEncoderConfig) : RmtSymbol :=
  match config.ledModel with
  | .sk6812 =>
      { level0 := true, duration0 := config.ticks 3, level1 := false, duration1 := config.ticks 9 }
  | .ws2812 =>
      { level0 := true, duration0 := config.ticks 3, level1 := false, duration1 := config.ticks 9 }

def bit1 (config : LedStripEncoderConfig) : RmtSymbol :=
  match config.ledModel with
  | .sk6812 =>
      { level0 := true, duration0 := config.ticks 6, level1 := false, duration1 := config.ticks 6 }
  | .ws2812 =>
      { level0 := true, duration0 := config.ticks 9, level1 := false, duration1 := config.ticks 3 }

def resetCode (config : LedStripEncoderConfig) : RmtSymbol :=
  let resetTicks := config.resolution / 1000000 * 280 / 2
  { level0 := false
    duration0 := BitVec.ofNat 15 resetTicks.toNat
    level1 := false
    duration1 := BitVec.ofNat 15 resetTicks.toNat }

def bitSymbol (config : LedStripEncoderConfig) (bit : Bool) : RmtSymbol :=
  if bit then config.bit1 else config.bit0

end LedStripEncoderConfig

/-- The bits of a byte, the most significant first. -/
def byteBits (byte : UInt8) : List Bool :=
  (List.range 8).map fun index => byte.toBitVec.getMsbD index

/-- The encoders of the RMT driver: the one for bytes sends the most significant bit first,
and the one that copies sends the symbol it is given. -/
structure RmtEncoders (config : LedStripEncoderConfig) where
  bytes : Encoder (List UInt8) RmtSymbol
  copy : Encoder RmtSymbol RmtSymbol
  bytes_message : ∀ data, bytes.message data = (data.flatMap byteBits).map config.bitSymbol
  copy_message : ∀ symbol, copy.message symbol = [symbol]

/-- Encoders that count what they have sent behave so. -/
def RmtEncoders.counting (config : LedStripEncoderConfig) : RmtEncoders config where
  bytes := Encoder.counting fun data => (data.flatMap byteBits).map config.bitSymbol
  copy := Encoder.counting fun symbol => [symbol]
  bytes_message _ := rfl
  copy_message _ := rfl

/-! ## The encoder -/

variable {config : LedStripEncoderConfig}

/-- The values of `state`. -/
inductive LedEncoderState
  | rgbData
  | resetCode
  deriving DecidableEq

/-- `rmt_led_strip_encoder_t`. -/
structure RmtLedStripEncoder (encoders : RmtEncoders config) where
  bytesEncoder : encoders.bytes.State
  copyEncoder : encoders.copy.State
  state : LedEncoderState

/-- The case for the reset code. -/
def sendResetCode {encoders : RmtEncoders config} (encoder : RmtLedStripEncoder encoders)
    (space : Nat) : Session (RmtLedStripEncoder encoders) RmtSymbol :=
  let session := encoders.copy.encode config.resetCode encoder.copyEncoder space
  { symbols := session.symbols
    state := { encoder with
      copyEncoder := session.state
      state := if session.complete then .rgbData else encoder.state }
    complete := session.complete
    memFull := session.memFull }

def rmtEncodeLedStrip {encoders : RmtEncoders config} (primaryData : List UInt8)
    (encoder : RmtLedStripEncoder encoders) (space : Nat) :
    Session (RmtLedStripEncoder encoders) RmtSymbol :=
  match encoder.state with
  | .rgbData =>
      let session := encoders.bytes.encode primaryData encoder.bytesEncoder space
      let encoder := { encoder with
        bytesEncoder := session.state
        state := if session.complete then .resetCode else .rgbData }
      if session.memFull then
        { symbols := session.symbols, state := encoder, complete := false, memFull := true }
      else
        -- The reset code gets the room that the data has left.
        let later := sendResetCode encoder (space - session.symbols.length)
        { later with symbols := session.symbols ++ later.symbols }
  | .resetCode => sendResetCode encoder space

/-! ## What the encoder owes -/

section

variable {encoders : RmtEncoders config}

def RmtLedStripEncoder.Ready (encoder : RmtLedStripEncoder encoders) : Prop :=
  encoder.state = .rgbData ∧ encoders.bytes.Ready encoder.bytesEncoder ∧
    encoders.copy.Ready encoder.copyEncoder

/-- In the middle of the data the reset code is owed as well. -/
inductive RmtLedStripEncoder.Owes (primaryData : List UInt8)
    (encoder : RmtLedStripEncoder encoders) : List RmtSymbol → Prop
  | rgbData {rest : List RmtSymbol} (state : encoder.state = .rgbData)
      (bytes : encoders.bytes.Owes primaryData encoder.bytesEncoder rest)
      (copy : encoders.copy.Ready encoder.copyEncoder) :
      Owes primaryData encoder (rest ++ [config.resetCode])
  | resetCode {rest : List RmtSymbol} (state : encoder.state = .resetCode)
      (bytes : encoders.bytes.Ready encoder.bytesEncoder)
      (copy : encoders.copy.Owes config.resetCode encoder.copyEncoder rest) :
      Owes primaryData encoder rest

theorem sendResetCode_emits (encoder : RmtLedStripEncoder encoders)
    (primaryData : List UInt8) {rest : List RmtSymbol} (state : encoder.state = .resetCode)
    (bytes : encoders.bytes.Ready encoder.bytesEncoder)
    (copy : encoders.copy.Owes config.resetCode encoder.copyEncoder rest) (space : Nat) :
    (sendResetCode encoder space).Emits rest space RmtLedStripEncoder.Ready
      (RmtLedStripEncoder.Owes primaryData) := by
  have emits := encoders.copy.emits copy space
  constructor
  · exact emits.symbols
  · exact emits.complete_iff
  · exact emits.memFull_iff
  · intro fits
    refine ⟨?_, bytes, emits.ready fits⟩
    exact if_pos (emits.complete_iff.mpr fits)
  · intro short
    refine RmtLedStripEncoder.Owes.resetCode ?_ bytes (emits.rest short)
    have incomplete := mt emits.complete_iff.mp (Nat.not_le_of_lt short)
    exact (if_neg incomplete).trans state

theorem rmtEncodeLedStrip_emits {encoder : RmtLedStripEncoder encoders}
    {primaryData : List UInt8} {owed : List RmtSymbol}
    (owes : encoder.Owes primaryData owed) (space : Nat) :
    (rmtEncodeLedStrip primaryData encoder space).Emits owed space RmtLedStripEncoder.Ready
      (RmtLedStripEncoder.Owes primaryData) := by
  cases owes with
  | resetCode state bytes copy =>
      rw [rmtEncodeLedStrip, state]
      exact sendResetCode_emits encoder primaryData state bytes copy space
  | @rgbData rest state bytes copy =>
      have emits := encoders.bytes.emits bytes space
      have begun := encoders.copy.begins config.resetCode copy
      rw [encoders.copy_message] at begun
      rw [rmtEncodeLedStrip, state]
      simp only
      rcases Nat.lt_trichotomy space rest.length with short | exact | long
      · -- The data goes on.
        have full := emits.memFull_iff.mpr (Nat.le_of_lt short)
        have incomplete := mt emits.complete_iff.mp (Nat.not_le_of_lt short)
        rw [if_pos full]
        constructor
        · rw [emits.symbols, List.take_append_of_le_length (Nat.le_of_lt short)]
        · simp only [Bool.false_eq_true, List.length_append, List.length_singleton, false_iff]
          omega
        · simp only [List.length_append, List.length_singleton, true_iff]
          omega
        · rw [List.length_append]
          omega
        · intro _
          rw [List.drop_append_of_le_length (Nat.le_of_lt short)]
          refine RmtLedStripEncoder.Owes.rgbData ?_ (emits.rest short) copy
          exact if_neg incomplete
      · -- The data is complete, and no room is left.
        subst exact
        have full := emits.memFull_iff.mpr (Nat.le_refl _)
        have complete := emits.complete_iff.mpr (Nat.le_refl _)
        rw [if_pos full]
        constructor
        · rw [emits.symbols, List.take_length, List.take_left]
        · simp
        · simp
        · rw [List.length_append, List.length_singleton]
          omega
        · intro _
          rw [List.drop_left]
          refine RmtLedStripEncoder.Owes.resetCode ?_ (emits.ready (Nat.le_refl _)) begun
          exact if_pos complete
      · -- The reset code comes right after the data.
        have notFull := mt emits.memFull_iff.mp (Nat.not_le_of_lt long)
        have complete := emits.complete_iff.mpr (Nat.le_of_lt long)
        have symbols : (encoders.bytes.encode primaryData encoder.bytesEncoder space).symbols =
            rest := by
          rw [emits.symbols, List.take_of_length_le (Nat.le_of_lt long)]
        let sent : RmtLedStripEncoder encoders := { encoder with
          bytesEncoder := (encoders.bytes.encode primaryData encoder.bytesEncoder space).state
          state := .resetCode }
        have later := sendResetCode_emits sent primaryData rfl (emits.ready (Nat.le_of_lt long))
          begun (space - rest.length)
        rw [if_neg notFull, symbols]
        simp only [complete, if_true]
        exact later.after (Nat.le_of_lt long)

end

/-- The encoder as the driver of the channel has it. -/
def ledStripEncoder (encoders : RmtEncoders config) : Encoder (List UInt8) RmtSymbol where
  State := RmtLedStripEncoder encoders
  encode := rmtEncodeLedStrip
  message primaryData := (primaryData.flatMap byteBits).map config.bitSymbol ++ [config.resetCode]
  Ready := RmtLedStripEncoder.Ready
  Owes := RmtLedStripEncoder.Owes
  start := { bytesEncoder := encoders.bytes.start, copyEncoder := encoders.copy.start,
             state := .rgbData }
  start_ready := ⟨rfl, encoders.bytes.start_ready, encoders.copy.start_ready⟩
  begins primaryData ready := by
    rcases ready with ⟨state, bytes, copy⟩
    rw [← encoders.bytes_message]
    exact RmtLedStripEncoder.Owes.rgbData state (encoders.bytes.begins primaryData bytes) copy
  emits owes space := rmtEncodeLedStrip_emits owes space

theorem length_message (encoders : RmtEncoders config) (primaryData : List UInt8) :
    ((ledStripEncoder encoders).message primaryData).length = 8 * primaryData.length + 1 := by
  have bits : (primaryData.flatMap byteBits).length = 8 * primaryData.length := by
    induction primaryData with
    | nil => rfl
    | cons byte data induction =>
        have width : (byteBits byte).length = 8 := by simp [byteBits]
        rw [List.flatMap_cons, List.length_append, width, induction, List.length_cons]
        omega
  simp [ledStripEncoder, bits]

theorem message_ne_nil (encoders : RmtEncoders config) (primaryData : List UInt8) :
    (ledStripEncoder encoders).message primaryData ≠ [] := by
  simp [ledStripEncoder]

/-- However the room for the symbols comes, and for any number of transmissions in a row, each
one sends the bits of its bytes and one reset code after them, once there has been enough
room. -/
theorem led_strip_transmissions (encoders : RmtEncoders config)
    (transmissions : List (List UInt8 × List Nat)) :
    (ledStripEncoder encoders).transmitAll (ledStripEncoder encoders).start transmissions =
      if ∀ transmission ∈ transmissions,
          8 * transmission.1.length + 1 ≤ transmission.2.sum then
        some (transmissions.map fun transmission =>
          (transmission.1.flatMap byteBits).map config.bitSymbol ++ [config.resetCode])
      else none := by
  rw [Encoder.transmitAll_eq (message_ne_nil encoders) (ledStripEncoder encoders).start_ready]
  simp only [length_message]
  rfl

end BleMesh.LedStrip
