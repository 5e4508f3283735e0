import BleMesh.LedStrip.Panel
import BleMesh.LedStrip.RmtEncoder

/-! # The RMT driver of an LED strip

The driver of `led_strip_rmt_dev.c` refreshes a strip by an RMT channel. What the LEDs read off
the wire is compared with what a panel shows.
-/

namespace BleMesh.LedStrip

open Foundation Foundation.Execution

/-! ## Bits -/

def byteOfBits (bits : List Bool) : UInt8 :=
  UInt8.ofBitVec ((BitVec.ofBoolListBE bits).setWidth 8)

theorem byteOfBits_byteBits (byte : UInt8) : byteOfBits (byteBits byte) = byte := by
  have all : ∀ bits : BitVec 8, (BitVec.ofBoolListBE
      ((List.range 8).map fun index => bits.getMsbD index)).setWidth 8 = bits := by
    decide +kernel
  exact congrArg UInt8.ofBitVec (all byte.toBitVec)

def bitCode : BlockCode UInt8 Bool where
  width := 8
  encode := byteBits
  decode bits := some (byteOfBits bits)
  length_encode byte := by simp [byteBits]
  decode_encode byte := by rw [byteOfBits_byteBits]

/-- The bits of the pixels. -/
def wireCode (format : PixelFormat) : BlockCode (Pixel format) Bool :=
  (pixelCode format).andThen bitCode

/-! ## The strip -/

variable {config : LedStripEncoderConfig} {format : PixelFormat}

/-- `led_strip_rmt_obj`. A frame is the symbols of one transmission. -/
structure RmtStrip (encoders : RmtEncoders config) (size : StripSize format) extends
    StripBuffer (List RmtSymbol) where
  stripEncoder : RmtLedStripEncoder encoders

/-- The configuration that `led_strip_new_rmt_device` gives to the encoder. -/
def stripEncoderConf (resolutionHz : UInt32) (ledModel : LedModel) : LedStripEncoderConfig where
  resolution := if resolutionHz ≠ 0 then resolutionHz else 10000000
  ledModel

/-- What `led_strip_new_rmt_device` makes. -/
def ledStripNewRmtDevice (encoders : RmtEncoders config) (size : StripSize format) :
    RmtStrip encoders size where
  stripEncoder := (ledStripEncoder encoders).start
  pixelBuf := List.replicate size.bytes 0
  sent := []
  returned := []

/-- The answers of the driver of the channel. It makes room for symbols until the encoder
has sent all of them. -/
structure RmtAnswers (size : StripSize format) where
  enable : Int
  transmit : Int
  waitAllDone : Int
  disable : Int
  spaces : List Nat
  enough : 8 * size.bytes + 1 ≤ spaces.sum

namespace RmtStrip

variable {encoders : RmtEncoders config} {size : StripSize format}

def ledStripRmtSetPixel (strip : RmtStrip encoders size) (index red green blue : UInt32) :
    Int × RmtStrip encoders size :=
  if index < size.maxLeds then
    let start := (index * UInt32.ofNat format.bytesPerPixel).toNat
    let pixelBuf := strip.pixelBuf.set (start + 0) (green &&& 0xFF).toUInt8
    let pixelBuf := pixelBuf.set (start + 1) (red &&& 0xFF).toUInt8
    let pixelBuf := pixelBuf.set (start + 2) (blue &&& 0xFF).toUInt8
    let pixelBuf := if format.bytesPerPixel > 3 then pixelBuf.set (start + 3) 0 else pixelBuf
    (0, { strip with pixelBuf })
  else (espErrInvalidArg, strip)

def ledStripRmtSetPixelRgbw (strip : RmtStrip encoders size)
    (index red green blue white : UInt32) : Int × RmtStrip encoders size :=
  if index < size.maxLeds then
    if format.bytesPerPixel = 4 then
      let bufStart := (index * 4).toNat
      let pixelBuf := strip.pixelBuf.set bufStart (green &&& 0xFF).toUInt8
      let pixelBuf := pixelBuf.set (bufStart + 1) (red &&& 0xFF).toUInt8
      let pixelBuf := pixelBuf.set (bufStart + 2) (blue &&& 0xFF).toUInt8
      let pixelBuf := pixelBuf.set (bufStart + 3) (white &&& 0xFF).toUInt8
      (0, { strip with pixelBuf })
    else (espErrInvalidArg, strip)
  else (espErrInvalidArg, strip)

/-- The transmission begins with `rmt_transmit` and ends before `rmt_tx_wait_all_done`
returns. -/
def ledStripRmtRefresh (strip : RmtStrip encoders size) (answers : RmtAnswers size) :
    Option (Int × RmtStrip encoders size) :=
  if answers.enable ≠ 0 then some (answers.enable, strip)
  else if answers.transmit ≠ 0 then some (answers.transmit, strip)
  else
    ((ledStripEncoder encoders).transmit strip.pixelBuf strip.stripEncoder answers.spaces).map
      fun transmitted =>
        let strip := { strip with
          stripEncoder := transmitted.2
          sent := strip.sent ++ [transmitted.1] }
        if answers.waitAllDone ≠ 0 then (answers.waitAllDone, strip)
        else if answers.disable ≠ 0 then (answers.disable, strip)
        else (0, strip)

def ledStripRmtClear (strip : RmtStrip encoders size) (answers : RmtAnswers size) :
    Option (Int × RmtStrip encoders size) :=
  ledStripRmtRefresh { strip with pixelBuf := List.replicate size.bytes 0 } answers

end RmtStrip

def rmtStep {encoders : RmtEncoders config} {size : StripSize format}
    (strip : RmtStrip encoders size) (call : StripCall (RmtAnswers size)) :
    Option (RmtStrip encoders size) :=
  let result :=
    match call with
    | .setPixel index red green blue => some (strip.ledStripRmtSetPixel index red green blue)
    | .setPixelRgbw index red green blue white =>
        some (strip.ledStripRmtSetPixelRgbw index red green blue white)
    | .refresh answers => strip.ledStripRmtRefresh answers
    | .clear answers => strip.ledStripRmtClear answers
  result.map fun result => { result.2 with returned := result.2.returned ++ [result.1] }

/-- The transmission begins when the first two calls succeed. The first error is returned. -/
def RmtAnswers.outcome {size : StripSize format} (answers : RmtAnswers size) : Outcome where
  sends := answers.enable = 0 ∧ answers.transmit = 0
  code :=
    if answers.enable ≠ 0 then answers.enable
    else if answers.transmit ≠ 0 then answers.transmit
    else if answers.waitAllDone ≠ 0 then answers.waitAllDone
    else answers.disable

/-! ## One call -/

/-- The symbols of a frame. -/
def frameSymbols (config : LedStripEncoderConfig) (pixels : List (Pixel format)) :
    List RmtSymbol :=
  ((wireCode format).encodeAll pixels).map config.bitSymbol ++ [config.resetCode]

variable {encoders : RmtEncoders config} {size : StripSize format}
  {strip : RmtStrip encoders size} {panel : Panel (Pixel format)}

/-- Between the calls the encoder is ready for another frame. -/
structure RmtStrip.Shows (strip : RmtStrip encoders size) (panel : Panel (Pixel format)) :
    Prop where
  holds : Holds (pixelCode format) (frameSymbols config) size strip.toStripBuffer panel
  ready : strip.stripEncoder.Ready

theorem encodeAll_black (size : StripSize format) :
    (pixelCode format).encodeAll (List.replicate size.maxLeds.toNat Pixel.black) =
      List.replicate size.bytes 0 := by
  have black : (Pixel.black : Pixel format).bytes = List.replicate format.bytesPerPixel 0 := by
    cases format <;> rfl
  have encoded : (pixelCode format).encodeAll (List.replicate size.maxLeds.toNat Pixel.black) =
      (List.replicate size.maxLeds.toNat (Pixel.black : Pixel format).bytes).flatten := by
    rw [← List.map_replicate]
    exact List.flatMap_def ..
  rw [encoded, black, List.flatten_replicate_replicate]
  rfl

theorem shows_start (encoders : RmtEncoders config) (size : StripSize format) :
    (ledStripNewRmtDevice encoders size).Shows (Panel.start size Pixel.black) where
  holds := by
    have start := Holds.start (pixelCode format) (frameSymbols config) size Pixel.black
    rw [encodeAll_black] at start
    exact start
  ready := (ledStripEncoder encoders).start_ready

/-- The first byte of a pixel. -/
theorem start_toNat {index : UInt32} (inside : index < size.maxLeds) :
    (index * UInt32.ofNat format.bytesPerPixel).toNat = index.toNat * format.bytesPerPixel := by
  have below : index.toNat * format.bytesPerPixel ≤ size.maxLeds.toNat * format.bytesPerPixel :=
    Nat.mul_le_mul_right _ (Nat.le_of_lt (UInt32.lt_iff_toNat_lt.mp inside))
  rw [UInt32.toNat_mul, bytesPerPixel_toNat]
  exact Nat.mod_eq_of_lt (Nat.lt_of_le_of_lt below size.fits)

theorem ledStripRmtSetPixel_eq (strip : RmtStrip encoders size) {index : UInt32}
    (inside : index < size.maxLeds) (red green blue : UInt32) :
    strip.ledStripRmtSetPixel index red green blue =
      (0, { strip with
        pixelBuf := writeFrom strip.pixelBuf (index.toNat * format.bytesPerPixel)
          (Pixel.rgb red green blue : Pixel format).bytes }) := by
  rw [RmtStrip.ledStripRmtSetPixel, if_pos inside]
  simp only [start_toNat inside, lowByte]
  cases format <;> rfl

theorem ledStripRmtSetPixelRgbw_eq {size : StripSize .grbw} (strip : RmtStrip encoders size)
    {index : UInt32} (inside : index < size.maxLeds) (red green blue white : UInt32) :
    strip.ledStripRmtSetPixelRgbw index red green blue white =
      (0, { strip with
        pixelBuf := writeFrom strip.pixelBuf (index.toNat * PixelFormat.grbw.bytesPerPixel)
          (Pixel.rgbw red green blue white).bytes }) := by
  have start : (index * 4).toNat = index.toNat * PixelFormat.grbw.bytesPerPixel :=
    start_toNat inside
  rw [RmtStrip.ledStripRmtSetPixelRgbw, if_pos inside]
  simp only [start, lowByte]
  rfl

namespace RmtStrip.Shows

/-- A refresh sends the frame, unless an error comes before. -/
theorem ledStripRmtRefresh_eq (shows : strip.Shows panel) (answers : RmtAnswers size) :
    ∃ final : RmtLedStripEncoder encoders, final.Ready ∧
      strip.ledStripRmtRefresh answers = some (answers.outcome.code,
        if answers.outcome.sends then
          { strip with
            stripEncoder := final
            sent := strip.sent ++ [frameSymbols config panel.pixels] }
        else strip) := by
  have owes := (ledStripEncoder encoders).begins strip.pixelBuf shows.ready
  have enough : ((ledStripEncoder encoders).message strip.pixelBuf).length ≤
      answers.spaces.sum := by
    rw [length_message, shows.holds.length_buffer]
    exact answers.enough
  rcases Encoder.transmit_of_enough owes (message_ne_nil encoders _) enough with
    ⟨final, ready, sent⟩
  have frame : (ledStripEncoder encoders).message strip.pixelBuf =
      frameSymbols config panel.pixels := by
    rw [frameSymbols, wireCode, BlockCode.encodeAll_andThen, ← shows.holds.pixelBuf]
    rfl
  refine ⟨final, ready, ?_⟩
  rw [RmtStrip.ledStripRmtRefresh, RmtAnswers.outcome, sent, frame]
  by_cases enabled : answers.enable = 0
  · by_cases begun : answers.transmit = 0
    · by_cases waited : answers.waitAllDone = 0
      · by_cases disabled : answers.disable = 0 <;> simp [enabled, begun, waited, disabled]
      · simp [enabled, begun, waited]
    · simp [enabled, begun]
  · simp [enabled]

theorem refresh (shows : strip.Shows panel) (answers : RmtAnswers size) :
    Option.Rel Shows
      ((strip.ledStripRmtRefresh answers).map fun result =>
        ({ result.2 with returned := result.2.returned ++ [result.1] } :
          RmtStrip encoders size))
      (some (panel.refresh answers.outcome)) := by
  rcases shows.ledStripRmtRefresh_eq answers with ⟨final, ready, refreshed⟩
  have sent := shows.holds.refresh answers.outcome
  rw [refreshed, Option.map_some]
  apply Option.Rel.some
  cases sends : answers.outcome.sends with
  | false =>
      rw [sends] at sent
      exact ⟨sent, shows.ready⟩
  | true =>
      rw [sends] at sent
      exact ⟨sent, ready⟩

theorem cleared (shows : strip.Shows panel) :
    ({ strip with pixelBuf := List.replicate size.bytes 0 } : RmtStrip encoders size).Shows
      (panel.fill size Pixel.black) := by
  have filled := shows.holds.fill Pixel.black
  rw [encodeAll_black] at filled
  exact ⟨filled, shows.ready⟩

/-- Each call does to the strip what it does to the panel. -/
theorem step (shows : strip.Shows panel) (call : StripCall (RmtAnswers size)) :
    Option.Rel Shows (rmtStep strip call)
      (panelStep id size panel (call.map RmtAnswers.outcome)) := by
  cases call with
  | setPixel index red green blue =>
      apply Option.Rel.some
      by_cases inside : index < size.maxLeds
      · simp only [ledStripRmtSetPixel_eq strip inside]
        exact ⟨shows.holds.setPixel inside _, shows.ready⟩
      · rw [RmtStrip.ledStripRmtSetPixel, if_neg inside]
        exact ⟨shows.holds.refuse_outside inside _, shows.ready⟩
  | setPixelRgbw index red green blue white =>
      apply Option.Rel.some
      by_cases inside : index < size.maxLeds
      · cases format with
        | grb =>
            rw [RmtStrip.ledStripRmtSetPixelRgbw, if_pos inside, if_neg (by decide)]
            exact ⟨shows.holds.answer espErrInvalidArg, shows.ready⟩
        | grbw =>
            simp only [ledStripRmtSetPixelRgbw_eq strip inside]
            exact ⟨shows.holds.setPixel inside _, shows.ready⟩
      · rw [RmtStrip.ledStripRmtSetPixelRgbw, if_neg inside]
        exact ⟨shows.holds.refuse_outside inside _, shows.ready⟩
  | refresh answers => exact shows.refresh answers
  | clear answers => exact shows.cleared.refresh answers

end RmtStrip.Shows

/-! ## What the LEDs read -/

/-- An LED reads a high pulse and a low one after it, each of some duration. The bit is 1 if
the high one is as long as the low one or longer. -/
def readSymbol (symbol : RmtSymbol) : Option Bool :=
  if symbol.level0 = true ∧ symbol.level1 = false ∧
      0 < symbol.duration0.toNat ∧ 0 < symbol.duration1.toNat then
    some (decide (symbol.duration1.toNat ≤ symbol.duration0.toNat))
  else none

/-- The pixels that the LEDs of a strip take from a frame. -/
def readFrame (size : StripSize format) (symbols : List RmtSymbol) :
    Option (List (Pixel format)) :=
  ((symbols.take (8 * size.bytes)).mapM readSymbol).bind
    ((wireCode format).decodeMany size.maxLeds.toNat)

theorem readSymbol_of_pulses {symbol : RmtSymbol} (high : symbol.level0 = true)
    (low : symbol.level1 = false) (highTicks : 0 < symbol.duration0.toNat)
    (lowTicks : 0 < symbol.duration1.toNat) :
    readSymbol symbol = some (decide (symbol.duration1.toNat ≤ symbol.duration0.toNat)) :=
  if_pos ⟨high, low, highTicks, lowTicks⟩

/-- The durations fit into their fields. -/
theorem toNat_ticks (config : LedStripEncoderConfig) {tenths : Nat} (le : tenths ≤ 9) :
    (config.ticks tenths).toNat = tenths * config.resolution.toNat / 10000000 := by
  have resolution : config.resolution.toNat < UInt32.size := config.resolution.toNat_lt
  have product : tenths * config.resolution.toNat ≤ 9 * config.resolution.toNat :=
    Nat.mul_le_mul_right _ le
  rw [LedStripEncoderConfig.ticks, BitVec.toNat_ofNat]
  apply Nat.mod_eq_of_lt
  simp only [UInt32.size] at resolution
  omega

/-- The shortest pulse takes a tick. -/
def LedStripEncoderConfig.Resolves (config : LedStripEncoderConfig) : Prop :=
  3333334 ≤ config.resolution.toNat

instance (config : LedStripEncoderConfig) : Decidable config.Resolves :=
  inferInstanceAs (Decidable (_ ≤ _))

/-- The pulses of three, six and nine tenths of a microsecond in ticks. -/
theorem ticks_of_resolves (resolves : config.Resolves) :
    0 < (config.ticks 3).toNat ∧ 0 < (config.ticks 6).toNat ∧
      (config.ticks 3).toNat < (config.ticks 9).toNat := by
  have fine : 3333334 ≤ config.resolution.toNat := resolves
  have three : 3 ≤ 9 := by decide
  have six : 6 ≤ 9 := by decide
  rw [toNat_ticks config three, toNat_ticks config six, toNat_ticks config (Nat.le_refl 9)]
  have tick : 1 ≤ 3 * config.resolution.toNat / 10000000 :=
    (Nat.le_div_iff_mul_le (by decide)).mpr (by omega)
  omega

/-- A 0 is the same for both models. -/
theorem bit0_eq (config : LedStripEncoderConfig) :
    config.bit0 =
      { level0 := true, duration0 := config.ticks 3, level1 := false,
        duration1 := config.ticks 9 } := by
  rw [LedStripEncoderConfig.bit0]
  split <;> rfl

/-- The LEDs of both models read the bits. -/
theorem readSymbol_bitSymbol (resolves : config.Resolves) (bit : Bool) :
    readSymbol (config.bitSymbol bit) = some bit := by
  rcases ticks_of_resolves resolves with ⟨short, middle, longer⟩
  have long : 0 < (config.ticks 9).toNat := Nat.lt_trans short longer
  cases bit with
  | false =>
      have symbol : config.bitSymbol false = config.bit0 := rfl
      rw [symbol, bit0_eq, readSymbol_of_pulses rfl rfl short long]
      simpa using longer
  | true =>
      have symbol : config.bitSymbol true = config.bit1 := rfl
      rw [symbol, LedStripEncoderConfig.bit1]
      cases config.ledModel with
      | ws2812 =>
          rw [readSymbol_of_pulses rfl rfl long short]
          simpa using Nat.le_of_lt longer
      | sk6812 =>
          rw [readSymbol_of_pulses rfl rfl middle middle]
          simp

/-- Without a tick for its high pulse, no LED reads a 0. -/
theorem readSymbol_bit0 (coarse : ¬ config.Resolves) : readSymbol config.bit0 = none := by
  have below : config.resolution.toNat < 3333334 := Nat.lt_of_not_le coarse
  have noTick : (config.ticks 3).toNat = 0 := by
    rw [toNat_ticks config (show 3 ≤ 9 by decide)]
    apply Nat.div_eq_of_lt
    omega
  rw [bit0_eq]
  apply if_neg
  rintro ⟨_, _, highTicks, _⟩
  rw [noTick] at highTicks
  cases highTicks

theorem readSymbols_bitSymbol (resolves : config.Resolves) (bits : List Bool) :
    (bits.map config.bitSymbol).mapM readSymbol = some bits := by
  induction bits with
  | nil => rfl
  | cons bit bits induction =>
      rw [List.map_cons, List.mapM_cons, readSymbol_bitSymbol resolves, induction]
      rfl

theorem readSymbols_of_coarse (coarse : ¬ config.Resolves) {bits : List Bool}
    (zero : false ∈ bits) : (bits.map config.bitSymbol).mapM readSymbol = none := by
  induction bits with
  | nil => cases zero
  | cons bit bits induction =>
      rw [List.map_cons, List.mapM_cons]
      cases bit with
      | false =>
          have unread : readSymbol (config.bitSymbol false) = none := readSymbol_bit0 coarse
          rw [unread]
          rfl
      | true =>
          have later : false ∈ bits := by simpa using zero
          rw [induction later]
          cases readSymbol (config.bitSymbol true) <;> rfl

/-- The symbols that are read are those of the pixels. -/
theorem take_frameSymbols (size : StripSize format) {pixels : List (Pixel format)}
    (all : pixels.length = size.maxLeds.toNat) :
    (frameSymbols config pixels).take (8 * size.bytes) =
      ((wireCode format).encodeAll pixels).map config.bitSymbol := by
  have length : (((wireCode format).encodeAll pixels).map config.bitSymbol).length =
      8 * size.bytes := by
    rw [List.length_map, BlockCode.length_encodeAll, all, StripSize.bytes, Nat.mul_comm 8,
      Nat.mul_assoc]
    rfl
  rw [frameSymbols, List.take_left' length]

theorem readFrame_frameSymbols (size : StripSize format)
    (readable : size.maxLeds = 0 ∨ config.Resolves) {pixels : List (Pixel format)}
    (all : pixels.length = size.maxLeds.toNat) :
    readFrame size (frameSymbols config pixels) = some pixels := by
  have read : (((wireCode format).encodeAll pixels).map config.bitSymbol).mapM readSymbol =
      some ((wireCode format).encodeAll pixels) := by
    rcases readable with empty | resolves
    · rw [empty] at all
      rw [List.eq_nil_of_length_eq_zero all]
      rfl
    · exact readSymbols_bitSymbol resolves _
  have decoded := (wireCode format).decodeMany_encodeAll pixels []
  rw [List.append_nil, all] at decoded
  rw [readFrame, take_frameSymbols size all, read, Option.bind_some, decoded]

/-- A black LED is sent bits that are 0. -/
theorem readFrame_black (coarse : ¬ config.Resolves) {size : StripSize format}
    (some : size.maxLeds ≠ 0) :
    readFrame size (frameSymbols config
      (List.replicate size.maxLeds.toNat (Pixel.black : Pixel format))) = none := by
  have leds : size.maxLeds.toNat ≠ 0 := by
    intro none
    exact some (UInt32.toNat_inj.mp none)
  have zero : false ∈ (wireCode format).encodeAll
      (List.replicate size.maxLeds.toNat (Pixel.black : Pixel format)) := by
    apply List.mem_flatMap.mpr
    refine ⟨Pixel.black, List.mem_replicate.mpr ⟨leds, rfl⟩, ?_⟩
    cases format <;> decide
  rw [readFrame, take_frameSymbols size List.length_replicate, readSymbols_of_coarse coarse zero]
  rfl

/-- What is read off a frame of the strip is what it means for the pixels of the panel. -/
theorem rmt_observed {Reading : Type} (encoders : RmtEncoders config) (size : StripSize format)
    (read : List RmtSymbol → Reading) {meaning : List (Pixel format) → Reading}
    (reads : ∀ pixels, pixels.length = size.maxLeds.toNat →
      read (frameSymbols config pixels) = meaning pixels)
    (calls : List (StripCall (RmtAnswers size))) :
    (run rmtStep (ledStripNewRmtDevice encoders size) calls).map
        (fun strip => (strip.sent.map read, strip.returned)) =
      (run (panelStep id size) (Panel.start size Pixel.black)
        (calls.map (StripCall.map RmtAnswers.outcome))).map fun panel =>
          (panel.shown.map meaning, panel.returned) :=
  run_observed (StripCall.map RmtAnswers.outcome) (fun _ _ call shows => shows.step call)
    (fun _ _ shows => shows.holds.observed reads) calls (shows_start encoders size)

/-! ## When the frames can be read -/

/-- One LED. -/
def StripSize.one (format : PixelFormat) : StripSize format where
  maxLeds := 1
  fits := by cases format <;> decide

/-- The driver of the channel finds no error and makes room for everything. -/
def RmtAnswers.good (size : StripSize format) : RmtAnswers size where
  enable := 0
  transmit := 0
  waitAllDone := 0
  disable := 0
  spaces := [8 * size.bytes + 1]
  enough := Nat.le_refl _

/-- What is told to the strip is what its LEDs read, frame for frame and with the same values
returned, for every run of calls. -/
def ShowsPanel (encoders : RmtEncoders config) (size : StripSize format) : Prop :=
  ∀ calls : List (StripCall (RmtAnswers size)),
    (run rmtStep (ledStripNewRmtDevice encoders size) calls).map
        (fun strip => (strip.sent.map (readFrame size), strip.returned)) =
      (run (panelStep id size) (Panel.start size Pixel.black)
        (calls.map (StripCall.map RmtAnswers.outcome))).map fun panel =>
          (panel.shown.map some, panel.returned)

theorem showsPanel_of_readable {size : StripSize format}
    (readable : size.maxLeds = 0 ∨ config.Resolves) (encoders : RmtEncoders config) :
    ShowsPanel encoders size :=
  rmt_observed encoders size _ fun _ all => readFrame_frameSymbols size readable all

/-- A new strip that is refreshed is black. -/
theorem ShowsPanel.readFrame_black {encoders : RmtEncoders config} {size : StripSize format}
    (shows : ShowsPanel encoders size) :
    readFrame size (frameSymbols config
        (List.replicate size.maxLeds.toNat (Pixel.black : Pixel format))) =
      some (List.replicate size.maxLeds.toNat Pixel.black) := by
  have observed := rmt_observed encoders size (readFrame size) (fun _ _ => rfl)
    [.refresh (RmtAnswers.good _)]
  have same := (shows _).symm.trans observed
  have frames := (Prod.mk.inj (Option.some.inj same)).1
  exact (List.cons.inj frames).1.symm

/-- Whatever the encoders of the driver and the size of the strip, its LEDs read what they
are told exactly when there are none or the shortest pulse takes a tick. -/
theorem shows_panel_iff (encoders : RmtEncoders config) (size : StripSize format) :
    ShowsPanel encoders size ↔
      size.maxLeds = 0 ∨ 3333334 ≤ config.resolution.toNat := by
  constructor
  · intro shows
    by_contra unreadable
    rcases not_or.mp unreadable with ⟨some, coarse⟩
    have read := shows.readFrame_black
    rw [LedStrip.readFrame_black coarse some] at read
    cases read
  · intro readable
    exact showsPanel_of_readable readable encoders

end BleMesh.LedStrip
