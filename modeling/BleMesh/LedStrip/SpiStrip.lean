import BleMesh.LedStrip.RmtStrip

/-! # The SPI driver of an LED strip

The driver of `led_strip_spi_dev.c` keeps three bytes in its buffer for each byte of a pixel,
whose bits are the pulses on the wire. Its new buffer holds no pulses at all, not those of black
pixels.
-/

namespace BleMesh.LedStrip

open Foundation Foundation.Execution

variable {format : PixelFormat}

/-! ## Pulses -/

/-- `*(buf + index) |= bits`. -/
def orAt (buf : List UInt8) (index : Nat) (bits : UInt8) : List UInt8 :=
  buf.modify index fun byte => byte ||| bits

/-- `__led_strip_spi_bit`, for the part of the buffer that begins at an index. -/
def ledStripSpiBit (data : UInt8) (pixelBuf : List UInt8) (buf : Nat) : List UInt8 :=
  let pixelBuf := orAt pixelBuf (buf + 2) (if data &&& 0x01 ≠ 0 then 0x04 ||| 0x02 else 0x04)
  let pixelBuf := orAt pixelBuf (buf + 2) (if data &&& 0x02 ≠ 0 then 0x20 ||| 0x10 else 0x20)
  let pixelBuf := orAt pixelBuf (buf + 2) (if data &&& 0x04 ≠ 0 then 0x80 else 0x00)
  let pixelBuf := orAt pixelBuf (buf + 1) 0x01
  let pixelBuf := orAt pixelBuf (buf + 1) (if data &&& 0x08 ≠ 0 then 0x08 ||| 0x04 else 0x08)
  let pixelBuf := orAt pixelBuf (buf + 1) (if data &&& 0x10 ≠ 0 then 0x40 ||| 0x20 else 0x40)
  let pixelBuf := orAt pixelBuf (buf + 0) (if data &&& 0x20 ≠ 0 then 0x02 ||| 0x01 else 0x02)
  let pixelBuf := orAt pixelBuf (buf + 0) (if data &&& 0x40 ≠ 0 then 0x10 ||| 0x08 else 0x10)
  let pixelBuf := orAt pixelBuf (buf + 0) (if data &&& 0x80 ≠ 0 then 0x80 ||| 0x40 else 0x80)
  pixelBuf

/-- One byte after the other, from an index on. -/
def ledStripSpiBits (pixelBuf : List UInt8) : Nat → List UInt8 → List UInt8
  | _, [] => pixelBuf
  | buf, data :: later => ledStripSpiBits (ledStripSpiBit data pixelBuf buf) (buf + 3) later

def memset (pixelBuf : List UInt8) (start : Nat) (value : UInt8) (count : Nat) : List UInt8 :=
  writeFrom pixelBuf start (List.replicate count value)

/-! ## The strip -/

/-- The bits that a strip sends can be counted. -/
structure SpiSize (format : PixelFormat) extends StripSize format where
  bits_fit : maxLeds.toNat * format.bytesPerPixel * 24 < UInt32.size

/-- `led_strip_spi_obj`. A frame is the bytes of one transaction. -/
structure SpiStrip extends StripBuffer (List UInt8)

/-- What `led_strip_new_spi_device` makes. -/
def ledStripNewSpiDevice (size : SpiSize format) : SpiStrip where
  pixelBuf := List.replicate (size.bytes * 3) 0
  sent := []
  returned := []

namespace SpiStrip

def ledStripSpiSetPixel (strip : SpiStrip) (size : SpiSize format)
    (index red green blue : UInt32) : Int × SpiStrip :=
  if index < size.maxLeds then
    let start := (index * UInt32.ofNat format.bytesPerPixel * 3).toNat
    let pixelBuf := memset strip.pixelBuf start 0 (format.bytesPerPixel * 3)
    let pixelBuf := ledStripSpiBit green.toUInt8 pixelBuf start
    let pixelBuf := ledStripSpiBit red.toUInt8 pixelBuf (start + 3)
    let pixelBuf := ledStripSpiBit blue.toUInt8 pixelBuf (start + 3 * 2)
    let pixelBuf :=
      if format.bytesPerPixel > 3 then ledStripSpiBit 0 pixelBuf (start + 3 * 3) else pixelBuf
    (0, { strip with pixelBuf })
  else (espErrInvalidArg, strip)

def ledStripSpiSetPixelRgbw (strip : SpiStrip) (size : SpiSize format)
    (index red green blue white : UInt32) : Int × SpiStrip :=
  if index < size.maxLeds then
    if format.bytesPerPixel = 4 then
      let start := (index * UInt32.ofNat format.bytesPerPixel * 3).toNat
      let pixelBuf := memset strip.pixelBuf start 0 (format.bytesPerPixel * 3)
      let pixelBuf := ledStripSpiBit green.toUInt8 pixelBuf start
      let pixelBuf := ledStripSpiBit red.toUInt8 pixelBuf (start + 3)
      let pixelBuf := ledStripSpiBit blue.toUInt8 pixelBuf (start + 3 * 2)
      let pixelBuf := ledStripSpiBit white.toUInt8 pixelBuf (start + 3 * 3)
      (0, { strip with pixelBuf })
    else (espErrInvalidArg, strip)
  else (espErrInvalidArg, strip)

/-- The answer is what `spi_device_transmit` returns. The length of a transaction is in bits. -/
def ledStripSpiRefresh (strip : SpiStrip) (size : SpiSize format) (answer : Int) :
    Int × SpiStrip :=
  let length := (size.maxLeds * UInt32.ofNat format.bytesPerPixel * 24).toNat
  if answer ≠ 0 then (answer, strip)
  else (0, { strip with sent := strip.sent ++ [strip.pixelBuf.take (length / 8)] })

def ledStripSpiClear (strip : SpiStrip) (size : SpiSize format) (answer : Int) :
    Int × SpiStrip :=
  let bytes := size.maxLeds * UInt32.ofNat format.bytesPerPixel
  let pixelBuf := memset strip.pixelBuf 0 0 (bytes * 3).toNat
  let pixelBuf := ledStripSpiBits pixelBuf 0 (List.replicate bytes.toNat 0)
  ledStripSpiRefresh { strip with pixelBuf } size answer

end SpiStrip

def spiStep (size : SpiSize format) (strip : SpiStrip) (call : StripCall Int) :
    Option SpiStrip :=
  let result :=
    match call with
    | .setPixel index red green blue =>
        some (strip.ledStripSpiSetPixel size index red green blue)
    | .setPixelRgbw index red green blue white =>
        some (strip.ledStripSpiSetPixelRgbw size index red green blue white)
    | .refresh answer => some (strip.ledStripSpiRefresh size answer)
    | .clear answer => some (strip.ledStripSpiClear size answer)
  result.map fun result => { result.2 with returned := result.2.returned ++ [result.1] }

def spiOutcome (answer : Int) : Outcome where
  sends := answer = 0
  code := answer

/-! ## The pulses of a byte -/

/-- The bytes with the pulses of a byte. -/
def spiBytes (data : UInt8) : List UInt8 :=
  ledStripSpiBit data [0, 0, 0] 0

/-- A bit is sent as a short pulse or a long one. -/
def pulseCode : BlockCode Bool Bool where
  width := 3
  encode bit := [true, bit, false]
  decode
    | [true, bit, false] => some bit
    | _ => none
  length_encode _ := rfl
  decode_encode _ := rfl

theorem spiBytes_pulses (data : UInt8) :
    (spiBytes data).flatMap byteBits = pulseCode.encodeAll (byteBits data) := by
  have all : ∀ bits : BitVec 8, (spiBytes (UInt8.ofBitVec bits)).flatMap byteBits =
      pulseCode.encodeAll (byteBits (UInt8.ofBitVec bits)) := by
    decide +kernel
  exact all data.toBitVec

/-- What the LEDs make of three bytes. -/
def spiByteCode : BlockCode UInt8 UInt8 where
  width := 3
  encode := spiBytes
  decode bytes := (bitCode.andThen pulseCode).decode (bytes.flatMap byteBits)
  length_encode data := by simp [spiBytes, ledStripSpiBit, orAt]
  decode_encode data := by
    rw [spiBytes_pulses]
    exact (bitCode.andThen pulseCode).decode_encode data

theorem orAt_append (front rest : List UInt8) (index : Nat) (bits : UInt8) :
    orAt (front ++ rest) (front.length + index) bits = front ++ orAt rest index bits := by
  induction front with
  | nil => rw [List.nil_append, List.length_nil, Nat.zero_add, List.nil_append]
  | cons first front induction =>
      rw [List.length_cons, Nat.succ_add]
      exact congrArg (first :: ·) induction

/-- Into zeros, the pulses of a byte are written. -/
theorem ledStripSpiBit_block (data : UInt8) (front back : List UInt8) :
    ledStripSpiBit data (front ++ [0, 0, 0] ++ back) front.length =
      front ++ spiBytes data ++ back := by
  rw [List.append_assoc, List.append_assoc]
  simp only [ledStripSpiBit, orAt_append]
  rfl

theorem ledStripSpiBits_block (bytes front back : List UInt8) :
    ledStripSpiBits (front ++ List.replicate (bytes.length * 3) 0 ++ back) front.length bytes =
      front ++ spiByteCode.encodeAll bytes ++ back := by
  induction bytes generalizing front with
  | nil => rfl
  | cons data bytes induction =>
      have zeros : front ++ List.replicate ((data :: bytes).length * 3) 0 ++ back =
          front ++ [0, 0, 0] ++ (List.replicate (bytes.length * 3) 0 ++ back) := by
        rw [List.length_cons, Nat.succ_mul, Nat.add_comm, List.replicate_add]
        simp [List.replicate]
      have next : front.length + 3 = (front ++ spiBytes data).length := by
        rw [List.length_append]
        exact congrArg (front.length + ·) (spiByteCode.length_encode data).symm
      rw [zeros, ledStripSpiBits, ledStripSpiBit_block, next, ← List.append_assoc, induction,
        BlockCode.encodeAll_cons, ← List.append_assoc]
      rfl

/-- Setting the bytes to zero first makes up for the old pulses. -/
theorem ledStripSpiBits_memset {pixelBuf bytes : List UInt8} {start : Nat}
    (inside : start + bytes.length * 3 ≤ pixelBuf.length) :
    ledStripSpiBits (memset pixelBuf start 0 (bytes.length * 3)) start bytes =
      writeFrom pixelBuf start (spiByteCode.encodeAll bytes) := by
  rcases exists_block inside with ⟨front, old, back, whole, rfl, length⟩
  have zeros : (List.replicate (bytes.length * 3) (0 : UInt8)).length = old.length := by
    rw [List.length_replicate, length]
  have pulses : (spiByteCode.encodeAll bytes).length = old.length := by
    rw [BlockCode.length_encodeAll, length]
    rfl
  rw [whole, memset, writeFrom_block _ _ _ zeros, ledStripSpiBits_block,
    writeFrom_block _ _ _ pulses]

/-! ## One call -/

/-- The code of a pixel in the buffer. -/
def spiPixelCode (format : PixelFormat) : BlockCode (Pixel format) UInt8 :=
  (pixelCode format).andThen spiByteCode

theorem no_pulses (format : PixelFormat) :
    (spiPixelCode format).decode (List.replicate (spiPixelCode format).width 0) = none := by
  cases format <;> decide

/-- The code of the buffer, where there may be no pulses for a pixel. -/
def spiCode (format : PixelFormat) : BlockCode (Option (Pixel format)) UInt8 :=
  (spiPixelCode format).withBlank 0 (no_pulses format)

/-- The buffer holds the pixels that have ever been set. -/
def SpiStrip.Shows (strip : SpiStrip) (size : SpiSize format)
    (panel : Panel (Option (Pixel format))) : Prop :=
  Holds (spiCode format) (spiCode format).encodeAll size.toStripSize strip.toStripBuffer panel

theorem spi_shows_start (size : SpiSize format) :
    (ledStripNewSpiDevice size).Shows size (Panel.start size.toStripSize none) := by
  have start := Holds.start (spiCode format) (spiCode format).encodeAll size.toStripSize none
  have blank : (spiCode format).encodeAll (List.replicate size.maxLeds.toNat none) =
      List.replicate (size.bytes * 3) 0 := by
    rw [StripSize.bytes, Nat.mul_assoc]
    exact BlockCode.encodeAll_blank _ (no_pulses format) _
  rw [blank] at start
  exact start

/-- Products that are counted within the bits of the strip do not wrap. -/
theorem spi_toNat (size : SpiSize format) {count factor : UInt32}
    (countLe : count.toNat ≤ size.maxLeds.toNat) (factorLe : factor.toNat ≤ 24) :
    (count * UInt32.ofNat format.bytesPerPixel * factor).toNat =
      count.toNat * format.bytesPerPixel * factor.toNat := by
  have below : count.toNat * format.bytesPerPixel * factor.toNat < UInt32.size :=
    Nat.lt_of_le_of_lt (Nat.mul_le_mul (Nat.mul_le_mul_right _ countLe) factorLe) size.bits_fit
  rw [UInt32.toNat_mul, UInt32.toNat_mul, bytesPerPixel_toNat, Nat.mod_mul_mod]
  exact Nat.mod_eq_of_lt below

namespace SpiStrip.Shows

variable {strip : SpiStrip} {size : SpiSize format} {panel : Panel (Option (Pixel format))}

theorem length_pixelBuf (shows : strip.Shows size panel) :
    strip.pixelBuf.length = size.bytes * 3 := by
  rw [Holds.length_buffer shows, StripSize.bytes, Nat.mul_assoc]
  rfl

/-- The pulses of a pixel replace those that the buffer had for it. -/
theorem writePixel (shows : strip.Shows size panel) {index : UInt32}
    (inside : index < size.maxLeds) (pixel : Pixel format) :
    let start := (index * UInt32.ofNat format.bytesPerPixel * 3).toNat
    ledStripSpiBits (memset strip.pixelBuf start 0 (format.bytesPerPixel * 3)) start
        pixel.bytes =
      writeFrom strip.pixelBuf (index.toNat * (spiCode format).width)
        ((spiCode format).encode (some pixel)) := by
  have below := UInt32.lt_iff_toNat_lt.mp inside
  have start : (index * UInt32.ofNat format.bytesPerPixel * 3).toNat =
      index.toNat * (format.bytesPerPixel * 3) := by
    rw [← Nat.mul_assoc]
    exact spi_toNat size (Nat.le_of_lt below) (by decide)
  have bytes : pixel.bytes.length = format.bytesPerPixel :=
    (pixelCode format).length_encode pixel
  have room : index.toNat * (format.bytesPerPixel * 3) + pixel.bytes.length * 3 ≤
      strip.pixelBuf.length := by
    rw [shows.length_pixelBuf, StripSize.bytes, Nat.mul_assoc, bytes, ← Nat.succ_mul]
    exact Nat.mul_le_mul_right _ below
  have written := ledStripSpiBits_memset room
  rw [bytes] at written
  rw [start]
  exact written

theorem ledStripSpiSetPixel_eq (shows : strip.Shows size panel) {index : UInt32}
    (inside : index < size.maxLeds) (red green blue : UInt32) :
    strip.ledStripSpiSetPixel size index red green blue =
      (0, { strip with
        pixelBuf := writeFrom strip.pixelBuf (index.toNat * (spiCode format).width)
          ((spiCode format).encode (some (Pixel.rgb red green blue))) }) := by
  rw [← shows.writePixel inside, SpiStrip.ledStripSpiSetPixel, if_pos inside]
  cases format with
  | grb =>
      simp only [if_neg (show ¬PixelFormat.grb.bytesPerPixel > 3 by decide)]
      rfl
  | grbw =>
      simp only [if_pos (show PixelFormat.grbw.bytesPerPixel > 3 by decide)]
      rfl

theorem ledStripSpiSetPixelRgbw_eq {size : SpiSize .grbw}
    {panel : Panel (Option (Pixel .grbw))} (shows : strip.Shows size panel) {index : UInt32}
    (inside : index < size.maxLeds) (red green blue white : UInt32) :
    strip.ledStripSpiSetPixelRgbw size index red green blue white =
      (0, { strip with
        pixelBuf := writeFrom strip.pixelBuf (index.toNat * (spiCode .grbw).width)
          ((spiCode .grbw).encode (some (Pixel.rgbw red green blue white))) }) := by
  rw [← shows.writePixel inside, SpiStrip.ledStripSpiSetPixelRgbw, if_pos inside]
  rfl

/-- The transaction takes the whole buffer. -/
theorem ledStripSpiRefresh_eq (shows : strip.Shows size panel) (answer : Int) :
    strip.ledStripSpiRefresh size answer = (answer,
      { strip with
        sent :=
          if (spiOutcome answer).sends then
            strip.sent ++ [(spiCode format).encodeAll panel.pixels]
          else strip.sent }) := by
  have length : (size.maxLeds * UInt32.ofNat format.bytesPerPixel * 24).toNat / 8 =
      strip.pixelBuf.length := by
    rw [spi_toNat size (Nat.le_refl _) (by decide), shows.length_pixelBuf, StripSize.bytes]
    change _ * 24 / 8 = _
    omega
  rw [SpiStrip.ledStripSpiRefresh, spiOutcome]
  simp only [length, List.take_length, ne_eq, decide_eq_true_eq]
  by_cases succeeds : answer = 0
  · rw [if_neg (not_not_intro succeeds), if_pos succeeds, Holds.pixelBuf shows, succeeds]
  · rw [if_pos succeeds, if_neg succeeds]

theorem refresh (shows : strip.Shows size panel) (answer : Int) :
    Option.Rel (fun strip panel => SpiStrip.Shows strip size panel)
      (some { (strip.ledStripSpiRefresh size answer).2 with
        returned := (strip.ledStripSpiRefresh size answer).2.returned ++
          [(strip.ledStripSpiRefresh size answer).1] })
      (some (panel.refresh (spiOutcome answer))) := by
  rw [shows.ledStripSpiRefresh_eq answer]
  apply Option.Rel.some
  exact Holds.refresh shows (spiOutcome answer)

/-- Clearing replaces the whole buffer by the pulses of black pixels. -/
theorem clear_eq (shows : strip.Shows size panel) :
    let bytes := size.maxLeds * UInt32.ofNat format.bytesPerPixel
    ledStripSpiBits (memset strip.pixelBuf 0 0 (bytes * 3).toNat) 0
        (List.replicate bytes.toNat 0) =
      (spiCode format).encodeAll (List.replicate size.maxLeds.toNat (some Pixel.black)) := by
  have bytes : (size.maxLeds * UInt32.ofNat format.bytesPerPixel).toNat = size.bytes := by
    rw [UInt32.toNat_mul, bytesPerPixel_toNat]
    exact Nat.mod_eq_of_lt size.fits
  have cleared : (size.maxLeds * UInt32.ofNat format.bytesPerPixel * 3).toNat =
      (List.replicate size.bytes (0 : UInt8)).length * 3 := by
    rw [List.length_replicate]
    exact spi_toNat size (Nat.le_refl _) (by decide)
  have whole : (spiByteCode.encodeAll (List.replicate size.bytes 0)).length =
      strip.pixelBuf.length := by
    rw [BlockCode.length_encodeAll, List.length_replicate, shows.length_pixelBuf]
    rfl
  have written := writeFrom_block [] strip.pixelBuf [] whole
  rw [List.append_nil, List.append_nil, List.nil_append, List.nil_append] at written
  have pulses : (spiCode format).encodeAll (List.replicate size.maxLeds.toNat (some Pixel.black)) =
      spiByteCode.encodeAll (List.replicate size.bytes 0) := by
    rw [← List.map_replicate, ← encodeAll_black size.toStripSize, ← BlockCode.encodeAll_andThen]
    exact BlockCode.encodeAll_withBlank _ (no_pulses format) _
  simp only [bytes, cleared]
  rw [ledStripSpiBits_memset, pulses]
  · exact written
  · apply Nat.le_of_eq
    rw [Nat.zero_add, List.length_replicate, shows.length_pixelBuf]

/-- Each call does to the strip what it does to the panel. -/
theorem step (shows : strip.Shows size panel) (call : StripCall Int) :
    Option.Rel (fun strip panel => SpiStrip.Shows strip size panel) (spiStep size strip call)
      (panelStep some size.toStripSize panel (call.map spiOutcome)) := by
  cases call with
  | setPixel index red green blue =>
      apply Option.Rel.some
      by_cases inside : index < size.maxLeds
      · simp only [shows.ledStripSpiSetPixel_eq inside]
        exact Holds.setPixel shows inside _
      · rw [SpiStrip.ledStripSpiSetPixel, if_neg inside]
        exact Holds.refuse_outside shows inside _
  | setPixelRgbw index red green blue white =>
      apply Option.Rel.some
      by_cases inside : index < size.maxLeds
      · cases format with
        | grb =>
            rw [SpiStrip.ledStripSpiSetPixelRgbw, if_pos inside, if_neg (by decide)]
            exact Holds.answer shows espErrInvalidArg
        | grbw =>
            simp only [shows.ledStripSpiSetPixelRgbw_eq inside]
            exact Holds.setPixel shows inside _
      · rw [SpiStrip.ledStripSpiSetPixelRgbw, if_neg inside]
        exact Holds.refuse_outside shows inside _
  | refresh answer => exact shows.refresh answer
  | clear answer =>
      have filled := Holds.fill shows (some Pixel.black)
      rw [← shows.clear_eq] at filled
      exact SpiStrip.Shows.refresh filled answer

end SpiStrip.Shows

/-! ## What the LEDs read -/

/-- The pixels that the LEDs of a strip take from the pulses of a frame. -/
def readSpiFrame (size : SpiSize format) (frame : List UInt8) : Option (List (Pixel format)) :=
  (spiPixelCode format).decodeMany size.maxLeds.toNat frame

/-- The LEDs show what the strip has been told, unless a pixel has never been set. Then they
cannot read the frame. -/
theorem spi_frames (size : SpiSize format) (calls : List (StripCall Int)) :
    (run (spiStep size) (ledStripNewSpiDevice size) calls).map
        (fun strip => (strip.sent.map (readSpiFrame size), strip.returned)) =
      (run (panelStep some size.toStripSize) (Panel.start size.toStripSize none)
        (calls.map (StripCall.map spiOutcome))).map fun panel =>
          (panel.shown.map (List.mapM id), panel.returned) := by
  apply run_observed (StripCall.map spiOutcome)
    (fun _ _ call shows => SpiStrip.Shows.step shows call)
  · intro strip panel shows
    apply Holds.observed shows
    intro pixels all
    rw [readSpiFrame, ← all]
    exact BlockCode.decodeMany_withBlank _ (no_pulses format) pixels
  · exact spi_shows_start size

/-! ## The two drivers -/

/-- Hardware that answers both drivers in the same way. -/
structure BothAnswers (size : SpiSize format) where
  rmt : RmtAnswers size.toStripSize
  spi : Int
  same : rmt.outcome = spiOutcome spi

/-- What a new RMT strip has for a pixel. -/
def orBlack (light : Option (Pixel format)) : Pixel format :=
  light.getD Pixel.black

theorem mapM_id_eq_iff (lights : List (Option (Pixel format))) :
    some (lights.map orBlack) = lights.mapM id ↔ none ∉ lights := by
  induction lights with
  | nil => simp
  | cons light lights induction =>
      cases light with
      | none => simp [List.mapM_cons]
      | some pixel =>
          rw [List.mem_cons, not_or, ← induction, List.mapM_cons]
          cases lights.mapM id <;> simp [orBlack]

/-- Answers that come to the same leave the same calls. -/
theorem calls_outcome (size : SpiSize format) (calls : List (StripCall (BothAnswers size))) :
    (calls.map (StripCall.map BothAnswers.rmt)).map (StripCall.map RmtAnswers.outcome) =
      (calls.map (StripCall.map BothAnswers.spi)).map (StripCall.map spiOutcome) := by
  rw [List.map_map, List.map_map]
  apply List.map_congr_left
  intro call _
  cases call with
  | setPixel index red green blue => rfl
  | setPixelRgbw index red green blue white => rfl
  | refresh answers => exact congrArg StripCall.refresh answers.same
  | clear answers => exact congrArg StripCall.clear answers.same

/-- The panel of an RMT strip shows black for the pixels that the other has not. -/
theorem run_orBlack (size : StripSize format) (calls : List (StripCall Outcome)) :
    run (panelStep id size) (Panel.start size Pixel.black) calls =
      (run (panelStep some size) (Panel.start size none) calls).map (Panel.map orBlack) := by
  have start : (Panel.start size none).map orBlack =
      Panel.start size (Pixel.black : Pixel format) := by
    simp [Panel.start, Panel.map, orBlack]
  rw [run_panel_map, start]
  rfl

/-- The panel of the SPI strip after some calls. -/
def spiPanel (size : SpiSize format) (calls : List (StripCall (BothAnswers size))) :
    Option (Panel (Option (Pixel format))) :=
  run (panelStep some size.toStripSize) (Panel.start size.toStripSize none)
    ((calls.map (StripCall.map BothAnswers.spi)).map (StripCall.map spiOutcome))

/-- At a resolution at which all pulses take a tick, the same calls show the same frames on
strips of both kinds exactly when every pixel has been set before a frame is sent. -/
theorem drivers_agree_iff {config : LedStripEncoderConfig}
    (resolution : 3333334 ≤ config.resolution.toNat) (encoders : RmtEncoders config)
    (size : SpiSize format) (calls : List (StripCall (BothAnswers size))) :
    (run rmtStep (ledStripNewRmtDevice encoders size.toStripSize)
        (calls.map (StripCall.map BothAnswers.rmt))).map
          (fun strip => (strip.sent.map (readFrame size.toStripSize), strip.returned)) =
      (run (spiStep size) (ledStripNewSpiDevice size)
        (calls.map (StripCall.map BothAnswers.spi))).map
          (fun strip => (strip.sent.map (readSpiFrame size), strip.returned)) ↔
    ∀ panel ∈ spiPanel size calls, ∀ pixels ∈ panel.shown, none ∉ pixels := by
  have shows : ShowsPanel encoders size.toStripSize :=
    showsPanel_of_readable (Or.inr resolution) encoders
  have rmt := shows (calls.map (StripCall.map BothAnswers.rmt))
  rw [rmt, spi_frames, calls_outcome, run_orBlack, ← spiPanel, Option.map_map]
  cases spiPanel size calls with
  | none => simp
  | some panel =>
      simp [Panel.map, mapM_id_eq_iff]

def SpiSize.one : SpiSize .grb where
  toStripSize := StripSize.one .grb
  bits_fit := by decide

/-- Hardware that finds no error. -/
def BothAnswers.good (size : SpiSize format) : BothAnswers size where
  rmt := RmtAnswers.good _
  spi := 0
  same := rfl

/-- Without a pixel set, a refresh shows black on one strip and nothing on the other. -/
theorem drivers_differ_when_new :
    (run rmtStep
        (ledStripNewRmtDevice (RmtEncoders.counting (stripEncoderConf 0 .ws2812))
          SpiSize.one.toStripSize)
        [.refresh (RmtAnswers.good _)]).map
          (fun strip =>
            (strip.sent.map (readFrame SpiSize.one.toStripSize), strip.returned)) ≠
      (run (spiStep SpiSize.one) (ledStripNewSpiDevice SpiSize.one) [.refresh 0]).map
          (fun strip => (strip.sent.map (readSpiFrame SpiSize.one), strip.returned)) := by
  intro same
  have agree := drivers_agree_iff (by decide)
    (RmtEncoders.counting (stripEncoderConf 0 .ws2812)) SpiSize.one
    [.refresh (BothAnswers.good SpiSize.one)]
  have member : none ∈ [(none : Option (Pixel .grb))] := List.mem_singleton.mpr rfl
  exact agree.mp same _ rfl [none] (List.mem_singleton.mpr rfl) member

end BleMesh.LedStrip
