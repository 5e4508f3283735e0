import BleMesh.Foundation.BlockCode
import BleMesh.Foundation.Execution

/-! # What an LED strip is for

The drivers of an LED strip keep the bytes of its pixels in a buffer and send the whole buffer
to refresh the strip. A panel changes single pixels and shows all of them at once.
-/

namespace BleMesh.LedStrip

open Foundation Foundation.Execution

/-! ## Pixels -/

/-- `led_pixel_format_t`. -/
inductive PixelFormat
  | grb
  | grbw
  deriving DecidableEq

def PixelFormat.bytesPerPixel : PixelFormat → Nat
  | .grb => 3
  | .grbw => 4

theorem bytesPerPixel_toNat (format : PixelFormat) :
    (UInt32.ofNat format.bytesPerPixel).toNat = format.bytesPerPixel := by
  cases format <;> rfl

/-- A pixel of a strip. Without a white LED there is no white. -/
@[ext] structure Pixel (format : PixelFormat) where
  red : UInt8
  green : UInt8
  blue : UInt8
  white : UInt8
  white_zero : format = .grb → white = 0
  deriving DecidableEq

def Pixel.black {format : PixelFormat} : Pixel format where
  red := 0
  green := 0
  blue := 0
  white := 0
  white_zero _ := rfl

def Pixel.bytes : {format : PixelFormat} → Pixel format → List UInt8
  | .grb, pixel => [pixel.green, pixel.red, pixel.blue]
  | .grbw, pixel => [pixel.green, pixel.red, pixel.blue, pixel.white]

/-- What an LED makes of the bytes it reads. -/
def Pixel.ofBytes : (format : PixelFormat) → List UInt8 → Option (Pixel format)
  | .grb, [green, red, blue] =>
      some { red, green, blue, white := 0, white_zero := fun _ => rfl }
  | .grbw, [green, red, blue, white] =>
      some { red, green, blue, white, white_zero := fun same => by cases same }
  | _, _ => none

def pixelCode (format : PixelFormat) : BlockCode (Pixel format) UInt8 where
  width := format.bytesPerPixel
  encode := Pixel.bytes
  decode := Pixel.ofBytes format
  length_encode pixel := by cases format <;> rfl
  decode_encode pixel := by
    cases format with
    | grb =>
        rcases pixel with ⟨red, green, blue, white, zero⟩
        cases zero rfl
        rfl
    | grbw => rfl

/-- The low bytes of three values. -/
def Pixel.rgb {format : PixelFormat} (red green blue : UInt32) : Pixel format where
  red := red.toUInt8
  green := green.toUInt8
  blue := blue.toUInt8
  white := 0
  white_zero _ := rfl

def Pixel.rgbw (red green blue white : UInt32) : Pixel .grbw where
  red := red.toUInt8
  green := green.toUInt8
  blue := blue.toUInt8
  white := white.toUInt8
  white_zero same := by cases same

/-- A strip without white LEDs takes no white. -/
def whitePixel (format : PixelFormat) (red green blue white : UInt32) : Option (Pixel format) :=
  match format with
  | .grb => none
  | .grbw => some (Pixel.rgbw red green blue white)

/-! ## Calls -/

/-- The size of a strip. Its pixels fit into memory. -/
structure StripSize (format : PixelFormat) where
  maxLeds : UInt32
  fits : maxLeds.toNat * format.bytesPerPixel < UInt32.size

def StripSize.bytes {format : PixelFormat} (size : StripSize format) : Nat :=
  size.maxLeds.toNat * format.bytesPerPixel

def espErrInvalidArg : Int := 0x102

/-- The calls of `led_strip_api.c`, with the answers that the hardware gives to a refresh. -/
inductive StripCall (Answers : Type)
  | setPixel (index red green blue : UInt32)
  | setPixelRgbw (index red green blue white : UInt32)
  | refresh (answers : Answers)
  | clear (answers : Answers)

def StripCall.map {Answers Other : Type} (translate : Answers → Other) :
    StripCall Answers → StripCall Other
  | .setPixel index red green blue => .setPixel index red green blue
  | .setPixelRgbw index red green blue white => .setPixelRgbw index red green blue white
  | .refresh answers => .refresh (translate answers)
  | .clear answers => .clear (translate answers)

/-- What the answers come to: whether the buffer is sent, and the value returned. -/
structure Outcome where
  sends : Bool
  code : Int

/-! ## The panel -/

/-- The pixels in the lights a panel has for them, with those shown for each refresh and the
values returned. -/
structure Panel (Light : Type) where
  pixels : List Light
  shown : List (List Light)
  returned : List Int

namespace Panel

variable {Light : Type} {format : PixelFormat}

def start (size : StripSize format) (light : Light) : Panel Light where
  pixels := List.replicate size.maxLeds.toNat light
  shown := []
  returned := []

def refresh (panel : Panel Light) (outcome : Outcome) : Panel Light :=
  { panel with
    shown := if outcome.sends then panel.shown ++ [panel.pixels] else panel.shown
    returned := panel.returned ++ [outcome.code] }

def refuse (panel : Panel Light) : Panel Light :=
  { panel with returned := panel.returned ++ [espErrInvalidArg] }

/-- A pixel is changed, or the call is refused. -/
def setPixel (panel : Panel Light) (size : StripSize format) (index : UInt32)
    (light : Option Light) : Panel Light :=
  match light with
  | none => panel.refuse
  | some light =>
      if index < size.maxLeds then
        { panel with
          pixels := panel.pixels.set index.toNat light
          returned := panel.returned ++ [0] }
      else panel.refuse

def fill (panel : Panel Light) (size : StripSize format) (light : Light) : Panel Light :=
  { panel with pixels := List.replicate size.maxLeds.toNat light }

end Panel

def panelStep {Light : Type} {format : PixelFormat} (light : Pixel format → Light)
    (size : StripSize format) (panel : Panel Light) : StripCall Outcome → Option (Panel Light)
  | .setPixel index red green blue =>
      some (panel.setPixel size index (some (light (Pixel.rgb red green blue))))
  | .setPixelRgbw index red green blue white =>
      some (panel.setPixel size index ((whitePixel format red green blue white).map light))
  | .refresh outcome => some (panel.refresh outcome)
  | .clear outcome => some ((panel.fill size (light Pixel.black)).refresh outcome)

/-- The same panel with other lights. -/
def Panel.map {Light Other : Type} (change : Light → Other) (panel : Panel Light) :
    Panel Other where
  pixels := panel.pixels.map change
  shown := panel.shown.map (List.map change)
  returned := panel.returned

theorem panelStep_map {Light Other : Type} {format : PixelFormat}
    (light : Pixel format → Light) (change : Light → Other) (size : StripSize format)
    (panel : Panel Light) (call : StripCall Outcome) :
    (panelStep light size panel call).map (Panel.map change) =
      panelStep (fun pixel => change (light pixel)) size (panel.map change) call := by
  have setPixel : ∀ index color, (panel.setPixel size index color).map change =
      (panel.map change).setPixel size index (color.map change) := by
    intro index color
    cases color with
    | none => rfl
    | some color =>
        rw [Option.map_some, Panel.setPixel, Panel.setPixel]
        split
        · simp [Panel.map]
        · rfl
  have refresh : ∀ (panel : Panel Light) outcome,
      (panel.refresh outcome).map change = (panel.map change).refresh outcome := by
    intro panel outcome
    rw [Panel.refresh, Panel.refresh]
    cases outcome.sends <;> simp [Panel.map]
  have fill : ∀ color, (panel.fill size color).map change =
      (panel.map change).fill size (change color) := by
    intro color
    simp [Panel.fill, Panel.map]
  cases call with
  | setPixel index red green blue => exact congrArg some (setPixel index _)
  | setPixelRgbw index red green blue white =>
      rw [panelStep, panelStep, Option.map_some, setPixel, Option.map_map]
      rfl
  | refresh outcome => exact congrArg some (refresh panel outcome)
  | clear outcome => rw [panelStep, panelStep, Option.map_some, refresh, fill]

/-- Panels with other lights go through the same runs. -/
theorem run_panel_map {Light Other : Type} {format : PixelFormat}
    (light : Pixel format → Light) (change : Light → Other) (size : StripSize format)
    (calls : List (StripCall Outcome)) (panel : Panel Light) :
    (run (panelStep light size) panel calls).map (Panel.map change) =
      run (panelStep (fun pixel => change (light pixel)) size) (panel.map change) calls := by
  have simulates : ∀ (panel : Panel Light) (call : StripCall Outcome), True →
      (panelStep light size panel call).map (Panel.map change) =
        run (panelStep (fun pixel => change (light pixel)) size) (panel.map change) [call] := by
    intro panel call _
    rw [run, ← panelStep_map]
    cases panelStep light size panel call <;> rfl
  have runs : (run (panelStep light size) panel calls).map (Panel.map change) =
      run (panelStep (fun pixel => change (light pixel)) size) (panel.map change)
        (calls.flatMap fun call => [call]) :=
    run_map_of_simulation _ _ (fun _ _ _ _ _ => trivial) simulates calls trivial
  rwa [List.flatMap_singleton'] at runs

/-! ## Buffers that hold a panel -/

/-- What the drivers have in common, with the frames that have been sent and the values
returned. -/
structure StripBuffer (Frame : Type) where
  pixelBuf : List UInt8
  sent : List Frame
  returned : List Int

section

variable {Light Frame : Type} {format : PixelFormat}

/-- The buffer holds the panel's pixels, and what has been sent are the frames shown. -/
structure Holds (code : BlockCode Light UInt8) (frame : List Light → Frame)
    (size : StripSize format) (buffer : StripBuffer Frame) (panel : Panel Light) : Prop where
  pixelBuf : buffer.pixelBuf = code.encodeAll panel.pixels
  pixels : panel.pixels.length = size.maxLeds.toNat
  sent : buffer.sent = panel.shown.map frame
  shown : ∀ pixels ∈ panel.shown, pixels.length = size.maxLeds.toNat
  returned : buffer.returned = panel.returned

namespace Holds

variable {code : BlockCode Light UInt8} {frame : List Light → Frame} {size : StripSize format}
  {buffer : StripBuffer Frame} {panel : Panel Light}

theorem start (code : BlockCode Light UInt8) (frame : List Light → Frame)
    (size : StripSize format) (light : Light) :
    Holds code frame size
      { pixelBuf := code.encodeAll (List.replicate size.maxLeds.toNat light)
        sent := []
        returned := [] } (Panel.start size light) where
  pixelBuf := rfl
  pixels := List.length_replicate
  sent := rfl
  shown _ member := by cases member
  returned := rfl

theorem length_buffer (holds : Holds code frame size buffer panel) :
    buffer.pixelBuf.length = size.maxLeds.toNat * code.width := by
  rw [holds.pixelBuf, BlockCode.length_encodeAll, holds.pixels]

/-- Writing the bytes of a pixel over those of the old one. -/
theorem write (holds : Holds code frame size buffer panel) {index : UInt32}
    (inside : index < size.maxLeds) (light : Light) :
    Holds code frame size
      { buffer with
        pixelBuf := writeFrom buffer.pixelBuf (index.toNat * code.width) (code.encode light) }
      { panel with pixels := panel.pixels.set index.toNat light } := by
  have below : index.toNat < panel.pixels.length := by
    rw [holds.pixels]
    exact UInt32.lt_iff_toNat_lt.mp inside
  have written := code.writeFrom_encodeAll below light
  rw [← holds.pixelBuf] at written
  constructor
  · exact written
  · exact (List.length_set ..).trans holds.pixels
  · exact holds.sent
  · exact holds.shown
  · exact holds.returned

theorem fill (holds : Holds code frame size buffer panel) (light : Light) :
    Holds code frame size
      { buffer with pixelBuf := code.encodeAll (List.replicate size.maxLeds.toNat light) }
      (panel.fill size light) :=
  ⟨rfl, List.length_replicate, holds.sent, holds.shown, holds.returned⟩

theorem send (holds : Holds code frame size buffer panel) :
    Holds code frame size { buffer with sent := buffer.sent ++ [frame panel.pixels] }
      { panel with shown := panel.shown ++ [panel.pixels] } := by
  constructor
  · exact holds.pixelBuf
  · exact holds.pixels
  · simp [holds.sent]
  · intro pixels member
    rcases List.mem_append.mp member with earlier | last
    · exact holds.shown pixels earlier
    · rw [List.mem_singleton.mp last]
      exact holds.pixels
  · exact holds.returned

theorem answer (holds : Holds code frame size buffer panel) (value : Int) :
    Holds code frame size { buffer with returned := buffer.returned ++ [value] }
      { panel with returned := panel.returned ++ [value] } :=
  ⟨holds.pixelBuf, holds.pixels, holds.sent, holds.shown, congrArg (· ++ [value]) holds.returned⟩

theorem setPixel (holds : Holds code frame size buffer panel) {index : UInt32}
    (inside : index < size.maxLeds) (light : Light) :
    Holds code frame size
      { buffer with
        pixelBuf := writeFrom buffer.pixelBuf (index.toNat * code.width) (code.encode light)
        returned := buffer.returned ++ [0] }
      (panel.setPixel size index (some light)) := by
  rw [Panel.setPixel, if_pos inside]
  exact (holds.write inside light).answer 0

/-- A call for a pixel outside the strip is refused, whatever the pixel. -/
theorem refuse_outside (holds : Holds code frame size buffer panel) {index : UInt32}
    (outside : ¬index < size.maxLeds) (light : Option Light) :
    Holds code frame size { buffer with returned := buffer.returned ++ [espErrInvalidArg] }
      (panel.setPixel size index light) := by
  cases light with
  | none => exact holds.answer espErrInvalidArg
  | some light =>
      rw [Panel.setPixel, if_neg outside]
      exact holds.answer espErrInvalidArg

theorem refresh (holds : Holds code frame size buffer panel) (outcome : Outcome) :
    Holds code frame size
      { buffer with
        sent := if outcome.sends then buffer.sent ++ [frame panel.pixels] else buffer.sent
        returned := buffer.returned ++ [outcome.code] }
      (panel.refresh outcome) := by
  rw [Panel.refresh]
  cases outcome.sends with
  | false => exact holds.answer outcome.code
  | true => exact holds.send.answer outcome.code

/-- What is read off the frames is what they mean for the pixels of the panel. -/
theorem observed (holds : Holds code frame size buffer panel) {Reading : Type}
    {read : Frame → Reading} {meaning : List Light → Reading}
    (reads : ∀ pixels, pixels.length = size.maxLeds.toNat → read (frame pixels) = meaning pixels) :
    (buffer.sent.map read, buffer.returned) = (panel.shown.map meaning, panel.returned) := by
  have frames : buffer.sent.map read = panel.shown.map meaning := by
    rw [holds.sent, List.map_map]
    apply List.map_congr_left
    intro pixels member
    exact reads pixels (holds.shown pixels member)
  rw [frames, holds.returned]

end Holds

end

theorem lowByte (value : UInt32) : (value &&& 0xFF).toUInt8 = value.toUInt8 := by
  rw [UInt32.toUInt8_and]
  exact UInt8.and_neg_one

end BleMesh.LedStrip
