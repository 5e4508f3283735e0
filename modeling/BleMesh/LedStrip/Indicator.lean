import BleMesh.LedStrip.RmtStrip

/-! # The provisioning indicator

`BLE_mesh_prov_indicator.c` shows on one LED how far the provisioning of the node has come. Each
of its functions clears the LED and then lights it in one colour. An error stops the program.
-/

namespace BleMesh.LedStrip

open Foundation Foundation.Execution

/-! ## The LED -/

/-- `indicator_led_strip_config` and `indicator_led_rmt_config`. -/
def indicatorConfig : LedStripEncoderConfig := stripEncoderConf (10 * 1000 * 1000) .ws2812

abbrev indicatorSize : StripSize .grb := StripSize.one .grb

/-- The static handle, with the frames sent on strips that it has replaced and the values that
`BLE_mesh_indicator_init` has returned. -/
structure Indicator (encoders : RmtEncoders indicatorConfig) where
  indicatorLedStripHandle : Option (RmtStrip encoders indicatorSize)
  earlier : List (List RmtSymbol)
  returned : List Int

namespace Indicator

variable {encoders : RmtEncoders indicatorConfig}

def initial (encoders : RmtEncoders indicatorConfig) : Indicator encoders where
  indicatorLedStripHandle := none
  earlier := []
  returned := []

def frames (indicator : Indicator encoders) : List (List RmtSymbol) :=
  indicator.earlier ++ (indicator.indicatorLedStripHandle.elim [] fun strip => strip.sent)

end Indicator

/-- `ESP_ERROR_CHECK`, which stops the program. -/
def espErrorCheck {Strip : Type} (result : Int × Strip) : Option Strip :=
  if result.1 = 0 then some result.2 else none

section

variable {encoders : RmtEncoders indicatorConfig}

/-- What the three functions do, each with a colour of its own. -/
def indicate (red green blue : UInt32) (strip : RmtStrip encoders indicatorSize)
    (cleared refreshed : RmtAnswers indicatorSize) : Option (RmtStrip encoders indicatorSize) :=
  ((strip.ledStripRmtClear cleared).bind espErrorCheck).bind fun strip =>
    (espErrorCheck (strip.ledStripRmtSetPixel 0 red green blue)).bind fun strip =>
      (strip.ledStripRmtRefresh refreshed).bind espErrorCheck

/-- `BLE_mesh_indicator_init`. The first answer is that of `led_strip_new_rmt_device`. -/
def bleMeshIndicatorInit (indicator : Indicator encoders) (made : Int)
    (cleared refreshed : RmtAnswers indicatorSize) : Option (Indicator encoders) :=
  if 0 = made then
    (indicate 255 0 0 (ledStripNewRmtDevice encoders indicatorSize) cleared refreshed).map
      fun strip =>
        { indicatorLedStripHandle := some strip
          earlier := indicator.frames
          returned := indicator.returned ++ [0] }
  else some { indicator with returned := indicator.returned ++ [-1] }

/-- `BLE_mesh_prov_link_open_indicate` and `BLE_mesh_prov_complete_indicate` up to the colour. -/
def Indicator.showColor (indicator : Indicator encoders) (red green blue : UInt32)
    (cleared refreshed : RmtAnswers indicatorSize) : Option (Indicator encoders) :=
  match indicator.indicatorLedStripHandle with
  | none => some indicator
  | some strip =>
      (indicate red green blue strip cleared refreshed).map fun strip =>
        { indicator with indicatorLedStripHandle := some strip }

def bleMeshProvLinkOpenIndicate (indicator : Indicator encoders)
    (cleared refreshed : RmtAnswers indicatorSize) : Option (Indicator encoders) :=
  indicator.showColor 0 0 255 cleared refreshed

def bleMeshProvCompleteIndicate (indicator : Indicator encoders)
    (cleared refreshed : RmtAnswers indicatorSize) : Option (Indicator encoders) :=
  indicator.showColor 0 255 0 cleared refreshed

end

/-- The calls of the indicator, with what the driver of the channel answers. -/
inductive IndicatorCall
  | init (made : Int) (cleared refreshed : RmtAnswers indicatorSize)
  | linkOpen (cleared refreshed : RmtAnswers indicatorSize)
  | complete (cleared refreshed : RmtAnswers indicatorSize)

def indicatorStep {encoders : RmtEncoders indicatorConfig} (indicator : Indicator encoders) :
    IndicatorCall → Option (Indicator encoders)
  | .init made cleared refreshed => bleMeshIndicatorInit indicator made cleared refreshed
  | .linkOpen cleared refreshed => bleMeshProvLinkOpenIndicate indicator cleared refreshed
  | .complete cleared refreshed => bleMeshProvCompleteIndicate indicator cleared refreshed

/-! ## The lamp -/

/-- A lamp that is dark until it is switched on, with the colours shown. -/
structure Lamp where
  on : Bool
  shown : List (Pixel .grb)
  returned : List Int

def Lamp.initial : Lamp where
  on := false
  shown := []
  returned := []

/-- The lamp goes dark and then shows the colour. -/
def Lamp.showColor (lamp : Lamp) (color : Pixel .grb) (cleared refreshed : RmtAnswers indicatorSize) :
    Option Lamp :=
  if cleared.outcome.code = 0 ∧ refreshed.outcome.code = 0 then
    some { lamp with shown := lamp.shown ++ [Pixel.black, color] }
  else none

def lampStep (lamp : Lamp) : IndicatorCall → Option Lamp
  | .init made cleared refreshed =>
      if made = 0 then
        (lamp.showColor (Pixel.rgb 255 0 0) cleared refreshed).map fun lamp =>
          { lamp with on := true, returned := lamp.returned ++ [0] }
      else some { lamp with returned := lamp.returned ++ [-1] }
  | .linkOpen cleared refreshed =>
      if lamp.on then lamp.showColor (Pixel.rgb 0 0 255) cleared refreshed else some lamp
  | .complete cleared refreshed =>
      if lamp.on then lamp.showColor (Pixel.rgb 0 255 0) cleared refreshed else some lamp

/-! ## One call -/

section

variable {encoders : RmtEncoders indicatorConfig} {strip : RmtStrip encoders indicatorSize}
  {panel : Panel (Pixel .grb)}

/-- A call that the program goes on after has sent the frame. -/
def Panel.sent (panel : Panel (Pixel .grb)) (answers : RmtAnswers indicatorSize) :
    Option (Panel (Pixel .grb)) :=
  if answers.outcome.code = 0 then some { panel with shown := panel.shown ++ [panel.pixels] }
  else none

theorem RmtStrip.Shows.refresh_checked (shows : strip.Shows panel)
    (answers : RmtAnswers indicatorSize) :
    Option.Rel RmtStrip.Shows ((strip.ledStripRmtRefresh answers).bind espErrorCheck)
      (panel.sent answers) := by
  rcases shows.ledStripRmtRefresh_eq answers with ⟨final, ready, refreshed⟩
  rw [refreshed, Option.bind_some, espErrorCheck, Panel.sent]
  by_cases succeeds : answers.outcome.code = 0
  · have sends : answers.outcome.sends = true := by
      rw [RmtAnswers.outcome] at succeeds ⊢
      grind
    rw [if_pos succeeds, if_pos succeeds, if_pos sends]
    exact Option.Rel.some ⟨shows.holds.send, ready⟩
  · rw [if_neg succeeds, if_neg succeeds]
    exact Option.Rel.none

theorem RmtStrip.Shows.clear_checked (shows : strip.Shows panel)
    (answers : RmtAnswers indicatorSize) :
    Option.Rel RmtStrip.Shows ((strip.ledStripRmtClear answers).bind espErrorCheck)
      ((panel.fill indicatorSize Pixel.black).sent answers) := by
  apply RmtStrip.Shows.refresh_checked
  exact shows.cleared

theorem RmtStrip.Shows.setPixel_checked (shows : strip.Shows panel) (red green blue : UInt32) :
    Option.Rel RmtStrip.Shows (espErrorCheck (strip.ledStripRmtSetPixel 0 red green blue))
      (some { panel with pixels := panel.pixels.set 0 (Pixel.rgb red green blue) }) := by
  have inside : 0 < indicatorSize.maxLeds := by decide
  rw [ledStripRmtSetPixel_eq strip inside]
  exact Option.Rel.some ⟨shows.holds.write inside _, shows.ready⟩

/-- The LED goes dark and then shows the colour, if the program goes on. -/
theorem RmtStrip.Shows.indicate (shows : strip.Shows panel) (red green blue : UInt32)
    (cleared refreshed : RmtAnswers indicatorSize) :
    Option.Rel RmtStrip.Shows (indicate red green blue strip cleared refreshed)
      (if cleared.outcome.code = 0 ∧ refreshed.outcome.code = 0 then
        some { panel with
          pixels := [Pixel.rgb red green blue]
          shown := panel.shown ++ [[Pixel.black]] ++ [[Pixel.rgb red green blue]] }
      else none) := by
  have calls := rel_bind (shows.clear_checked cleared) fun strip panel shows =>
    rel_bind (shows.setPixel_checked red green blue) fun strip panel shows =>
      shows.refresh_checked refreshed
  have shown : ((panel.fill indicatorSize Pixel.black).sent cleared).bind (fun panel =>
      (some { panel with pixels := panel.pixels.set 0 (Pixel.rgb red green blue) }).bind
        fun panel => panel.sent refreshed) =
      if cleared.outcome.code = 0 ∧ refreshed.outcome.code = 0 then
        some { panel with
          pixels := [Pixel.rgb red green blue]
          shown := panel.shown ++ [[Pixel.black]] ++ [[Pixel.rgb red green blue]] }
      else none := by
    rw [Panel.sent]
    by_cases first : cleared.outcome.code = 0
    · rw [if_pos first, Option.bind_some, Option.bind_some, Panel.sent]
      by_cases second : refreshed.outcome.code = 0
      · rw [if_pos second, if_pos ⟨first, second⟩]
        rfl
      · rw [if_neg second, if_neg fun both => second both.2]
    · rw [if_neg first, if_neg fun both => first both.1]
      rfl
  rw [← shown]
  exact calls

/-- The frames that show single colours. -/
def colorFrames (colors : List (Pixel .grb)) : List (List RmtSymbol) :=
  colors.map fun color => frameSymbols indicatorConfig [color]

/-- A strip that shows a panel has sent, after earlier frames, those of the lamp. -/
structure Lights (earlier : List (List RmtSymbol)) (strip : RmtStrip encoders indicatorSize)
    (lamp : Lamp) : Prop where
  shows : ∃ panel, strip.Shows panel
  frames : earlier ++ strip.sent = colorFrames lamp.shown

theorem Lights.showColor {earlier : List (List RmtSymbol)} {lamp : Lamp}
    (lights : Lights earlier strip lamp) (red green blue : UInt32)
    (cleared refreshed : RmtAnswers indicatorSize) :
    Option.Rel (fun next lampNext => Lights earlier next lampNext ∧ lampNext.on = lamp.on ∧
        lampNext.returned = lamp.returned)
      (indicate red green blue strip cleared refreshed)
      (lamp.showColor (Pixel.rgb red green blue) cleared refreshed) := by
  rcases lights.shows with ⟨panel, shows⟩
  have indicated := shows.indicate red green blue cleared refreshed
  rw [Lamp.showColor]
  by_cases goesOn : cleared.outcome.code = 0 ∧ refreshed.outcome.code = 0
  · rw [if_pos goesOn] at indicated ⊢
    cases result : LedStrip.indicate red green blue strip cleared refreshed with
    | none =>
        rw [result] at indicated
        cases indicated
    | some next =>
        rw [result] at indicated
        cases indicated with
        | some showsNext =>
            have sent : next.sent = strip.sent ++
                colorFrames [Pixel.black, Pixel.rgb red green blue] := by
              rw [showsNext.holds.sent, shows.holds.sent, List.map_append, List.map_append,
                List.append_assoc]
              rfl
            have frames : earlier ++ next.sent =
                colorFrames (lamp.shown ++ [Pixel.black, Pixel.rgb red green blue]) := by
              rw [sent, ← List.append_assoc, lights.frames]
              exact (List.map_append ..).symm
            exact Option.Rel.some ⟨⟨⟨_, showsNext⟩, frames⟩, rfl, rfl⟩
  · rw [if_neg goesOn] at indicated ⊢
    generalize LedStrip.indicate red green blue strip cleared refreshed = result at indicated ⊢
    cases indicated
    exact Option.Rel.none

/-- The lamp is on when the handle is set, and the frames of the indicator show its colours. -/
structure Indicates (indicator : Indicator encoders) (lamp : Lamp) : Prop where
  on : lamp.on = indicator.indicatorLedStripHandle.isSome
  strip : ∀ strip ∈ indicator.indicatorLedStripHandle, Lights indicator.earlier strip lamp
  frames : indicator.frames = colorFrames lamp.shown
  returned : indicator.returned = lamp.returned

namespace Indicates

variable {indicator : Indicator encoders} {lamp : Lamp}

theorem init (indicates : Indicates indicator lamp) (made : Int)
    (cleared refreshed : RmtAnswers indicatorSize) :
    Option.Rel Indicates (bleMeshIndicatorInit indicator made cleared refreshed)
      (lampStep lamp (.init made cleared refreshed)) := by
  rw [bleMeshIndicatorInit, lampStep]
  by_cases succeeds : made = 0
  · have new : Lights indicator.frames (ledStripNewRmtDevice encoders indicatorSize) lamp :=
      ⟨⟨_, shows_start encoders indicatorSize⟩,
        (List.append_nil _).trans indicates.frames⟩
    rw [if_pos succeeds.symm, if_pos succeeds, Option.map_eq_bind, Option.map_eq_bind]
    apply rel_bind (new.showColor 255 0 0 cleared refreshed)
    rintro next lampNext ⟨lights, -, returned⟩
    apply Option.Rel.some
    constructor
    · rfl
    · intro strip member
      cases member
      exact ⟨lights.shows, lights.frames⟩
    · exact lights.frames
    · exact congrArg (· ++ [0]) (indicates.returned.trans returned.symm)
  · rw [if_neg fun same => succeeds same.symm, if_neg succeeds]
    apply Option.Rel.some
    exact ⟨indicates.on, fun strip member =>
      ⟨(indicates.strip strip member).shows, (indicates.strip strip member).frames⟩,
      indicates.frames, congrArg (· ++ [-1]) indicates.returned⟩

theorem showColor (indicates : Indicates indicator lamp) (red green blue : UInt32)
    (cleared refreshed : RmtAnswers indicatorSize) :
    Option.Rel Indicates (indicator.showColor red green blue cleared refreshed)
      (if lamp.on then lamp.showColor (Pixel.rgb red green blue) cleared refreshed
      else some lamp) := by
  have on := indicates.on
  rw [Indicator.showColor]
  cases handle : indicator.indicatorLedStripHandle with
  | none =>
      rw [handle] at on
      rw [on]
      exact Option.Rel.some indicates
  | some strip =>
      rw [handle] at on
      have lit : lamp.on = true := on
      rw [if_pos lit, ← Option.bind_fun_some (lamp.showColor _ _ _)]
      simp only [Option.map_eq_bind]
      apply rel_bind ((indicates.strip strip handle).showColor red green blue cleared refreshed)
      rintro next lampNext ⟨lights, stays, returned⟩
      apply Option.Rel.some
      constructor
      · exact stays.trans on
      · intro strip member
        cases member
        exact lights
      · exact lights.frames
      · exact indicates.returned.trans returned.symm

theorem step (indicates : Indicates indicator lamp) (call : IndicatorCall) :
    Option.Rel Indicates (indicatorStep indicator call) (lampStep lamp call) := by
  cases call with
  | init made cleared refreshed => exact indicates.init made cleared refreshed
  | linkOpen cleared refreshed => exact indicates.showColor 0 0 255 cleared refreshed
  | complete cleared refreshed => exact indicates.showColor 0 255 0 cleared refreshed

end Indicates

end

/-- Over any run of its functions, the LED of the indicator shows what the lamp shows, and the
program stops where the lamp does. -/
theorem indicator_shows_lamp (encoders : RmtEncoders indicatorConfig)
    (calls : List IndicatorCall) :
    (run indicatorStep (Indicator.initial encoders) calls).map (fun indicator =>
        (indicator.frames.map (readFrame indicatorSize), indicator.returned)) =
      (run lampStep Lamp.initial calls).map fun lamp =>
        (lamp.shown.map fun color => some [color], lamp.returned) := by
  have resolves : indicatorConfig.Resolves := by decide
  have observed : (run indicatorStep (Indicator.initial encoders) calls).map (fun indicator =>
        (indicator.frames.map (readFrame indicatorSize), indicator.returned)) =
      (run lampStep Lamp.initial (calls.map fun call => call)).map fun lamp =>
        (lamp.shown.map fun color => some [color], lamp.returned) := by
    apply run_observed (fun call => call)
      (fun _ _ call indicates => Indicates.step indicates call)
    · intro indicator lamp indicates
      have read : indicator.frames.map (readFrame indicatorSize) =
          lamp.shown.map fun color => some [color] := by
        rw [indicates.frames, colorFrames, List.map_map]
        apply List.map_congr_left
        intro color _
        exact readFrame_frameSymbols indicatorSize (Or.inr resolves) rfl
      rw [read, indicates.returned]
    · exact ⟨rfl, fun _ member => (by cases member), rfl, rfl⟩
  rwa [List.map_id'] at observed

end BleMesh.LedStrip
