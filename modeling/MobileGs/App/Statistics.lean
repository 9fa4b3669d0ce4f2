import MobileGs.Mavlink.Messages
import MobileGs.Station.EndToEnd
import MobileGs.Station.TelemetryPort

/-!
# Statistics and telemetry on the screen

The statistics thread hands a snapshot and the telemetry to the app. They go over as two flat
arrays, and each side has its own list of what stands where. The lists agree
(`onStats_statInts`): what the app shows is what the native side had, with the counters as 32-bit
integers and the scaled fields as `float`.

So the telemetry can be followed from the antenna to the screen. When the telemetry sink passes on
a stream of whole frames, cut into payloads in any way, the next round of the statistics thread
makes the app show what the messages of the stream reported, whatever else was heard and called
(`telemetry_survives`). The messages are untrimmed, and none of them is BATTERY_STATUS.
-/

set_option autoImplicit false

namespace MobileGs

namespace App

open Mavlink Station

/-! ## The two arrays -/

/-- `StatsInt`. The value of an enumerator is its place. -/
inductive StatsInt where
  | bestRssi
  | bestSnr
  | packetsAll
  | packetsLost
  | packetsRecovered
  | packetsBad
  | packetsDecryptErr
  | fecK
  | fecN
  | antennas
  | sessionEstablished
  | bytesAll
  | armed
  | gpsFix
  | satellites
  | intCount
  deriving DecidableEq, Repr

/-- `StatsFloat`. -/
inductive StatsFloat where
  | roll
  | pitch
  | yaw
  | latitude
  | longitude
  | altitude
  | relativeAltitude
  | groundSpeed
  | airSpeed
  | climb
  | heading
  | throttle
  | batteryVoltage
  | batteryCurrent
  | batteryRemaining
  | floatCount
  deriving DecidableEq, Repr

/-- Assignments to an array of zeros. -/
def fill {α : Type} (zero : α) (count : ℕ) (assignments : List (ℕ × α)) : List α :=
  assignments.foldl (fun array assignment => array.set assignment.1 assignment.2)
    (List.replicate count zero)

/-- The integers of `on_stats`, in `nativeStart`. -/
def statInts (snapshot : Wfb.LinkSnapshot) (telemetry : TelemetryState) : List Int32 :=
  fill 0 StatsInt.intCount.ctorIdx
    [(StatsInt.bestRssi.ctorIdx, snapshot.bestRssi),
      (StatsInt.bestSnr.ctorIdx, snapshot.bestSnr),
      (StatsInt.packetsAll.ctorIdx, Int32.ofNat snapshot.packetsAll),
      (StatsInt.packetsLost.ctorIdx, Int32.ofNat snapshot.packetsLost),
      (StatsInt.packetsRecovered.ctorIdx, Int32.ofNat snapshot.packetsFecRecovered),
      (StatsInt.packetsBad.ctorIdx, Int32.ofNat snapshot.packetsBad),
      (StatsInt.packetsDecryptErr.ctorIdx, Int32.ofNat snapshot.packetsDecryptErr),
      (StatsInt.fecK.ctorIdx, snapshot.fecK),
      (StatsInt.fecN.ctorIdx, snapshot.fecN),
      (StatsInt.antennas.ctorIdx, snapshot.numAntennas),
      (StatsInt.sessionEstablished.ctorIdx, if snapshot.sessionEstablished then 1 else 0),
      (StatsInt.bytesAll.ctorIdx, Int32.ofNat snapshot.bytesAll),
      (StatsInt.armed.ctorIdx, if telemetry.armed then 1 else 0),
      (StatsInt.gpsFix.ctorIdx, Int32.ofNat telemetry.gpsFixType.toNat),
      (StatsInt.satellites.ctorIdx, Int32.ofNat telemetry.satellites.toNat)]

/-- An integer over a constant, both of them made `float` first. -/
def scaled (value : Int32) (divisor : ℕ) : FloatBits :=
  Binary32.quotient (Binary32.nearest value.toInt) divisor

/-- The floats of `on_stats`. -/
def statFloats (telemetry : TelemetryState) : List FloatBits :=
  fill 0 StatsFloat.floatCount.ctorIdx
    [(StatsFloat.roll.ctorIdx, telemetry.rollRad),
      (StatsFloat.pitch.ctorIdx, telemetry.pitchRad),
      (StatsFloat.yaw.ctorIdx, telemetry.yawRad),
      (StatsFloat.latitude.ctorIdx, scaled telemetry.latitudeE7 10000000),
      (StatsFloat.longitude.ctorIdx, scaled telemetry.longitudeE7 10000000),
      (StatsFloat.altitude.ctorIdx, scaled telemetry.altitudeMm 1000),
      (StatsFloat.relativeAltitude.ctorIdx, scaled telemetry.relativeAltitudeMm 1000),
      (StatsFloat.groundSpeed.ctorIdx, telemetry.groundSpeedMs),
      (StatsFloat.airSpeed.ctorIdx, telemetry.airSpeedMs),
      (StatsFloat.climb.ctorIdx, telemetry.climbMs),
      (StatsFloat.heading.ctorIdx, telemetry.headingDeg),
      (StatsFloat.throttle.ctorIdx, Binary32.quotient telemetry.throttlePct.toNat 1),
      (StatsFloat.batteryVoltage.ctorIdx, telemetry.batteryVoltageV),
      (StatsFloat.batteryCurrent.ctorIdx, telemetry.batteryCurrentA),
      (StatsFloat.batteryRemaining.ctorIdx,
        Binary32.quotient telemetry.batteryRemainingPct.toInt 1)]

/-! ## The side of the app -/

structure LinkStats where
  bestRssi : Int32 := -105
  bestSnr : Int32 := 0
  packetsAll : Int32 := 0
  packetsLost : Int32 := 0
  packetsRecovered : Int32 := 0
  packetsBad : Int32 := 0
  packetsDecryptError : Int32 := 0
  fecK : Int32 := -1
  fecN : Int32 := -1
  antennas : Int32 := 0
  sessionEstablished : Bool := false
  bytesAll : Int32 := 0
  deriving DecidableEq

structure Telemetry where
  armed : Bool := false
  gpsFixType : Int32 := 0
  satellites : Int32 := 0
  rollRad : FloatBits := 0
  pitchRad : FloatBits := 0
  yawRad : FloatBits := 0
  latitude : FloatBits := 0
  longitude : FloatBits := 0
  altitudeM : FloatBits := 0
  relativeAltitudeM : FloatBits := 0
  groundSpeedMs : FloatBits := 0
  airSpeedMs : FloatBits := 0
  climbMs : FloatBits := 0
  headingDeg : FloatBits := 0
  throttlePct : FloatBits := 0
  batteryVolts : FloatBits := 0
  batteryAmps : FloatBits := 0
  /-- -1 in binary32 -/
  batteryRemainingPct : FloatBits := 0xbf800000
  deriving DecidableEq

namespace NativeStats

def statBestRssi : ℕ := 0
def statBestSnr : ℕ := 1
def statPacketsAll : ℕ := 2
def statPacketsLost : ℕ := 3
def statPacketsRecovered : ℕ := 4
def statPacketsBad : ℕ := 5
def statPacketsDecryptErr : ℕ := 6
def statFecK : ℕ := 7
def statFecN : ℕ := 8
def statAntennas : ℕ := 9
def statSession : ℕ := 10
def statBytesAll : ℕ := 11
def statArmed : ℕ := 12
def statGpsFix : ℕ := 13
def statSatellites : ℕ := 14

def statRoll : ℕ := 0
def statPitch : ℕ := 1
def statYaw : ℕ := 2
def statLatitude : ℕ := 3
def statLongitude : ℕ := 4
def statAltitude : ℕ := 5
def statRelativeAltitude : ℕ := 6
def statGroundSpeed : ℕ := 7
def statAirSpeed : ℕ := 8
def statClimb : ℕ := 9
def statHeading : ℕ := 10
def statThrottle : ℕ := 11
def statBatteryVoltage : ℕ := 12
def statBatteryCurrent : ℕ := 13
def statBatteryRemaining : ℕ := 14

end NativeStats

open NativeStats

/-- `Bridge.onStats`, unless an index is outside its array. -/
def onStats (ints : List Int32) (floats : List FloatBits) : Option (LinkStats × Telemetry) := do
  let stats : LinkStats :=
    { bestRssi := ← ints[statBestRssi]?
      bestSnr := ← ints[statBestSnr]?
      packetsAll := ← ints[statPacketsAll]?
      packetsLost := ← ints[statPacketsLost]?
      packetsRecovered := ← ints[statPacketsRecovered]?
      packetsBad := ← ints[statPacketsBad]?
      packetsDecryptError := ← ints[statPacketsDecryptErr]?
      fecK := ← ints[statFecK]?
      fecN := ← ints[statFecN]?
      antennas := ← ints[statAntennas]?
      sessionEstablished := (← ints[statSession]?) != 0
      bytesAll := ← ints[statBytesAll]? }
  let telemetry : Telemetry :=
    { armed := (← ints[statArmed]?) != 0
      gpsFixType := ← ints[statGpsFix]?
      satellites := ← ints[statSatellites]?
      rollRad := ← floats[statRoll]?
      pitchRad := ← floats[statPitch]?
      yawRad := ← floats[statYaw]?
      latitude := ← floats[statLatitude]?
      longitude := ← floats[statLongitude]?
      altitudeM := ← floats[statAltitude]?
      relativeAltitudeM := ← floats[statRelativeAltitude]?
      groundSpeedMs := ← floats[statGroundSpeed]?
      airSpeedMs := ← floats[statAirSpeed]?
      climbMs := ← floats[statClimb]?
      headingDeg := ← floats[statHeading]?
      throttlePct := ← floats[statThrottle]?
      batteryVolts := ← floats[statBatteryVoltage]?
      batteryAmps := ← floats[statBatteryCurrent]?
      batteryRemainingPct := ← floats[statBatteryRemaining]? }
  return (stats, telemetry)

/-! ## What comes out on the other side -/

/-- What the app should show of a snapshot. -/
def LinkStats.ofSnapshot (snapshot : Wfb.LinkSnapshot) : LinkStats where
  bestRssi := snapshot.bestRssi
  bestSnr := snapshot.bestSnr
  packetsAll := Int32.ofNat snapshot.packetsAll
  packetsLost := Int32.ofNat snapshot.packetsLost
  packetsRecovered := Int32.ofNat snapshot.packetsFecRecovered
  packetsBad := Int32.ofNat snapshot.packetsBad
  packetsDecryptError := Int32.ofNat snapshot.packetsDecryptErr
  fecK := snapshot.fecK
  fecN := snapshot.fecN
  antennas := snapshot.numAntennas
  sessionEstablished := snapshot.sessionEstablished
  bytesAll := Int32.ofNat snapshot.bytesAll

/-- What the app should show of the telemetry. -/
def Telemetry.ofState (telemetry : TelemetryState) : Telemetry where
  armed := telemetry.armed
  gpsFixType := Int32.ofNat telemetry.gpsFixType.toNat
  satellites := Int32.ofNat telemetry.satellites.toNat
  rollRad := telemetry.rollRad
  pitchRad := telemetry.pitchRad
  yawRad := telemetry.yawRad
  latitude := scaled telemetry.latitudeE7 10000000
  longitude := scaled telemetry.longitudeE7 10000000
  altitudeM := scaled telemetry.altitudeMm 1000
  relativeAltitudeM := scaled telemetry.relativeAltitudeMm 1000
  groundSpeedMs := telemetry.groundSpeedMs
  airSpeedMs := telemetry.airSpeedMs
  climbMs := telemetry.climbMs
  headingDeg := telemetry.headingDeg
  throttlePct := Binary32.quotient telemetry.throttlePct.toNat 1
  batteryVolts := telemetry.batteryVoltageV
  batteryAmps := telemetry.batteryCurrentA
  batteryRemainingPct := Binary32.quotient telemetry.batteryRemainingPct.toInt 1

/-- **The two sides agree on what stands where.** -/
theorem onStats_statInts (snapshot : Wfb.LinkSnapshot) (telemetry : TelemetryState) :
    onStats (statInts snapshot telemetry) (statFloats telemetry) =
      some (LinkStats.ofSnapshot snapshot, Telemetry.ofState telemetry) := by
  have flag : ∀ value : Bool, ((if value then 1 else 0 : Int32) != 0) = value := by decide
  have same : onStats (statInts snapshot telemetry) (statFloats telemetry) =
      some ({ LinkStats.ofSnapshot snapshot with
          sessionEstablished := (if snapshot.sessionEstablished then 1 else 0 : Int32) != 0 },
        { Telemetry.ofState telemetry with
          armed := (if telemetry.armed then 1 else 0 : Int32) != 0 }) := by
    simp only [statInts, statFloats, fill, StatsInt.ctorIdx, StatsFloat.ctorIdx, List.foldl_cons,
      List.foldl_nil, List.replicate_succ, List.replicate_zero, List.set_cons_succ,
      List.set_cons_zero]
    rfl
  rw [same, flag, flag]
  rfl

/-! ## Telemetry -/

/-- What a frame means: a message that is interpreted, or none of those. Two kinds of frames are not
covered. The decoder reads BATTERY_STATUS in the wrong places, and it ignores an interpreted message
that was trimmed too far. -/
def Means (frame : MavlinkFrame) : Option TelemetryMessage → Prop
  | some message => frame.Carries message ∧ message.report ≠ .batteryStatus
  | none => Report.ofMsgid frame.msgid = none

/-- What a message that is interpreted reports. -/
def tell (state : TelemetryState) : Option TelemetryMessage → TelemetryState
  | some message => message.reported state
  | none => state

/-- What meanings report, one after the other. -/
def told (meanings : List (Option TelemetryMessage)) : TelemetryState :=
  meanings.foldl tell {}

/-- The states differ in no field of a message. -/
def Agrees (state state' : TelemetryState) : Prop :=
  ∃ valid lastUpdateMs, state = { state' with valid, lastUpdateMs }

theorem Agrees.ofState {state state' : TelemetryState} (agrees : Agrees state state') :
    Telemetry.ofState state = Telemetry.ofState state' := by
  obtain ⟨valid, time, rfl⟩ := agrees
  rfl

theorem Agrees.of_displayed {state state' : TelemetryState}
    (agrees : Agrees state.displayed state') : Agrees state state' := by
  obtain ⟨valid, time, same⟩ := agrees
  exact ⟨valid, state.lastUpdateMs,
    congrArg (fun shown => { shown with lastUpdateMs := state.lastUpdateMs }) same⟩

/-- A frame is shown as what it means. -/
theorem Agrees.display {state state' : TelemetryState} (agrees : Agrees state state')
    {frame : MavlinkFrame} {meaning : Option TelemetryMessage} (means : Means frame meaning) :
    Agrees (display state frame.message) (tell state' meaning) := by
  obtain ⟨valid, time, rfl⟩ := agrees
  cases meaning with
  | none =>
      have uninterpreted : frame.message.Uninterpreted := fun report found =>
        absurd (found.symm.trans means) (Option.some_ne_none report)
      obtain ⟨valid', time', consumed⟩ :=
        consume_uninterpreted uninterpreted { state' with valid, lastUpdateMs := time } 0
      exact ⟨valid', 0, by rw [Mavlink.display, consumed]; rfl⟩
  | some message =>
      obtain ⟨⟨id, extensions, payload⟩, known⟩ := means
      have enough := message.length_wireBytes
      have long : message.report.requiredLength ≤ frame.body.payload.length := by
        rw [← payload, List.length_append]
        omega
      have agree : frame.body.payload.take message.report.requiredLength =
          message.wireBytes.take message.report.requiredLength := by
        rw [← payload, List.take_append_of_le_length enough]
      have inPlace : ∀ state, message.DecodedInPlace state := by
        intro state
        cases message with
        | batteryStatus m => exact absurd rfl known
        | _ => trivial
      refine ⟨true, 0, ?_⟩
      rw [Mavlink.display, consume_frame id long, Report.decode_congr agree,
        (decode_wireBytes_iff message _).mpr (inPlace _)]
      cases message <;> rfl

/-- Frames are shown as what they mean, one after the other. -/
theorem Agrees.displays {state state' : TelemetryState} (agrees : Agrees state state')
    {frames : List MavlinkFrame} {meanings : List (Option TelemetryMessage)}
    (means : List.Forall₂ Means frames meanings) :
    Agrees ((frames.map MavlinkFrame.message).foldl Mavlink.display state)
      (meanings.foldl tell state') := by
  induction means generalizing state state' with
  | nil => exact agrees
  | cons first _ ih => exact ih (agrees.display first)

/-- The MAVLink frame of an item. -/
def mavlinkFrame? : Item → Option MavlinkFrame
  | .mavlink frame => some frame
  | .msp _ => none

theorem filterMap_mavlinkMessage? (items : List Item) :
    items.filterMap Item.mavlinkMessage? =
      (items.filterMap mavlinkFrame?).map MavlinkFrame.message := by
  rw [List.map_filterMap]
  refine List.filterMap_congr fun item _ => ?_
  cases item <;> rfl

variable {σ : Type} (aggregator : Wfb.Aggregator σ)

/-- **The telemetry reaches the screen.** Let the telemetry sink pass on a stream of whole frames in
which neither protocol shows in the other, cut into payloads in any way, with no BATTERY_STATUS and
no interpreted message trimmed. At any time the next round of the statistics thread shows what the
first of these frames mean, and when no payload is on its way, what all of them mean. -/
theorem telemetry_survives (radio : Wfb.RadioConfig) (sinks : Byte → Option (Wfb.Sink σ))
    (codec : Rtp.VideoCodec) (mirror : Bool) {events : List PathEvent} {items : List Item}
    (undisturbed : Station.Undisturbed items) {meanings : List (Option TelemetryMessage)}
    (means : List.Forall₂ Means (items.filterMap mavlinkFrame?) meanings)
    (passedOn :
      ((sinkMachine aggregator).outputs (sinks Wfb.portMavlinkRx)
          (((pathMachine aggregator).outputs (startPath (some radio) sinks codec mirror)
            events).filterMap (sinkEvent? radio.linkId Wfb.portMavlinkRx))).flatten = wire items) :
    let path := (pathMachine aggregator).after (startPath (some radio) sinks codec mirror) events
    ∃ heard, heard <+: meanings ∧ (path.left Wfb.portMavlinkRx = [] → heard = meanings) ∧
      ∀ snapshot, onStats (statInts snapshot path.ports.mavlink.telemetry)
          (statFloats path.ports.mavlink.telemetry) =
        some (LinkStats.ofSnapshot snapshot, Telemetry.ofState (told heard)) := by
  intro path
  obtain ⟨delivered, -, -, -, displayed, -⟩ :=
    ports_conveyed aggregator (some radio) sinks codec mirror events
  set fed := (((pathMachine aggregator).outputs (startPath (some radio) sinks codec mirror)
    events).filterMap (delivered? Wfb.portMavlinkRx)).flatten with fed_eq
  have whole : fed ++ (path.left Wfb.portMavlinkRx).flatten = wire items := by
    rw [fed_eq, ← List.flatten_append, ← passedOn]
    exact congrArg List.flatten (delivered Wfb.portMavlinkRx)
  have stream : messagesIn (wire items) =
      (items.filterMap mavlinkFrame?).map MavlinkFrame.message :=
    (messagesIn_wire undisturbed).trans (filterMap_mavlinkMessage? items)
  have front : messagesIn fed <+: (items.filterMap mavlinkFrame?).map MavlinkFrame.message := by
    rw [← stream, ← whole, messagesIn_append]
    exact List.prefix_append _ _
  have heard := List.prefix_iff_eq_take.mp front
  rw [← List.map_take] at heard
  have shown : Agrees path.ports.mavlink.telemetry
      (told (meanings.take (messagesIn fed).length)) := by
    have same : path.ports.mavlink.telemetry.displayed =
        (messagesIn fed).foldl display ({} : TelemetryState).displayed := displayed
    have agrees : Agrees ({} : TelemetryState).displayed {} := ⟨false, 0, rfl⟩
    have sees := agrees.displays (List.forall₂_take (messagesIn fed).length means)
    rw [← heard, ← same] at sees
    exact sees.of_displayed
  refine ⟨meanings.take (messagesIn fed).length, List.take_prefix _ _, fun nothing => ?_,
    fun snapshot => ?_⟩
  · have all : messagesIn fed = (items.filterMap mavlinkFrame?).map MavlinkFrame.message := by
      rw [nothing] at whole
      rw [← stream, ← whole]
      exact congrArg messagesIn (List.append_nil fed).symm
    rw [all, List.length_map, means.length_eq, List.take_length]
  · rw [onStats_statInts, shown.ofState]

/-- A heartbeat of an armed quadrotor. -/
def armedHeartbeat : TelemetryMessage :=
  .heartbeat
    { type := 2, autopilot := 3, baseMode := 0x81, customMode := 5, systemStatus := 4,
      mavlinkVersion := 3 }

/-- The heartbeat, a message that is not interpreted, and a character for the OSD. -/
def armedItems : List Item :=
  [.mavlink (frameOf armedHeartbeat (by decide)), character 0x41,
    .mavlink (.v2 (.unsigned 4 (by decide) [7, 8] (by decide)))]

def armedMeanings : List (Option TelemetryMessage) := [some armedHeartbeat, none]

/-- A telemetry frame of the default link. -/
def telemetryHeard (payload : List Byte) : PathEvent :=
  .frame ([0x08, 0x01, 0, 0, 0xff, 0xff, 0xff, 0xff, 0xff, 0xff, 0x57, 0x42, 0x75, 0x05, 0xd6, 0x10,
    0x57, 0x42, 0x75, 0x05, 0xd6, 0x10, 0, 0] ++ payload ++ [0, 0, 0, 0], {})

/-- The stream in two payloads, the first of them cut inside the heartbeat, with a video frame and
the router's start between them. -/
def armedHeard : List PathEvent :=
  [telemetryHeard ((wire armedItems).take 12), .deliver 1 [], .router (.start true),
    videoFrame 7 true [0x65], .deliver 2 [], telemetryHeard ((wire armedItems).drop 12),
    .deliver 3 []]

theorem telemetry_survives_armed :
    let telemetry := ((pathMachine Wfb.plainAggregator).after
      (startPath (some {}) plainSinks .h264 true) armedHeard).ports.mavlink.telemetry
    onStats (statInts {} telemetry) (statFloats telemetry) =
      some (LinkStats.ofSnapshot {}, Telemetry.ofState (told armedMeanings)) := by
  intro telemetry
  obtain ⟨heard, -, all, shown⟩ :=
    @telemetry_survives _ Wfb.plainAggregator {} plainSinks .h264 true armedHeard armedItems
      (by decide +kernel) armedMeanings (.cons ⟨frameOf_carries _ _, by decide⟩ (.cons rfl .nil))
      (by decide +kernel)
  rw [← all (by decide +kernel)]
  exact shown {}

end App

end MobileGs
