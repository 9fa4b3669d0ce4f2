import Mathlib.Data.List.Sort
import MobileGs.Mavlink.Frame
import MobileGs.Mavlink.Telemetry

/-!
# The wire layout of the interpreted messages

A MAVLink payload holds the fields of its message ordered by descending type size, in
order of declaration within a size, with extension fields behind them. `wireOrder` is
that rule, and each of the seven interpreted messages is given by its fields in order of
declaration. `TelemetryMessage.reported` is the state the OSD should show after the
message, in the units of `TelemetryState`.

For six of the messages the decoder shows exactly that, from a frame of either version
and from every state. For BATTERY_STATUS it reads the first cell voltage and the current
at the offsets of the order of declaration, so it shows two other numbers of the message
in their place (`BatteryStatus.misreadVoltage`, `BatteryStatus.misreadCurrent`). The
state is right exactly when those numbers happen to agree (`consume_reported_iff`).
-/

set_option autoImplicit false

namespace MobileGs

namespace Mavlink

/-! ## Fields on the wire -/

/-- A field of a message: the size of its element type, and its bytes. -/
structure WireField where
  typeSize : ℕ
  bytes : List Byte

namespace WireField

def u8 (value : UInt8) : WireField := ⟨1, leBytes 1 value.toNat⟩
def i8 (value : Int8) : WireField := u8 value.toUInt8
def u16 (value : UInt16) : WireField := ⟨2, leBytes 2 value.toNat⟩
def i16 (value : Int16) : WireField := u16 value.toUInt16
def u32 (value : UInt32) : WireField := ⟨4, leBytes 4 value.toNat⟩
def i32 (value : Int32) : WireField := u32 value.toUInt32
def u64 (value : UInt64) : WireField := ⟨8, leBytes 8 value.toNat⟩
def float (value : FloatBits) : WireField := u32 value

/-- An array counts as its element type. -/
def u16s (values : List UInt16) : WireField := ⟨2, values.flatMap fun v => leBytes 2 v.toNat⟩

end WireField

/-- Fields ordered by descending type size, in order of declaration within a size. -/
def wireOrder (fields : List WireField) : List WireField :=
  fields.insertionSort fun first second => second.typeSize ≤ first.typeSize

/-- The bytes of the fields of a message, without extensions. -/
def serialise (fields : List WireField) : List Byte :=
  (wireOrder fields).flatMap WireField.bytes

/-! ## The messages, in order of declaration -/

structure Heartbeat where
  type : UInt8
  autopilot : UInt8
  baseMode : UInt8
  customMode : UInt32
  systemStatus : UInt8
  mavlinkVersion : UInt8

structure SysStatus where
  sensorsPresent : UInt32
  sensorsEnabled : UInt32
  sensorsHealth : UInt32
  load : UInt16
  voltageBattery : UInt16
  currentBattery : Int16
  batteryRemaining : Int8
  dropRateComm : UInt16
  errorsComm : UInt16
  errorsCount1 : UInt16
  errorsCount2 : UInt16
  errorsCount3 : UInt16
  errorsCount4 : UInt16

structure Attitude where
  timeBootMs : UInt32
  roll : FloatBits
  pitch : FloatBits
  yaw : FloatBits
  rollspeed : FloatBits
  pitchspeed : FloatBits
  yawspeed : FloatBits

structure GlobalPositionInt where
  timeBootMs : UInt32
  lat : Int32
  lon : Int32
  alt : Int32
  relativeAlt : Int32
  vx : Int16
  vy : Int16
  vz : Int16
  hdg : UInt16

structure GpsRawInt where
  timeUsec : UInt64
  fixType : UInt8
  lat : Int32
  lon : Int32
  alt : Int32
  eph : UInt16
  epv : UInt16
  vel : UInt16
  cog : UInt16
  satellitesVisible : UInt8

structure VfrHud where
  airspeed : FloatBits
  groundspeed : FloatBits
  heading : Int16
  throttle : UInt16
  alt : FloatBits
  climb : FloatBits

structure BatteryStatus where
  id : UInt8
  batteryFunction : UInt8
  type : UInt8
  temperature : Int16
  voltages : Fin 10 → UInt16
  currentBattery : Int16
  currentConsumed : Int32
  energyConsumed : Int32
  batteryRemaining : Int8

/-- One of the seven interpreted messages, with its fields. -/
inductive TelemetryMessage where
  | heartbeat (message : Heartbeat)
  | sysStatus (message : SysStatus)
  | attitude (message : Attitude)
  | globalPositionInt (message : GlobalPositionInt)
  | gpsRawInt (message : GpsRawInt)
  | vfrHud (message : VfrHud)
  | batteryStatus (message : BatteryStatus)

namespace TelemetryMessage

def report : TelemetryMessage → Report
  | heartbeat _ => .heartbeat
  | sysStatus _ => .sysStatus
  | attitude _ => .attitude
  | globalPositionInt _ => .globalPositionInt
  | gpsRawInt _ => .gpsRawInt
  | vfrHud _ => .vfrHud
  | batteryStatus _ => .batteryStatus

/-- The fields in order of declaration. -/
def fields : TelemetryMessage → List WireField
  | heartbeat m =>
      [.u8 m.type, .u8 m.autopilot, .u8 m.baseMode, .u32 m.customMode, .u8 m.systemStatus,
        .u8 m.mavlinkVersion]
  | sysStatus m =>
      [.u32 m.sensorsPresent, .u32 m.sensorsEnabled, .u32 m.sensorsHealth, .u16 m.load,
        .u16 m.voltageBattery, .i16 m.currentBattery, .i8 m.batteryRemaining,
        .u16 m.dropRateComm, .u16 m.errorsComm, .u16 m.errorsCount1, .u16 m.errorsCount2,
        .u16 m.errorsCount3, .u16 m.errorsCount4]
  | attitude m =>
      [.u32 m.timeBootMs, .float m.roll, .float m.pitch, .float m.yaw, .float m.rollspeed,
        .float m.pitchspeed, .float m.yawspeed]
  | globalPositionInt m =>
      [.u32 m.timeBootMs, .i32 m.lat, .i32 m.lon, .i32 m.alt, .i32 m.relativeAlt, .i16 m.vx,
        .i16 m.vy, .i16 m.vz, .u16 m.hdg]
  | gpsRawInt m =>
      [.u64 m.timeUsec, .u8 m.fixType, .i32 m.lat, .i32 m.lon, .i32 m.alt, .u16 m.eph,
        .u16 m.epv, .u16 m.vel, .u16 m.cog, .u8 m.satellitesVisible]
  | vfrHud m =>
      [.float m.airspeed, .float m.groundspeed, .i16 m.heading, .u16 m.throttle, .float m.alt,
        .float m.climb]
  | batteryStatus m =>
      [.u8 m.id, .u8 m.batteryFunction, .u8 m.type, .i16 m.temperature,
        .u16s (List.ofFn m.voltages), .i16 m.currentBattery, .i32 m.currentConsumed,
        .i32 m.energyConsumed, .i8 m.batteryRemaining]

/-- The payload of the message, without extension fields. -/
def wireBytes (message : TelemetryMessage) : List Byte := serialise message.fields

/-- The fields in wire order, written out. -/
def layout : TelemetryMessage → List WireField
  | heartbeat m =>
      [.u32 m.customMode, .u8 m.type, .u8 m.autopilot, .u8 m.baseMode, .u8 m.systemStatus,
        .u8 m.mavlinkVersion]
  | sysStatus m =>
      [.u32 m.sensorsPresent, .u32 m.sensorsEnabled, .u32 m.sensorsHealth, .u16 m.load,
        .u16 m.voltageBattery, .i16 m.currentBattery, .u16 m.dropRateComm, .u16 m.errorsComm,
        .u16 m.errorsCount1, .u16 m.errorsCount2, .u16 m.errorsCount3, .u16 m.errorsCount4,
        .i8 m.batteryRemaining]
  | attitude m =>
      [.u32 m.timeBootMs, .float m.roll, .float m.pitch, .float m.yaw, .float m.rollspeed,
        .float m.pitchspeed, .float m.yawspeed]
  | globalPositionInt m =>
      [.u32 m.timeBootMs, .i32 m.lat, .i32 m.lon, .i32 m.alt, .i32 m.relativeAlt, .i16 m.vx,
        .i16 m.vy, .i16 m.vz, .u16 m.hdg]
  | gpsRawInt m =>
      [.u64 m.timeUsec, .i32 m.lat, .i32 m.lon, .i32 m.alt, .u16 m.eph, .u16 m.epv, .u16 m.vel,
        .u16 m.cog, .u8 m.fixType, .u8 m.satellitesVisible]
  | vfrHud m =>
      [.float m.airspeed, .float m.groundspeed, .float m.alt, .float m.climb, .i16 m.heading,
        .u16 m.throttle]
  | batteryStatus m =>
      [.i32 m.currentConsumed, .i32 m.energyConsumed, .i16 m.temperature,
        .u16s (List.ofFn m.voltages), .i16 m.currentBattery, .u8 m.id, .u8 m.batteryFunction,
        .u8 m.type, .i8 m.batteryRemaining]

theorem wireOrder_fields (message : TelemetryMessage) :
    wireOrder message.fields = message.layout := by
  cases message <;> rfl

theorem wireBytes_eq (message : TelemetryMessage) :
    message.wireBytes = message.layout.flatMap WireField.bytes := by
  rw [wireBytes, serialise, wireOrder_fields]

/-- What the OSD should show after the message: volts, amperes, percent, degrees, and
the other fields in the units of the message. -/
def reported (message : TelemetryMessage) (state : TelemetryState) : TelemetryState :=
  match message with
  | heartbeat m =>
      { state with
        customMode := m.customMode
        mavType := m.type
        baseMode := m.baseMode
        systemStatus := m.systemStatus
        -- MAV_MODE_FLAG_SAFETY_ARMED
        armed := m.baseMode &&& 0x80 != 0 }
  | sysStatus m =>
      { state with
        batteryVoltageV := Binary32.quotient m.voltageBattery.toNat 1000
        batteryCurrentA := Binary32.quotient m.currentBattery.toInt 100
        batteryRemainingPct := m.batteryRemaining }
  | attitude m =>
      { state with rollRad := m.roll, pitchRad := m.pitch, yawRad := m.yaw }
  | globalPositionInt m =>
      { state with
        latitudeE7 := m.lat
        longitudeE7 := m.lon
        altitudeMm := m.alt
        relativeAltitudeMm := m.relativeAlt
        headingDeg :=
          if m.hdg ≠ 0xffff then Binary32.quotient m.hdg.toNat 100 else state.headingDeg }
  | gpsRawInt m =>
      { state with gpsFixType := m.fixType, satellites := m.satellitesVisible }
  | vfrHud m =>
      { state with
        airSpeedMs := m.airspeed
        groundSpeedMs := m.groundspeed
        climbMs := m.climb
        throttlePct := m.throttle }
  | batteryStatus m =>
      { state with
        batteryVoltageV :=
          if m.voltages 0 ≠ 0xffff then Binary32.quotient (m.voltages 0).toNat 1000
          else state.batteryVoltageV
        batteryCurrentA := Binary32.quotient m.currentBattery.toInt 100
        batteryRemainingPct := m.batteryRemaining }

end TelemetryMessage

/-- A frame carries a message when it has the message's id and its payload is the
message's fields, with extension fields behind them or not. -/
def MavlinkFrame.Carries (frame : MavlinkFrame) (message : TelemetryMessage) : Prop :=
  frame.msgid = message.report.msgid ∧ message.wireBytes <+: frame.body.payload

/-! ## Consuming a frame -/

/-- **Consuming a frame with a long enough payload decodes the payload**, whatever stands
behind it. -/
theorem consume_frame {frame : MavlinkFrame} {report : Report}
    (id : frame.msgid = report.msgid)
    (long : report.requiredLength ≤ frame.body.payload.length) (state : TelemetryState)
    (nowMs : UInt64) :
    consume state nowMs frame.message =
      report.decode frame.body.payload
        { state with valid := true, lastUpdateMs := nowMs } := by
  have size := frame.length_bytes
  have payload : (frame.bytes.drop (headerSize frame.isV2)) =
      frame.body.payload ++ frame.trailer := by
    rw [MavlinkFrame.bytes, ← frame.length_header, List.drop_left]
  have agree : (frame.body.payload ++ frame.trailer).take report.requiredLength =
      frame.body.payload.take report.requiredLength :=
    List.take_append_of_le_length long
  simp only [consume, MavlinkFrame.message, MavlinkMessage.size, id, Report.ofMsgid_msgid, payload]
  rw [if_neg (by omega), if_pos (by omega)]
  exact Report.decode_congr agree _

section Reading

variable {payload : List Byte} {offset : ℕ}

theorem readU16_of {value : UInt16}
    (stored : (payload.drop offset).take 2 = leBytes 2 value.toNat) :
    readU16 payload offset = value := by
  rw [readU16, readLe, stored, leNat_leBytes_of_lt value.toNat_lt, UInt16.ofNat_toNat]

theorem readI16_of {value : Int16}
    (stored : (payload.drop offset).take 2 = leBytes 2 value.toUInt16.toNat) :
    readI16 payload offset = value := by
  rw [readI16, readU16_of stored, Int16.toInt16_toUInt16]

theorem readU32_of {value : UInt32}
    (stored : (payload.drop offset).take 4 = leBytes 4 value.toNat) :
    readU32 payload offset = value := by
  rw [readU32, readLe, stored, leNat_leBytes_of_lt value.toNat_lt, UInt32.ofNat_toNat]

theorem readI32_of {value : Int32}
    (stored : (payload.drop offset).take 4 = leBytes 4 value.toUInt32.toNat) :
    readI32 payload offset = value := by
  rw [readI32, readU32_of stored, Int32.toInt32_toUInt32]

theorem byteAt_of {value : UInt8}
    (stored : byteAt payload offset = UInt8.ofNat value.toNat) : byteAt payload offset = value := by
  rw [stored, UInt8.ofNat_toNat]

end Reading

namespace TelemetryMessage

theorem length_wireBytes (message : TelemetryMessage) :
    message.report.requiredLength ≤ message.wireBytes.length := by
  rw [wireBytes_eq]
  cases message with
  | heartbeat m => exact (by decide : 8 ≤ 9)
  | sysStatus m => exact (by decide : 31 ≤ 31)
  | attitude m => exact (by decide : 16 ≤ 28)
  | globalPositionInt m => exact (by decide : 28 ≤ 28)
  | gpsRawInt m => exact (by decide : 30 ≤ 30)
  | vfrHud m => exact (by decide : 20 ≤ 20)
  | batteryStatus m => exact (by decide : 36 ≤ 36)

/-! ## Six messages are read where they are written -/

theorem decode_heartbeat (m : Heartbeat) (state : TelemetryState) :
    Report.heartbeat.decode (heartbeat m).wireBytes state = (heartbeat m).reported state := by
  rw [wireBytes_eq]
  have customMode : readU32 ((heartbeat m).layout.flatMap WireField.bytes) 0 = m.customMode :=
    readU32_of rfl
  have type : byteAt ((heartbeat m).layout.flatMap WireField.bytes) 4 = m.type := byteAt_of rfl
  have baseMode : byteAt ((heartbeat m).layout.flatMap WireField.bytes) 6 = m.baseMode :=
    byteAt_of rfl
  have systemStatus : byteAt ((heartbeat m).layout.flatMap WireField.bytes) 7 = m.systemStatus :=
    byteAt_of rfl
  simp only [Report.decode, customMode, type, baseMode, systemStatus]
  rfl

theorem decode_sysStatus (m : SysStatus) (state : TelemetryState) :
    Report.sysStatus.decode (sysStatus m).wireBytes state = (sysStatus m).reported state := by
  rw [wireBytes_eq]
  have voltage : readU16 ((sysStatus m).layout.flatMap WireField.bytes) 14 = m.voltageBattery :=
    readU16_of rfl
  have current : readI16 ((sysStatus m).layout.flatMap WireField.bytes) 16 = m.currentBattery :=
    readI16_of rfl
  have remaining :
      byteAt ((sysStatus m).layout.flatMap WireField.bytes) 30 = m.batteryRemaining.toUInt8 :=
    byteAt_of rfl
  simp only [Report.decode, voltage, current, remaining, Int8.toInt8_toUInt8]
  rfl

theorem decode_attitude (m : Attitude) (state : TelemetryState) :
    Report.attitude.decode (attitude m).wireBytes state = (attitude m).reported state := by
  rw [wireBytes_eq]
  have roll : readU32 ((attitude m).layout.flatMap WireField.bytes) 4 = m.roll := readU32_of rfl
  have pitch : readU32 ((attitude m).layout.flatMap WireField.bytes) 8 = m.pitch := readU32_of rfl
  have yaw : readU32 ((attitude m).layout.flatMap WireField.bytes) 12 = m.yaw := readU32_of rfl
  simp only [Report.decode, readFloat, roll, pitch, yaw]
  rfl

theorem decode_globalPositionInt (m : GlobalPositionInt) (state : TelemetryState) :
    Report.globalPositionInt.decode (globalPositionInt m).wireBytes state =
      (globalPositionInt m).reported state := by
  rw [wireBytes_eq]
  have lat : readI32 ((globalPositionInt m).layout.flatMap WireField.bytes) 4 = m.lat :=
    readI32_of rfl
  have lon : readI32 ((globalPositionInt m).layout.flatMap WireField.bytes) 8 = m.lon :=
    readI32_of rfl
  have alt : readI32 ((globalPositionInt m).layout.flatMap WireField.bytes) 12 = m.alt :=
    readI32_of rfl
  have relativeAlt : readI32 ((globalPositionInt m).layout.flatMap WireField.bytes) 16 =
      m.relativeAlt :=
    readI32_of rfl
  have hdg : readU16 ((globalPositionInt m).layout.flatMap WireField.bytes) 26 = m.hdg :=
    readU16_of rfl
  simp only [Report.decode, lat, lon, alt, relativeAlt, hdg]
  rfl

theorem decode_gpsRawInt (m : GpsRawInt) (state : TelemetryState) :
    Report.gpsRawInt.decode (gpsRawInt m).wireBytes state = (gpsRawInt m).reported state := by
  rw [wireBytes_eq]
  have fixType : byteAt ((gpsRawInt m).layout.flatMap WireField.bytes) 28 = m.fixType :=
    byteAt_of rfl
  have satellites : byteAt ((gpsRawInt m).layout.flatMap WireField.bytes) 29 =
      m.satellitesVisible :=
    byteAt_of rfl
  simp only [Report.decode, fixType, satellites]
  rfl

theorem decode_vfrHud (m : VfrHud) (state : TelemetryState) :
    Report.vfrHud.decode (vfrHud m).wireBytes state = (vfrHud m).reported state := by
  rw [wireBytes_eq]
  have airspeed : readU32 ((vfrHud m).layout.flatMap WireField.bytes) 0 = m.airspeed :=
    readU32_of rfl
  have groundspeed : readU32 ((vfrHud m).layout.flatMap WireField.bytes) 4 = m.groundspeed :=
    readU32_of rfl
  have climb : readU32 ((vfrHud m).layout.flatMap WireField.bytes) 12 = m.climb := readU32_of rfl
  have throttle : readU16 ((vfrHud m).layout.flatMap WireField.bytes) 18 = m.throttle :=
    readU16_of rfl
  simp only [Report.decode, readFloat, airspeed, groundspeed, climb, throttle]
  rfl

end TelemetryMessage

/-! ## BATTERY_STATUS is read elsewhere -/

namespace BatteryStatus

/-- What stands at offset 5, where the first cell voltage is read: the middle bytes of
the consumed energy. -/
def misreadVoltage (m : BatteryStatus) : UInt16 :=
  UInt16.ofNat (m.energyConsumed.toUInt32.toNat / 2 ^ 8)

/-- What stands at offset 25, where the current is read: the high byte of the eighth
cell voltage and the low byte of the ninth. -/
def misreadCurrent (m : BatteryStatus) : Int16 :=
  (UInt16.ofNat ((m.voltages 7).toNat / 2 ^ 8 + 2 ^ 8 * (m.voltages 8).toNat)).toInt16

/-- The voltage the decoder shows is the reported one: the two cell voltages agree, or
one of them stands for an unknown voltage and the state before holds the other. -/
def VoltageAgrees (m : BatteryStatus) (state : TelemetryState) : Prop :=
  if m.voltages 0 = 0xffff then
    m.misreadVoltage = 0xffff ∨
      state.batteryVoltageV = Binary32.quotient m.misreadVoltage.toNat 1000
  else if m.misreadVoltage = 0xffff then
    state.batteryVoltageV = Binary32.quotient (m.voltages 0).toNat 1000
  else m.misreadVoltage = m.voltages 0

instance (m : BatteryStatus) (state : TelemetryState) : Decidable (m.VoltageAgrees state) := by
  unfold VoltageAgrees
  infer_instance

/-- The bytes read in the wrong place show what the right ones would. -/
def AgreesByChance (m : BatteryStatus) (state : TelemetryState) : Prop :=
  m.VoltageAgrees state ∧ m.misreadCurrent = m.currentBattery

end BatteryStatus

/-- Two bytes in the middle of little-endian numbers. -/
theorem leNat_pair (first second : ℕ) :
    leNat [UInt8.ofNat first, UInt8.ofNat second] = first % 2 ^ 8 + 2 ^ 8 * (second % 2 ^ 8) := by
  simp only [leNat_cons, leNat_nil, UInt8.toNat_ofNat', Nat.mul_zero, Nat.add_zero]
  rfl

namespace TelemetryMessage

theorem read_misreadVoltage (m : BatteryStatus) :
    readU16 (batteryStatus m).wireBytes 5 = m.misreadVoltage := by
  have stored : ((batteryStatus m).wireBytes.drop 5).take 2 =
      [UInt8.ofNat (m.energyConsumed.toUInt32.toNat / 256),
        UInt8.ofNat (m.energyConsumed.toUInt32.toNat / 256 / 256)] := by
    rw [wireBytes_eq]
    rfl
  apply UInt16.toNat_inj.mp
  rw [readU16, readLe, stored, leNat_pair, BatteryStatus.misreadVoltage, UInt16.toNat_ofNat',
    UInt16.toNat_ofNat']
  omega

theorem read_misreadCurrent (m : BatteryStatus) :
    readI16 (batteryStatus m).wireBytes 25 = m.misreadCurrent := by
  have stored : ((batteryStatus m).wireBytes.drop 25).take 2 =
      [UInt8.ofNat ((m.voltages 7).toNat / 256), UInt8.ofNat (m.voltages 8).toNat] := by
    rw [wireBytes_eq]
    rfl
  have small := (m.voltages 7).toNat_lt
  rw [readI16, BatteryStatus.misreadCurrent]
  apply congrArg UInt16.toInt16
  apply UInt16.toNat_inj.mp
  rw [readU16, readLe, stored, leNat_pair, UInt16.toNat_ofNat', UInt16.toNat_ofNat']
  omega

/-- The fields BATTERY_STATUS sets. -/
theorem decode_batteryStatus (m : BatteryStatus) (state : TelemetryState) :
    Report.batteryStatus.decode (batteryStatus m).wireBytes state =
      { state with
        batteryVoltageV :=
          if m.misreadVoltage ≠ 0xffff then Binary32.quotient m.misreadVoltage.toNat 1000
          else state.batteryVoltageV
        batteryCurrentA := Binary32.quotient m.misreadCurrent.toInt 100
        batteryRemainingPct := m.batteryRemaining } := by
  have remaining : byteAt (batteryStatus m).wireBytes 35 = m.batteryRemaining.toUInt8 := by
    rw [wireBytes_eq]
    exact byteAt_of rfl
  simp only [Report.decode, read_misreadVoltage, read_misreadCurrent, remaining,
    Int8.toInt8_toUInt8]

end TelemetryMessage

/-- A cell voltage can be read back from the voltage shown. -/
theorem cellVoltage_injective {first second : UInt16} :
    Binary32.quotient first.toNat 1000 = Binary32.quotient second.toNat 1000 ↔
      first = second := by
  rw [Binary32.quotient_injective (by simpa using first.toNat_lt) (by simpa using second.toNat_lt)
    (by decide) (by decide), Nat.cast_inj, UInt16.toNat_inj]

theorem natAbs_toInt_lt (value : Int16) : value.toInt.natAbs < 2 ^ 16 := by
  have low := value.le_toInt
  have high := value.toInt_lt
  omega

/-- A current can be read back from the current shown. -/
theorem current_injective {first second : Int16} :
    Binary32.quotient first.toInt 100 = Binary32.quotient second.toInt 100 ↔ first = second := by
  rw [Binary32.quotient_injective (natAbs_toInt_lt first) (natAbs_toInt_lt second) (by decide)
    (by decide), Int16.toInt_inj]

/-- The voltage shown is the voltage reported exactly when they agree by chance. -/
theorem voltage_eq_iff (m : BatteryStatus) (state : TelemetryState) :
    (if m.misreadVoltage ≠ 0xffff then Binary32.quotient m.misreadVoltage.toNat 1000
      else state.batteryVoltageV) =
      (if m.voltages 0 ≠ 0xffff then Binary32.quotient (m.voltages 0).toNat 1000
        else state.batteryVoltageV) ↔ m.VoltageAgrees state := by
  unfold BatteryStatus.VoltageAgrees
  by_cases unknown : m.voltages 0 = 0xffff <;> by_cases misread : m.misreadVoltage = 0xffff
  · simp [unknown, misread]
  · simp only [unknown, misread, ne_eq, not_true_eq_false, not_false_eq_true, if_true, if_false,
      false_or]
    exact eq_comm
  · simp [unknown, misread]
  · simp only [unknown, misread, ne_eq, not_false_eq_true, if_true, if_false]
    exact cellVoltage_injective

/-- Whether the decoder shows a message as reported, from a given state. -/
def TelemetryMessage.DecodedInPlace (message : TelemetryMessage) (state : TelemetryState) : Prop :=
  match message with
  | .batteryStatus m => m.AgreesByChance state
  | _ => True

/-- What a message's own fields decode to is what it reports, exactly when it is read in
place or agrees by chance. -/
theorem decode_wireBytes_iff (message : TelemetryMessage) (state : TelemetryState) :
    message.report.decode message.wireBytes state = message.reported state ↔
      message.DecodedInPlace state := by
  cases message with
  | heartbeat m => exact iff_of_true (TelemetryMessage.decode_heartbeat m state) trivial
  | sysStatus m => exact iff_of_true (TelemetryMessage.decode_sysStatus m state) trivial
  | attitude m => exact iff_of_true (TelemetryMessage.decode_attitude m state) trivial
  | globalPositionInt m =>
      exact iff_of_true (TelemetryMessage.decode_globalPositionInt m state) trivial
  | gpsRawInt m => exact iff_of_true (TelemetryMessage.decode_gpsRawInt m state) trivial
  | vfrHud m => exact iff_of_true (TelemetryMessage.decode_vfrHud m state) trivial
  | batteryStatus m =>
      rw [TelemetryMessage.report, TelemetryMessage.decode_batteryStatus,
        TelemetryMessage.DecodedInPlace, BatteryStatus.AgreesByChance, ← voltage_eq_iff,
        ← current_injective, TelemetryMessage.reported]
      constructor
      · intro same
        exact ⟨congrArg TelemetryState.batteryVoltageV same,
          congrArg TelemetryState.batteryCurrentA same⟩
      · rintro ⟨voltage, current⟩
        rw [voltage, current]

/-- Reading the message in place does not depend on when the state was last updated. -/
theorem TelemetryMessage.decodedInPlace_update (message : TelemetryMessage)
    (state : TelemetryState) (nowMs : UInt64) :
    message.DecodedInPlace { state with valid := true, lastUpdateMs := nowMs } ↔
      message.DecodedInPlace state := by
  cases message <;> exact Iff.rfl

/-- **A frame that carries a message shows what the message reports**, from every state,
for every message but BATTERY_STATUS, and for BATTERY_STATUS exactly when the numbers read
in the wrong place agree with the right ones. -/
theorem consume_reported_iff (message : TelemetryMessage) (frame : MavlinkFrame)
    (carries : frame.Carries message) (state : TelemetryState) (nowMs : UInt64) :
    consume state nowMs frame.message =
        message.reported { state with valid := true, lastUpdateMs := nowMs } ↔
      message.DecodedInPlace state := by
  obtain ⟨id, extensions, payload⟩ := carries
  have enough := message.length_wireBytes
  have long : message.report.requiredLength ≤ frame.body.payload.length := by
    rw [← payload, List.length_append]
    omega
  have agree : frame.body.payload.take message.report.requiredLength =
      message.wireBytes.take message.report.requiredLength := by
    rw [← payload, List.take_append_of_le_length enough]
  rw [consume_frame id long, Report.decode_congr agree, decode_wireBytes_iff,
    TelemetryMessage.decodedInPlace_update]

/-- A pack of four cells at 4.2 V, drawing 12.5 A. -/
def fourCells : BatteryStatus where
  id := 0
  batteryFunction := 1
  type := 1
  temperature := 2500
  voltages := fun cell => if cell.val < 4 then 4200 else 0xffff
  currentBattery := 1250
  currentConsumed := 300
  energyConsumed := 0
  batteryRemaining := 90

/-- An unsigned v2 frame with the id and the fields of a message. -/
def frameOf (message : TelemetryMessage) (short : message.wireBytes.length ≤ 255) :
    MavlinkFrame :=
  .v2 (.unsigned message.report.msgid message.report.msgid_lt message.wireBytes short)

theorem frameOf_carries (message : TelemetryMessage) (short : message.wireBytes.length ≤ 255) :
    (frameOf message short).Carries message :=
  ⟨rfl, List.prefix_rfl⟩

theorem fourCells_short : (TelemetryMessage.batteryStatus fourCells).wireBytes.length ≤ 255 := by
  decide

/-- The pack of four cells is shown wrongly, from the initial state. -/
theorem consume_reported_iff_fourCells :
    consume {} 7 (frameOf (.batteryStatus fourCells) fourCells_short).message =
        (TelemetryMessage.batteryStatus fourCells).reported { valid := true, lastUpdateMs := 7 } ↔
      (TelemetryMessage.batteryStatus fourCells).DecodedInPlace {} :=
  consume_reported_iff _ _ (frameOf_carries _ fourCells_short) {} 7

/-- **Not every message is shown as reported**: 4.2 V in the first cell shows as 0 V. -/
theorem not_consume_reported :
    ¬ ∀ (message : TelemetryMessage) (frame : MavlinkFrame), frame.Carries message →
      ∀ (state : TelemetryState) (nowMs : UInt64),
        consume state nowMs frame.message =
          message.reported { state with valid := true, lastUpdateMs := nowMs } := by
  intro all
  have shown := all (.batteryStatus fourCells) _ (frameOf_carries _ fourCells_short) {} 7
  have voltage := congrArg TelemetryState.batteryVoltageV shown
  revert voltage
  decide

end Mavlink

end MobileGs
