import MobileGs.Foundations.Binary32
import MobileGs.Foundations.LittleEndian
import MobileGs.Mavlink.Framer

/-!
# Telemetry extraction

`TelemetryDecoder::Consume` reads fixed offsets of the payloads of seven messages of
the common dialect into the state the OSD displays. The interpreted messages are an
enumeration (`Report`) with the length each of them is checked against and the fields
each of them sets, so the switch of the source is one test of a length in front of one
update (`consume`).

Floating-point fields are held as binary32 bit patterns. A field copied from the
payload is its four bytes, and a field scaled from an integer is the rounded quotient.
The source reads bytes in place with the machine's byte order, which is little-endian
on every platform the application is built for.

An update reads no byte past the length it is checked against (`decode_take`), so two
payloads that agree up to that length are the same to the decoder (`decode_congr`).
-/

set_option autoImplicit false

namespace MobileGs

namespace Mavlink

/-- A `float`, as its binary32 bit pattern. -/
abbrev FloatBits := UInt32

/-- `TelemetryState`: the telemetry the OSD displays. -/
structure TelemetryState where
  armed : Bool := false
  baseMode : UInt8 := 0
  customMode : UInt32 := 0
  systemStatus : UInt8 := 0
  mavType : UInt8 := 0
  rollRad : FloatBits := 0
  pitchRad : FloatBits := 0
  yawRad : FloatBits := 0
  latitudeE7 : Int32 := 0
  longitudeE7 : Int32 := 0
  altitudeMm : Int32 := 0
  relativeAltitudeMm : Int32 := 0
  satellites : UInt8 := 0
  gpsFixType : UInt8 := 0
  groundSpeedMs : FloatBits := 0
  airSpeedMs : FloatBits := 0
  climbMs : FloatBits := 0
  headingDeg : FloatBits := 0
  throttlePct : UInt16 := 0
  batteryVoltageV : FloatBits := 0
  batteryCurrentA : FloatBits := 0
  batteryRemainingPct : Int8 := -1
  lastUpdateMs : UInt64 := 0
  valid : Bool := false
  deriving DecidableEq

/-! ## Reading the payload -/

/-- `ReadLe` of a type of `width` bytes, as a number. -/
def readLe (width : ℕ) (payload : List Byte) (offset : ℕ) : ℕ :=
  leNat ((payload.drop offset).take width)

def readU16 (payload : List Byte) (offset : ℕ) : UInt16 := UInt16.ofNat (readLe 2 payload offset)

def readI16 (payload : List Byte) (offset : ℕ) : Int16 := (readU16 payload offset).toInt16

def readU32 (payload : List Byte) (offset : ℕ) : UInt32 := UInt32.ofNat (readLe 4 payload offset)

def readI32 (payload : List Byte) (offset : ℕ) : Int32 := (readU32 payload offset).toInt32

def readFloat (payload : List Byte) (offset : ℕ) : FloatBits := readU32 payload offset

/-- A payload byte. Every use is behind a length check that covers the index. -/
def byteAt (payload : List Byte) (index : ℕ) : Byte := payload.getD index 0

section Take

variable {payload : List Byte} {bound : ℕ}

theorem readLe_take {width offset : ℕ} (within : offset + width ≤ bound) :
    readLe width (payload.take bound) offset = readLe width payload offset := by
  rw [readLe, readLe, List.drop_take, List.take_take, Nat.min_eq_left (by omega)]

theorem readU16_take {offset : ℕ} (within : offset + 2 ≤ bound) :
    readU16 (payload.take bound) offset = readU16 payload offset := by
  rw [readU16, readU16, readLe_take within]

theorem readU32_take {offset : ℕ} (within : offset + 4 ≤ bound) :
    readU32 (payload.take bound) offset = readU32 payload offset := by
  rw [readU32, readU32, readLe_take within]

theorem byteAt_take {index : ℕ} (within : index < bound) :
    byteAt (payload.take bound) index = byteAt payload index := by
  rw [byteAt, byteAt, List.getD_eq_getElem?_getD, List.getD_eq_getElem?_getD,
    List.getElem?_take_of_lt within]

end Take

/-! ## The interpreted messages -/

/-- The messages of the common dialect interpreted for the OSD. -/
inductive Report where
  | heartbeat
  | sysStatus
  | attitude
  | globalPositionInt
  | gpsRawInt
  | vfrHud
  | batteryStatus
  deriving DecidableEq, Repr

namespace Report

/-- The message ids, `kMsgHeartbeat` and the others. -/
def msgid : Report → UInt32
  | heartbeat => 0
  | sysStatus => 1
  | attitude => 30
  | globalPositionInt => 33
  | gpsRawInt => 24
  | vfrHud => 74
  | batteryStatus => 147

theorem msgid_lt (report : Report) : report.msgid.toNat < 2 ^ 24 := by
  cases report <;> decide

/-- The switch on the message id. -/
def ofMsgid (id : UInt32) : Option Report :=
  [heartbeat, sysStatus, attitude, globalPositionInt, gpsRawInt, vfrHud, batteryStatus].find?
    fun report => report.msgid = id

theorem ofMsgid_msgid (report : Report) : ofMsgid report.msgid = some report := by
  cases report <;> decide

/-- The payload length each case requires. -/
def requiredLength : Report → ℕ
  | heartbeat => 8
  | sysStatus => 31
  | attitude => 16
  | globalPositionInt => 28
  | gpsRawInt => 30
  | vfrHud => 20
  | batteryStatus => 36

/-- The fields each case sets from a payload of the required length. -/
def decode (report : Report) (payload : List Byte) (state : TelemetryState) : TelemetryState :=
  match report with
  | heartbeat =>
      -- custom_mode(4) type(1) autopilot(1) base_mode(1) system_status(1)
      { state with
        customMode := readU32 payload 0
        mavType := byteAt payload 4
        baseMode := byteAt payload 6
        systemStatus := byteAt payload 7
        armed := byteAt payload 6 &&& 0x80 != 0 }
  | sysStatus =>
      { state with
        batteryVoltageV := Binary32.quotient (readU16 payload 14).toNat 1000
        batteryCurrentA := Binary32.quotient (readI16 payload 16).toInt 100
        batteryRemainingPct := (byteAt payload 30).toInt8 }
  | attitude =>
      { state with
        rollRad := readFloat payload 4
        pitchRad := readFloat payload 8
        yawRad := readFloat payload 12 }
  | globalPositionInt =>
      { state with
        latitudeE7 := readI32 payload 4
        longitudeE7 := readI32 payload 8
        altitudeMm := readI32 payload 12
        relativeAltitudeMm := readI32 payload 16
        -- UINT16_MAX stands for an unknown heading
        headingDeg :=
          if readU16 payload 26 ≠ 0xffff then Binary32.quotient (readU16 payload 26).toNat 100
          else state.headingDeg }
  | gpsRawInt =>
      { state with
        gpsFixType := byteAt payload 28
        satellites := byteAt payload 29 }
  | vfrHud =>
      { state with
        airSpeedMs := readFloat payload 0
        groundSpeedMs := readFloat payload 4
        climbMs := readFloat payload 12
        throttlePct := readU16 payload 18 }
  | batteryStatus =>
      -- the offsets follow the order of declaration, not the wire order
      { state with
        batteryVoltageV :=
          if readU16 payload 5 ≠ 0xffff then Binary32.quotient (readU16 payload 5).toNat 1000
          else state.batteryVoltageV
        batteryCurrentA := Binary32.quotient (readI16 payload 25).toInt 100
        batteryRemainingPct := (byteAt payload 35).toInt8 }

/-- **A case reads no byte past the length it requires.** -/
theorem decode_take (report : Report) (payload : List Byte) (state : TelemetryState) :
    report.decode (payload.take report.requiredLength) state = report.decode payload state := by
  cases report <;>
    simp [decode, requiredLength, readFloat, readI16, readI32, readU16_take, readU32_take,
      byteAt_take]

/-- Payloads that agree up to the required length set the same fields. -/
theorem decode_congr {report : Report} {payload payload' : List Byte}
    (agree : payload.take report.requiredLength = payload'.take report.requiredLength)
    (state : TelemetryState) : report.decode payload state = report.decode payload' state := by
  rw [← decode_take, agree, decode_take]

end Report

/-- `Consume` at the time `nowMs`. The payload length is reconstructed from the size of
the message. -/
def consume (state : TelemetryState) (nowMs : UInt64) (message : MavlinkMessage) :
    TelemetryState :=
  let header := headerSize message.v2
  if message.size < header + checksumSize then state
  else
    let payload := message.data.drop header
    let payloadLen := message.size - header - checksumSize
    let state := { state with valid := true, lastUpdateMs := nowMs }
    match Report.ofMsgid message.msgid with
    | none => state
    | some report =>
        if payloadLen ≥ report.requiredLength then report.decode payload state else state

/-- The state apart from the time of the last update. -/
def TelemetryState.displayed (state : TelemetryState) : TelemetryState :=
  { state with lastUpdateMs := 0 }

/-- Decoding neither reads nor sets the time of the last update. -/
theorem Report.displayed_decode (report : Report) (payload : List Byte) (state : TelemetryState) :
    (report.decode payload state).displayed = report.decode payload state.displayed := by
  cases report <;> rfl

end Mavlink

end MobileGs
