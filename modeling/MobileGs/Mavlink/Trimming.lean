import Mathlib.Data.List.DropRight
import MobileGs.Mavlink.Messages

/-!
# Trailing zeros of a v2 payload

A MAVLink 2 sender drops the trailing zero bytes of a payload, keeping at least one
byte. The decoder checks the payload length it is given against a fixed length for each
message and does not fill a shorter payload up, so a frame with a trimmed payload shows
the same as the frame with the full one when what is left still has that length
(`consume_trimmed`). Of an unsigned frame trimmed below it only the arrival is noted.
-/

set_option autoImplicit false

namespace MobileGs

namespace Mavlink

/-- The payload without its trailing zeros, of which the first byte is kept. -/
def trimZeros (payload : List Byte) : List Byte :=
  let trimmed := payload.rdropWhile (· == 0)
  if trimmed.isEmpty then payload.take 1 else trimmed

theorem isPrefix_trimZeros (payload : List Byte) : trimZeros payload <+: payload := by
  unfold trimZeros
  simp only
  split
  · exact List.take_prefix 1 payload
  · exact List.rdropWhile_prefix _ payload

/-- A payload and its trimmed form agree up to the length of the trimmed form. -/
theorem take_trimZeros {payload : List Byte} {bound : ℕ}
    (within : bound ≤ (trimZeros payload).length) :
    (trimZeros payload).take bound = payload.take bound := by
  obtain ⟨zeros, split⟩ := isPrefix_trimZeros payload
  conv_rhs => rw [← split]
  rw [List.take_append_of_le_length within]

/-- A v2 frame of an interpreted message with a given payload. -/
structure ReportFrame (report : Report) (payload : List Byte) where
  frame : V2Frame
  msgid_eq : frame.msgid = report.msgid
  payload_eq : frame.payload = payload

namespace ReportFrame

variable {report : Report} {payload : List Byte}

/-- The message the framer emits for the frame. -/
def message (sent : ReportFrame report payload) : MavlinkMessage :=
  (MavlinkFrame.v2 sent.frame).message

theorem consume_message (sent : ReportFrame report payload)
    (long : report.requiredLength ≤ payload.length) (state : TelemetryState) (nowMs : UInt64) :
    consume state nowMs sent.message =
      report.decode payload { state with valid := true, lastUpdateMs := nowMs } := by
  have payload_eq : (MavlinkFrame.v2 sent.frame).body.payload = payload := sent.payload_eq
  have msgid_eq : (MavlinkFrame.v2 sent.frame).msgid = report.msgid := sent.msgid_eq
  have decoded := consume_frame msgid_eq (by rwa [payload_eq]) state nowMs
  rwa [payload_eq] at decoded

/-- An unsigned frame with a payload that is too short changes the validity and the time, and
nothing else. -/
theorem consume_message_short (sent : ReportFrame report payload)
    (unsigned : signedFlag sent.frame.incompatFlags = false)
    (short : payload.length < report.requiredLength) (state : TelemetryState)
    (nowMs : UInt64) :
    consume state nowMs sent.message =
      { state with valid := true, lastUpdateMs := nowMs } := by
  have size := (MavlinkFrame.v2 sent.frame).length_bytes
  have signature : sent.frame.signature.length = 0 := by
    rw [sent.frame.signature_length, unsigned]
    rfl
  simp only [MavlinkFrame.body, MavlinkFrame.signature, sent.payload_eq, signature] at size
  simp only [consume, message, MavlinkFrame.message, MavlinkMessage.size, MavlinkFrame.msgid,
    sent.msgid_eq, Report.ofMsgid_msgid]
  rw [if_neg (by omega), if_neg (by omega)]

end ReportFrame

/-- **A trimmed payload that keeps the required length shows the same as the full one**,
signed or not, and of an unsigned one trimmed below it only the time is taken. -/
theorem consume_trimmed (report : Report) (payload : List Byte)
    (full : ReportFrame report payload) (trimmed : ReportFrame report (trimZeros payload))
    (state : TelemetryState) (nowMs nowMs' : UInt64) :
    (report.requiredLength ≤ (trimZeros payload).length →
      (consume state nowMs trimmed.message).displayed =
        (consume state nowMs' full.message).displayed) ∧
    ((trimZeros payload).length < report.requiredLength →
      signedFlag trimmed.frame.incompatFlags = false →
        consume state nowMs trimmed.message =
          { state with valid := true, lastUpdateMs := nowMs }) := by
  constructor
  · intro long
    have longer := (isPrefix_trimZeros payload).length_le
    rw [trimmed.consume_message long, full.consume_message (by omega),
      Report.displayed_decode, Report.displayed_decode, Report.decode_congr (take_trimZeros long)]
    rfl
  · exact fun short unsigned => trimmed.consume_message_short unsigned short state nowMs

/-- An unsigned v2 frame of an interpreted message. -/
def reportFrame (report : Report) (payload : List Byte) (short : payload.length ≤ 255) :
    ReportFrame report payload :=
  ⟨.unsigned report.msgid report.msgid_lt payload short, rfl, rfl⟩

/-- A GPS_RAW_INT payload with a 3D fix and a number of satellites. -/
def gpsPayload (satellites : Byte) : List Byte := List.replicate 28 0 ++ [3, satellites]

/-- With fourteen satellites the payload has no trailing zero. With none it is trimmed to
29 bytes, and the fix is not taken. -/
theorem consume_trimmed_gps :
    (consume {} 5
        (reportFrame .gpsRawInt (trimZeros (gpsPayload 14)) (by decide)).message).displayed =
      (consume {} 9 (reportFrame .gpsRawInt (gpsPayload 14) (by decide)).message).displayed ∧
    consume {} 5 (reportFrame .gpsRawInt (trimZeros (gpsPayload 0)) (by decide)).message =
      ({ valid := true, lastUpdateMs := 5 } : TelemetryState) :=
  ⟨(consume_trimmed .gpsRawInt (gpsPayload 14) (reportFrame .gpsRawInt _ (by decide))
      (reportFrame .gpsRawInt _ (by decide)) {} 5 9).1 (by decide),
    (consume_trimmed .gpsRawInt (gpsPayload 0) (reportFrame .gpsRawInt _ (by decide))
      (reportFrame .gpsRawInt _ (by decide)) {} 5 9).2 (by decide) rfl⟩

/-- The payload length of each message without its extension fields. -/
def Report.fullLength : Report → ℕ
  | heartbeat => 9
  | sysStatus => 31
  | attitude => 28
  | globalPositionInt => 28
  | gpsRawInt => 30
  | vfrHud => 20
  | batteryStatus => 36

theorem length_wireBytes_eq (message : TelemetryMessage) :
    message.wireBytes.length = message.report.fullLength := by
  rw [TelemetryMessage.wireBytes_eq]
  cases message <;> rfl

/-- **A trimmed payload does not always show the same**: a 3D fix without satellites. -/
theorem not_consume_trimmed :
    ¬ ∀ (report : Report) (payload : List Byte), payload.length = report.fullLength →
      ∀ (full : ReportFrame report payload) (trimmed : ReportFrame report (trimZeros payload))
        (state : TelemetryState) (nowMs nowMs' : UInt64),
        (consume state nowMs trimmed.message).displayed =
          (consume state nowMs' full.message).displayed := by
  intro all
  have shown := all .gpsRawInt (gpsPayload 0) (by decide)
    (reportFrame .gpsRawInt _ (by decide)) (reportFrame .gpsRawInt _ (by decide)) {} 0 0
  have fix := congrArg TelemetryState.gpsFixType shown
  revert fix
  decide

end Mavlink

end MobileGs
