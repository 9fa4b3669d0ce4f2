import MobileGs.Mavlink.Accepted
import MobileGs.Mavlink.Messages

/-!
# What a payload's length is taken to be

The decoder takes everything behind the header but two checksum bytes for payload. In a
signed frame that includes the checksum and eleven bytes of the signature. A payload that is
too short for its message then passes the length check, and the fields it lacks are read from
the bytes behind it.

What is displayed depends on the header and the declared payload alone exactly where this
cannot happen (`consume_declared_iff`).
-/

set_option autoImplicit false

namespace MobileGs

namespace Mavlink

/-! ## The declared part of a message -/

namespace MavlinkMessage

/-- The payload length in the header. -/
def declaredLength (message : MavlinkMessage) : ℕ := (message.data.getD 1 0).toNat

/-- The header and the payload it declares: all but the checksum and the signature. -/
def declared (message : MavlinkMessage) : List Byte :=
  message.data.take (headerSize message.v2 + message.declaredLength)

def signed (message : MavlinkMessage) : Bool :=
  message.v2 && signedFlag (message.data.getD 2 0)

/-- The message is signed, and its payload is shorter than its case requires, but not by more
than a signature. -/
def ReadsTrailer (message : MavlinkMessage) : Prop :=
  message.signed = true ∧ ∃ report ∈ Report.ofMsgid message.msgid,
    message.declaredLength < report.requiredLength ∧
      report.requiredLength ≤ message.declaredLength + signatureSize

instance (message : MavlinkMessage) : Decidable message.ReadsTrailer :=
  inferInstanceAs (Decidable (_ ∧ ∃ report ∈ Report.ofMsgid message.msgid, _))

end MavlinkMessage

namespace MavlinkFrame

theorem declaredLength_message (frame : MavlinkFrame) :
    frame.message.declaredLength = frame.body.payload.length := by
  cases frame with
  | v1 frame => exact frame.lengthByte_toNat
  | v2 frame => exact frame.lengthByte_toNat

theorem declared_message (frame : MavlinkFrame) :
    frame.message.declared = frame.header ++ frame.body.payload := by
  have length : headerSize frame.isV2 + frame.body.payload.length =
      (frame.header ++ frame.body.payload).length := by
    rw [List.length_append, length_header]
  have data : frame.message.data = (frame.header ++ frame.body.payload) ++ frame.trailer := by
    rw [List.append_assoc]
    rfl
  rw [MavlinkMessage.declared, declaredLength_message, data]
  exact List.take_left' length.symm

theorem length_signature (frame : MavlinkFrame) :
    frame.signature.length = if frame.message.signed then signatureSize else 0 := by
  cases frame with
  | v1 frame => rfl
  | v2 frame => exact frame.signature_length

/-- Frames with the same header and payload have the same version, message id, payload and
signature length. -/
theorem agree_of_declared {frame frame' : MavlinkFrame}
    (same : frame'.message.declared = frame.message.declared) :
    frame'.isV2 = frame.isV2 ∧ frame'.msgid = frame.msgid ∧
      frame'.body.payload = frame.body.payload ∧
      frame'.signature.length = frame.signature.length := by
  rw [declared_message, declared_message] at same
  cases frame with
  | v1 frame =>
      cases frame' with
      | v1 frame' =>
          obtain ⟨headers, payloads⟩ := List.append_inj same rfl
          simp only [header, List.cons.injEq] at headers
          exact ⟨rfl, congrArg UInt8.toUInt32 headers.2.2.2.2.2.1, payloads, rfl⟩
      | v2 frame' => exact absurd (List.cons.inj same).1 (by decide)
  | v2 frame =>
      cases frame' with
      | v1 frame' => exact absurd (List.cons.inj same).1 (by decide)
      | v2 frame' =>
          obtain ⟨headers, payloads⟩ := List.append_inj same rfl
          simp only [header, List.cons.injEq] at headers
          obtain ⟨-, -, flags, -, -, -, -, low, middle, high, -⟩ := headers
          have ids : frame'.msgid = frame.msgid := by
            rw [← msgid_bytes frame'.msgid_lt, ← msgid_bytes frame.msgid_lt, low, middle, high]
          refine ⟨rfl, ids, payloads, ?_⟩
          simp only [signature, frame.signature_length, frame'.signature_length, flags]

/-- What is behind the header of a frame. -/
theorem drop_header (frame : MavlinkFrame) :
    frame.bytes.drop (headerSize frame.isV2) = frame.body.payload ++ frame.trailer := by
  rw [bytes, ← frame.length_header, List.drop_left]

/-- A message no case interprets. -/
theorem consume_unknown {frame : MavlinkFrame} (unknown : Report.ofMsgid frame.msgid = none)
    (state : TelemetryState) (nowMs : UInt64) :
    consume state nowMs frame.message = { state with valid := true, lastUpdateMs := nowMs } := by
  have size := frame.length_bytes
  simp only [consume, message, MavlinkMessage.size, unknown]
  rw [if_neg (by omega)]

/-- The decoder takes the payload to be as long as the payload and the signature together. -/
theorem consume_known {frame : MavlinkFrame} {report : Report}
    (known : Report.ofMsgid frame.msgid = some report) (state : TelemetryState) (nowMs : UInt64) :
    consume state nowMs frame.message =
      if report.requiredLength ≤ frame.body.payload.length + frame.signature.length then
        report.decode (frame.body.payload ++ frame.trailer)
          { state with valid := true, lastUpdateMs := nowMs }
      else { state with valid := true, lastUpdateMs := nowMs } := by
  have size := frame.length_bytes
  simp only [consume, message, MavlinkMessage.size, drop_header, known]
  rw [if_neg (by omega)]
  have payloadLen : frame.bytes.length - headerSize frame.isV2 - checksumSize =
      frame.body.payload.length + frame.signature.length := by omega
  rw [payloadLen]

/-- **Frames with the same header and payload show the same**, unless the decoder reads what is
behind the payload. -/
theorem displayed_of_declared {frame frame' : MavlinkFrame}
    (same : frame'.message.declared = frame.message.declared)
    (within : ¬ frame.message.ReadsTrailer) (state : TelemetryState) (nowMs nowMs' : UInt64) :
    (consume state nowMs frame.message).displayed =
      (consume state nowMs' frame'.message).displayed := by
  obtain ⟨-, ids, payloads, signatures⟩ := agree_of_declared same
  cases known : Report.ofMsgid frame.msgid with
  | none =>
      rw [consume_unknown known, consume_unknown (ids ▸ known)]
      rfl
  | some report =>
      rw [consume_known known, consume_known (ids ▸ known), payloads, signatures]
      by_cases long : report.requiredLength ≤ frame.body.payload.length + frame.signature.length
      · have enough : report.requiredLength ≤ frame.body.payload.length := by
          by_contra short
          apply within
          have extra := frame.length_signature
          cases isSigned : frame.message.signed with
          | false =>
              rw [isSigned, if_neg (by decide)] at extra
              omega
          | true =>
              rw [isSigned, if_pos rfl] at extra
              refine ⟨isSigned, report, known, ?_, ?_⟩
              all_goals
                rw [declaredLength_message]
                omega
        rw [if_pos long, if_pos long, Report.displayed_decode, Report.displayed_decode]
        apply Report.decode_congr
        rw [List.take_append_of_le_length enough, List.take_append_of_le_length enough]
      · rw [if_neg long, if_neg long]
        rfl

end MavlinkFrame

/-! ## A byte behind the payload that is read -/

theorem leNat_append (first later : List Byte) :
    leNat (first ++ later) = leNat first + 256 ^ first.length * leNat later := by
  rw [leNat, List.map_append, Nat.ofDigits_append, List.length_map]
  rfl

/-- The last byte of a little-endian number. -/
theorem readLe_high {payload : List Byte} {offset : ℕ} (width : ℕ)
    (inside : offset + width < payload.length) :
    readLe (width + 1) payload offset / 256 ^ width = (byteAt payload (offset + width)).toNat := by
  have last : (payload.drop offset).take (width + 1) =
      (payload.drop offset).take width ++ [payload[offset + width]] := by
    rw [List.take_add_one, List.getElem?_drop, List.getElem?_eq_getElem inside]
    rfl
  have front : ((payload.drop offset).take width).length = width := by
    rw [List.length_take, List.length_drop]
    omega
  have small := leNat_lt ((payload.drop offset).take width)
  rw [front] at small
  rw [readLe, last, leNat_append, front, leNat_cons, leNat_nil, Nat.mul_zero, Nat.add_zero,
    Nat.add_mul_div_left _ _ (by positivity), Nat.div_eq_of_lt small, Nat.zero_add, byteAt,
    List.getD_eq_getElem _ _ inside]

/-- The high byte of a 16-bit field. -/
theorem readU16_high {payload : List Byte} {offset : ℕ} (inside : offset + 1 < payload.length) :
    (readU16 payload offset).toNat / 256 = (byteAt payload (offset + 1)).toNat := by
  have small := leNat_lt ((payload.drop offset).take 2)
  have two : ((payload.drop offset).take 2).length ≤ 2 := List.length_take_le _ _
  have bound : leNat ((payload.drop offset).take 2) < 2 ^ 16 :=
    Nat.lt_of_lt_of_le small (Nat.pow_le_pow_right (by decide) two)
  rw [readU16, UInt16.toNat_ofNat', readLe, Nat.mod_eq_of_lt bound]
  exact readLe_high 1 inside

/-- The high byte of a 32-bit field. -/
theorem readU32_high {payload : List Byte} {offset : ℕ} (inside : offset + 3 < payload.length) :
    (readU32 payload offset).toNat / 2 ^ 24 = (byteAt payload (offset + 3)).toNat := by
  have small := leNat_lt ((payload.drop offset).take 4)
  have four : ((payload.drop offset).take 4).length ≤ 4 := List.length_take_le _ _
  have bound : leNat ((payload.drop offset).take 4) < 2 ^ 32 :=
    Nat.lt_of_lt_of_le small (Nat.pow_le_pow_right (by decide) four)
  rw [readU32, UInt32.toNat_ofNat', readLe, Nat.mod_eq_of_lt bound]
  exact readLe_high 3 inside

theorem byteAt_set {payload : List Byte} {index : ℕ} (inside : index < payload.length)
    (byte : Byte) : byteAt (payload.set index byte) index = byte := by
  rw [byteAt, List.getD_eq_getElem _ _ (by rwa [List.length_set]), List.getElem_set_self]

/-- Another value of a byte, and not 255. -/
def alter (byte : Byte) : Byte := if byte = 0 then 1 else 0

theorem alter_ne (byte : Byte) : alter byte ≠ byte := by
  unfold alter
  split
  · rename_i zero
    rw [zero]
    decide
  · rename_i nonzero
    exact Ne.symm nonzero

theorem alter_toNat (byte : Byte) : (alter byte).toNat ≤ 1 := by
  unfold alter
  split <;> decide

/-- A signed byte is read back from the field it is copied to. -/
theorem toInt8_injective {byte byte' : Byte} (same : byte'.toInt8 = byte.toInt8) :
    byte' = byte := by
  have bytes := congrArg Int8.toUInt8 same
  rwa [UInt8.toUInt8_toInt8, UInt8.toUInt8_toInt8] at bytes

section LastByte

variable {payload payload' : List Byte}

theorem readU16_differs (offset : ℕ) (inside : offset + 1 < payload.length)
    (length : payload'.length = payload.length)
    (differ : byteAt payload' (offset + 1) ≠ byteAt payload (offset + 1)) :
    readU16 payload' offset ≠ readU16 payload offset := by
  intro same
  have high := readU16_high inside
  have high' := readU16_high (length ▸ inside)
  rw [same, high] at high'
  exact differ (UInt8.toNat_inj.mp high'.symm)

theorem readU32_differs (offset : ℕ) (inside : offset + 3 < payload.length)
    (length : payload'.length = payload.length)
    (differ : byteAt payload' (offset + 3) ≠ byteAt payload (offset + 3)) :
    readU32 payload' offset ≠ readU32 payload offset := by
  intro same
  have high := readU32_high inside
  have high' := readU32_high (length ▸ inside)
  rw [same, high] at high'
  exact differ (UInt8.toNat_inj.mp high'.symm)

/-- Two headings one of which is known are shown differently from some state. -/
theorem heading_differs {first second : UInt16} (known : first ≠ 0xffff)
    (differ : first ≠ second) :
    ∃ state : TelemetryState,
      (if first ≠ 0xffff then Binary32.quotient first.toNat 100 else state.headingDeg) ≠
        (if second ≠ 0xffff then Binary32.quotient second.toNat 100 else state.headingDeg) := by
  by_cases unknown : second = 0xffff
  · obtain ⟨other, differs⟩ :
        ∃ other : FloatBits, other ≠ Binary32.quotient first.toNat 100 := by
      by_cases zero : Binary32.quotient first.toNat 100 = 0
      · exact ⟨1, by rw [zero]; decide⟩
      · exact ⟨0, Ne.symm zero⟩
    refine ⟨{ headingDeg := other }, ?_⟩
    rw [if_pos known, if_neg (not_not.mpr unknown)]
    exact differs.symm
  · refine ⟨{}, ?_⟩
    rw [if_pos known, if_pos unknown]
    intro same
    rw [Binary32.quotient_injective (by simpa using first.toNat_lt)
      (by simpa using second.toNat_lt) (by decide) (by decide), Nat.cast_inj,
      UInt16.toNat_inj] at same
    exact differ same

/-- **Every case shows the last byte it requires**: with another value there, some state shows
something else. -/
theorem decode_differs (report : Report) (long : report.requiredLength ≤ payload.length)
    (length : payload'.length = payload.length)
    (differ : byteAt payload' (report.requiredLength - 1) ≠
      byteAt payload (report.requiredLength - 1))
    (low : (byteAt payload' (report.requiredLength - 1)).toNat ≤ 1) :
    ∃ state : TelemetryState,
      (report.decode payload { state with valid := true, lastUpdateMs := 0 }).displayed ≠
        (report.decode payload' { state with valid := true, lastUpdateMs := 0 }).displayed := by
  cases report with
  | heartbeat => exact ⟨{}, fun same => differ (congrArg TelemetryState.systemStatus same.symm)⟩
  | sysStatus =>
      refine ⟨{}, fun same => differ (toInt8_injective ?_)⟩
      exact congrArg TelemetryState.batteryRemainingPct same.symm
  | attitude =>
      refine ⟨{}, fun same => readU32_differs 12 long length differ ?_⟩
      exact congrArg TelemetryState.yawRad same.symm
  | globalPositionInt =>
      have known : readU16 payload' 26 ≠ 0xffff := by
        intro unknown
        have high := readU16_high (length ▸ long : 27 < payload'.length)
        rw [unknown] at high
        have small : (byteAt payload' 27).toNat ≤ 1 := low
        rw [← high] at small
        exact absurd small (by decide)
      obtain ⟨state, shown⟩ := heading_differs known (readU16_differs 26 long length differ)
      exact ⟨state, fun same => shown (congrArg TelemetryState.headingDeg same.symm)⟩
  | gpsRawInt => exact ⟨{}, fun same => differ (congrArg TelemetryState.satellites same.symm)⟩
  | vfrHud =>
      refine ⟨{}, fun same => readU16_differs 18 long length differ ?_⟩
      exact congrArg TelemetryState.throttlePct same.symm
  | batteryStatus =>
      refine ⟨{}, fun same => differ (toInt8_injective ?_)⟩
      exact congrArg TelemetryState.batteryRemainingPct same.symm

end LastByte

theorem isV2_bytes (frame : MavlinkFrame) : isV2 frame.bytes = frame.isV2 := by
  cases frame <;> rfl

/-- A frame with one byte behind its payload replaced. -/
theorem exists_altered (frame : MavlinkFrame) {index : ℕ} (byte : Byte)
    (behind : headerSize frame.isV2 + frame.body.payload.length ≤ index) :
    ∃ frame' : MavlinkFrame, frame'.bytes = frame.bytes.set index byte ∧
      frame'.message.declared = frame.message.declared := by
  have header : 6 ≤ headerSize frame.isV2 := by cases frame.isV2 <;> decide
  have front : ∀ i < 6, (frame.bytes.set index byte).getD i 0 = frame.bytes.getD i 0 := by
    intro i small
    rw [List.getD_eq_getElem?_getD, List.getD_eq_getElem?_getD, List.getElem?_set_ne (by omega)]
  obtain ⟨magic, declared, -, -⟩ := frameVerdict_take frame.frameVerdict_bytes
  have version : isV2 (frame.bytes.set index byte) = isV2 frame.bytes := by
    rw [isV2, isV2, front 0 (by decide)]
  have length : frameLength (isV2 frame.bytes) (frame.bytes.set index byte) =
      frameLength (isV2 frame.bytes) frame.bytes := by
    unfold frameLength
    rw [front 1 (by decide), front 2 (by decide)]
  obtain ⟨frame', same⟩ : ∃ frame' : MavlinkFrame, frame'.bytes = frame.bytes.set index byte := by
    apply exists_frame
    · rwa [front 0 (by decide)]
    · rw [List.length_set, version, length]
      exact declared
  refine ⟨frame', same, ?_⟩
  have version' : frame'.isV2 = frame.isV2 := by
    rw [← isV2_bytes, ← isV2_bytes, same, version]
  have data : frame'.message.data = frame.bytes.set index byte := same
  have lengthByte : frame'.message.declaredLength = frame.message.declaredLength := by
    rw [MavlinkMessage.declaredLength, data, front 1 (by decide)]
    rfl
  have v2 : frame'.message.v2 = frame.isV2 := version'
  rw [MavlinkMessage.declared, lengthByte, v2, data, List.take_set_of_le]
  · rfl
  · rwa [MavlinkFrame.declaredLength_message]

/-- **A frame whose trailer is read shows something else with another trailer.** -/
theorem exists_displayed_differs {frame : MavlinkFrame} (reads : frame.message.ReadsTrailer) :
    ∃ frame' : MavlinkFrame, frame'.message.declared = frame.message.declared ∧
      ∃ state, (consume state 0 frame.message).displayed ≠
        (consume state 0 frame'.message).displayed := by
  obtain ⟨isSigned, report, known, short, near⟩ := reads
  have extra := frame.length_signature
  rw [isSigned, if_pos rfl] at extra
  rw [MavlinkFrame.declaredLength_message] at short near
  have size := frame.length_bytes
  have behind : headerSize frame.isV2 + frame.body.payload.length ≤
      headerSize frame.isV2 + (report.requiredLength - 1) := by omega
  have trailer : frame.trailer.length = checksumSize + signatureSize := by
    rw [MavlinkFrame.trailer, List.length_append, extra]
    rfl
  have long : report.requiredLength ≤ (frame.body.payload ++ frame.trailer).length := by
    rw [List.length_append, trailer, checksumSize]
    omega
  obtain ⟨frame', same, declared⟩ := exists_altered frame
    (alter (byteAt (frame.body.payload ++ frame.trailer) (report.requiredLength - 1))) behind
  obtain ⟨version, ids, payloads, signatures⟩ := MavlinkFrame.agree_of_declared declared
  have changed : frame'.body.payload ++ frame'.trailer =
      (frame.body.payload ++ frame.trailer).set (report.requiredLength - 1)
        (alter (byteAt (frame.body.payload ++ frame.trailer) (report.requiredLength - 1))) := by
    rw [← frame'.drop_header, version, same, List.drop_set, if_neg (by omega),
      Nat.add_sub_cancel_left, frame.drop_header]
  have inside : report.requiredLength - 1 < (frame.body.payload ++ frame.trailer).length := by
    omega
  have stored := byteAt_set inside
    (alter (byteAt (frame.body.payload ++ frame.trailer) (report.requiredLength - 1)))
  rw [← changed] at stored
  obtain ⟨state, differs⟩ := decode_differs report long
    (by rw [changed, List.length_set]) (stored ▸ alter_ne _) (stored ▸ alter_toNat _)
  refine ⟨frame', declared, state, ?_⟩
  have interpreted : Report.ofMsgid frame.msgid = some report := known
  have interpreted' : Report.ofMsgid frame'.msgid = some report := ids.symm ▸ interpreted
  have shown := MavlinkFrame.consume_known interpreted state 0
  have shown' := MavlinkFrame.consume_known interpreted' state 0
  rw [if_pos (by omega)] at shown
  rw [if_pos (by rw [payloads, signatures]; omega)] at shown'
  rw [shown, shown']
  exact differs

/-! ## Messages the framer emits -/

/-- **What is displayed depends on the header and the declared payload alone, unless the decoder
reads the trailer.** Two messages the framer emits that agree on both show the same from every
state, whatever their checksums and signatures, exactly when the message is not a signed one
whose payload is up to thirteen bytes too short for its case. -/
theorem consume_declared_iff (chunks : List (List Byte)) (message : MavlinkMessage)
    (emitted : message ∈ MavlinkFramer.pushes.outputs { callback := true } chunks) :
    (∀ (chunks' : List (List Byte)) (message' : MavlinkMessage),
      message' ∈ MavlinkFramer.pushes.outputs { callback := true } chunks' →
      message'.declared = message.declared → ∀ (state : TelemetryState) (nowMs nowMs' : UInt64),
        (consume state nowMs message).displayed = (consume state nowMs' message').displayed) ↔
      ¬ message.ReadsTrailer := by
  rw [outputs_eq_messagesIn] at emitted
  obtain ⟨frame, rfl⟩ := messagesIn_frames _ message emitted
  constructor
  · intro alike reads
    obtain ⟨frame', declared, state, differs⟩ := exists_displayed_differs reads
    apply differs
    apply alike [frame'.bytes] frame'.message _ declared
    rw [outputs_eq_messagesIn, List.flatten_singleton, ← List.append_nil frame'.bytes,
      frame'.messagesIn_bytes_append]
    exact List.mem_cons_self
  · intro within chunks' message' emitted' declared state nowMs nowMs'
    rw [outputs_eq_messagesIn] at emitted'
    obtain ⟨frame', rfl⟩ := messagesIn_frames _ message' emitted'
    exact MavlinkFrame.displayed_of_declared declared within state nowMs nowMs'

/-- A signed GPS_RAW_INT with a 3D fix, whose payload goes up to the number of satellites and may
hold it. -/
def signedGps (satellites : List Byte) (short : satellites.length ≤ 1) (checksumLow : Byte) :
    MavlinkFrame :=
  .v2
    { sequence := 0, systemId := 1, componentId := 1
      payload := List.replicate 28 0 ++ 3 :: satellites
      payload_le := by
        rw [List.length_append, List.length_replicate, List.length_cons]
        omega
      checksumLow, checksumHigh := 0, incompatFlags := 1, compatFlags := 0, msgid := 24
      msgid_lt := by decide, signature := List.replicate 13 0, signature_length := rfl }

/-- With the number of satellites in the payload the checksum and the signature do not matter. -/
theorem consume_declared_iff_gps :
    ¬ (signedGps [14] (by decide) 7).message.ReadsTrailer ∧
      ∀ (chunks' : List (List Byte)) (message' : MavlinkMessage),
        message' ∈ MavlinkFramer.pushes.outputs { callback := true } chunks' →
        message'.declared = (signedGps [14] (by decide) 7).message.declared →
        ∀ (state : TelemetryState) (nowMs nowMs' : UInt64),
          (consume state nowMs (signedGps [14] (by decide) 7).message).displayed =
            (consume state nowMs' message').displayed :=
  ⟨by decide,
    (consume_declared_iff [(signedGps [14] (by decide) 7).bytes] _ (by decide)).mpr (by decide)⟩

/-- Without it the first checksum byte is shown as the number of satellites. -/
theorem not_consume_declared :
    ¬ ∀ (chunks chunks' : List (List Byte)) (message message' : MavlinkMessage),
      message ∈ MavlinkFramer.pushes.outputs { callback := true } chunks →
      message' ∈ MavlinkFramer.pushes.outputs { callback := true } chunks' →
      message'.declared = message.declared → ∀ (state : TelemetryState) (nowMs nowMs' : UInt64),
        (consume state nowMs message).displayed = (consume state nowMs' message').displayed := by
  intro all
  have alike := all [(signedGps [] (by decide) 7).bytes] [(signedGps [] (by decide) 9).bytes]
    (signedGps [] (by decide) 7).message (signedGps [] (by decide) 9).message (by decide)
    (by decide) (by decide) {} 0 0
  have satellites := congrArg TelemetryState.satellites alike
  revert satellites
  decide

end Mavlink

end MobileGs
