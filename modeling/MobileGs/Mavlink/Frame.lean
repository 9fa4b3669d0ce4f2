import MobileGs.Mavlink.Framer

/-!
# Well-formed MAVLink frames

A frame of either protocol version, with the bytes a sender puts on the wire. The
length byte, the message id and the presence of a signature are fixed by the fields,
so a frame that does not declare its own length cannot be built.

The framer takes a well-formed frame whole, whatever follows it (`scan_bytes_append`),
and reads back the fields it was built from (`messageOf_bytes`). A stream of such frames
and nothing else is cut exactly at their boundaries (`messagesIn_stream`,
`residue_stream`). A stretch without a magic byte is skipped (`messagesIn_skip`).
-/

set_option autoImplicit false

namespace MobileGs

namespace Mavlink

/-- The fields both versions have. -/
structure FrameBody where
  sequence : Byte
  systemId : Byte
  componentId : Byte
  payload : List Byte
  payload_le : payload.length ≤ 255
  checksumLow : Byte
  checksumHigh : Byte

structure V1Frame extends FrameBody where
  msgid : Byte

/-- A v2 frame. It carries a signature exactly when its incompatibility flags say so. -/
structure V2Frame extends FrameBody where
  incompatFlags : Byte
  compatFlags : Byte
  msgid : UInt32
  msgid_lt : msgid.toNat < 2 ^ 24
  signature : List Byte
  signature_length : signature.length = if signedFlag incompatFlags then signatureSize else 0

/-- An unsigned frame of system 1, component 1, with zero checksum bytes. -/
def V2Frame.unsigned (msgid : UInt32) (msgid_lt : msgid.toNat < 2 ^ 24) (payload : List Byte)
    (payload_le : payload.length ≤ 255) : V2Frame where
  sequence := 0
  systemId := 1
  componentId := 1
  payload := payload
  payload_le := payload_le
  checksumLow := 0
  checksumHigh := 0
  incompatFlags := 0
  compatFlags := 0
  msgid := msgid
  msgid_lt := msgid_lt
  signature := []
  signature_length := rfl

/-- A well-formed MAVLink frame. -/
inductive MavlinkFrame where
  | v1 (frame : V1Frame)
  | v2 (frame : V2Frame)

/-- The length byte of a payload. -/
def FrameBody.lengthByte (body : FrameBody) : Byte := UInt8.ofNat body.payload.length

theorem FrameBody.lengthByte_toNat (body : FrameBody) :
    body.lengthByte.toNat = body.payload.length := by
  have bound := body.payload_le
  rw [FrameBody.lengthByte, UInt8.toNat_ofNat', Nat.mod_eq_of_lt (by omega)]

namespace MavlinkFrame

def isV2 : MavlinkFrame → Bool
  | v1 _ => false
  | v2 _ => true

def body : MavlinkFrame → FrameBody
  | v1 frame => frame.toFrameBody
  | v2 frame => frame.toFrameBody

def msgid : MavlinkFrame → UInt32
  | v1 frame => frame.msgid.toUInt32
  | v2 frame => frame.msgid

/-- The header bytes, from the magic to the message id. -/
def header : MavlinkFrame → List Byte
  | v1 frame =>
      [mavlinkV1Magic, frame.lengthByte, frame.sequence, frame.systemId, frame.componentId,
        frame.msgid]
  | v2 frame =>
      [mavlinkV2Magic, frame.lengthByte, frame.incompatFlags, frame.compatFlags,
        frame.sequence, frame.systemId, frame.componentId, UInt8.ofNat frame.msgid.toNat,
        UInt8.ofNat (frame.msgid.toNat / 2 ^ 8), UInt8.ofNat (frame.msgid.toNat / 2 ^ 16)]

/-- The signature, when there is one. -/
def signature : MavlinkFrame → List Byte
  | v1 _ => []
  | v2 frame => frame.signature

/-- What stands behind the payload: the checksum and the signature. -/
def trailer (frame : MavlinkFrame) : List Byte :=
  [frame.body.checksumLow, frame.body.checksumHigh] ++ frame.signature

/-- The frame on the wire. -/
def bytes (frame : MavlinkFrame) : List Byte :=
  frame.header ++ (frame.body.payload ++ frame.trailer)

/-- The message the frame carries. -/
def message (frame : MavlinkFrame) : MavlinkMessage where
  data := frame.bytes
  msgid := frame.msgid
  systemId := frame.body.systemId
  componentId := frame.body.componentId
  v2 := frame.isV2

@[simp] theorem length_header (frame : MavlinkFrame) :
    frame.header.length = headerSize frame.isV2 := by
  cases frame <;> rfl

theorem length_bytes (frame : MavlinkFrame) :
    frame.bytes.length =
      headerSize frame.isV2 + frame.body.payload.length + checksumSize +
        frame.signature.length := by
  simp only [bytes, trailer, List.length_append, length_header, List.length_cons,
    List.length_nil, checksumSize]
  omega

/-- The header declares the length of the frame. -/
theorem frameLength_bytes (frame : MavlinkFrame) :
    frameLength frame.isV2 frame.bytes = frame.bytes.length := by
  rw [length_bytes]
  cases frame with
  | v1 frame =>
      simp only [frameLength, isV2, bytes, header, List.cons_append, List.getD_cons_succ,
        List.getD_cons_zero, frame.lengthByte_toNat, Bool.false_and, body, signature,
        List.length_nil]
      rfl
  | v2 frame =>
      simp only [frameLength, isV2, bytes, header, List.cons_append, List.getD_cons_succ,
        List.getD_cons_zero, frame.lengthByte_toNat, Bool.true_and, body, signature,
        frame.signature_length]

theorem length_bytes_le (frame : MavlinkFrame) : frame.bytes.length ≤ maxFrameSize := by
  have bound := frame.body.payload_le
  rw [length_bytes]
  cases frame with
  | v1 frame =>
      simp only [isV2, signature, List.length_nil, headerSize, mavlinkV1HeaderSize, checksumSize,
        maxFrameSize, Bool.false_eq_true, if_false] at bound ⊢
      omega
  | v2 frame =>
      have signed : frame.signature.length ≤ signatureSize := by
        rw [frame.signature_length]
        split <;> simp
      simp only [isV2, signature, headerSize, mavlinkV2HeaderSize, checksumSize, maxFrameSize,
        signatureSize, if_true] at bound signed ⊢
      omega

/-- A frame starts with the magic of its version. -/
theorem bytes_eq_cons (frame : MavlinkFrame) :
    ∃ tail, frame.bytes =
      (if frame.isV2 then mavlinkV2Magic else mavlinkV1Magic) :: tail := by
  cases frame <;> exact ⟨_, rfl⟩

/-- The framer takes a well-formed frame whole. -/
theorem frameVerdict_bytes (frame : MavlinkFrame) :
    frameVerdict frame.bytes = .take frame.bytes.length := by
  have declared := frame.frameLength_bytes
  have bounded := frame.length_bytes_le
  have whole : headerSize frame.isV2 ≤ frame.bytes.length := by
    rw [length_bytes]
    omega
  obtain ⟨tail, shape⟩ := frame.bytes_eq_cons
  rw [shape] at declared bounded whole ⊢
  have magic : ((if frame.isV2 then mavlinkV2Magic else mavlinkV1Magic) == mavlinkV2Magic) =
      frame.isV2 := by
    cases frame.isV2 <;> decide
  have known : ¬ ((if frame.isV2 then mavlinkV2Magic else mavlinkV1Magic) ≠ mavlinkV1Magic ∧
      (if frame.isV2 then mavlinkV2Magic else mavlinkV1Magic) ≠ mavlinkV2Magic) := by
    cases frame.isV2 <;> decide
  simp only [frameVerdict, magic, declared]
  rw [if_neg known, if_neg (by omega), if_neg (by omega), if_neg (by omega)]

/-- Three bytes of a 24-bit number put together again. -/
theorem msgid_bytes {id : UInt32} (small : id.toNat < 2 ^ 24) :
    (UInt8.ofNat id.toNat).toUInt32 ||| ((UInt8.ofNat (id.toNat / 2 ^ 8)).toUInt32 <<< 8) |||
      ((UInt8.ofNat (id.toNat / 2 ^ 16)).toUInt32 <<< 16) = id := by
  apply UInt32.toNat_inj.mp
  generalize id.toNat = n at small ⊢
  simp only [UInt32.toNat_or, UInt8.toNat_toUInt32, UInt32.toNat_shiftLeft, UInt8.toNat_ofNat',
    UInt32.toNat_ofNat]
  have low : n % 2 ^ 8 < 2 ^ 8 := Nat.mod_lt _ (by decide)
  have middle : n / 2 ^ 8 % 2 ^ 8 < 2 ^ 8 := Nat.mod_lt _ (by decide)
  have high : n / 2 ^ 16 % 2 ^ 8 < 2 ^ 8 := Nat.mod_lt _ (by decide)
  have first : (n / 2 ^ 8 % 2 ^ 8) <<< 8 % 2 ^ 32 = (n / 2 ^ 8 % 2 ^ 8) <<< 8 := by
    rw [Nat.shiftLeft_eq]
    exact Nat.mod_eq_of_lt (by omega)
  have second : (n / 2 ^ 16 % 2 ^ 8) <<< 16 % 2 ^ 32 = (n / 2 ^ 16 % 2 ^ 8) <<< 16 := by
    rw [Nat.shiftLeft_eq]
    exact Nat.mod_eq_of_lt (by omega)
  have join : n % 2 ^ 8 ||| (n / 2 ^ 8 % 2 ^ 8) <<< 8 = n % 2 ^ 16 := by
    rw [Nat.or_comm, ← Nat.shiftLeft_add_eq_or_of_lt low, Nat.shiftLeft_eq]
    omega
  simp only [first, second, join]
  rw [Nat.or_comm, ← Nat.shiftLeft_add_eq_or_of_lt (Nat.mod_lt _ (by decide)), Nat.shiftLeft_eq]
  omega

/-- **The framer reads back the fields a frame was built from.** -/
theorem messageOf_bytes (frame : MavlinkFrame) : messageOf frame.bytes = frame.message := by
  cases frame with
  | v1 frame =>
      have magic : ¬ (v1 frame).bytes.getD 0 0 = mavlinkV2Magic := by
        simp only [bytes, header, List.cons_append, List.getD_cons_zero]
        decide
      rw [messageOf, if_neg magic]
      rfl
  | v2 frame =>
      have magic : (v2 frame).bytes.getD 0 0 = mavlinkV2Magic := rfl
      have id := msgid_bytes frame.msgid_lt
      rw [messageOf, if_pos magic]
      exact congrArg (fun id =>
        MavlinkMessage.mk (v2 frame).bytes id frame.systemId frame.componentId true) id

/-! ## Streams of frames -/

theorem scan_bytes_append (frame : MavlinkFrame) (more : List Byte) :
    frameScanner.scan (frame.bytes ++ more) =
      (.frame frame.bytes :: (frameScanner.scan more).1, (frameScanner.scan more).2) :=
  frameScanner.scan_frame_append frame.frameVerdict_bytes more

theorem messagesIn_bytes_append (frame : MavlinkFrame) (more : List Byte) :
    messagesIn (frame.bytes ++ more) = frame.message :: messagesIn more := by
  rw [messagesIn, scan_bytes_append, frames_frame, List.map_cons, messageOf_bytes, messagesIn]

theorem residue_bytes_append (frame : MavlinkFrame) (more : List Byte) :
    residue (frame.bytes ++ more) = residue more := by
  rw [residue, scan_bytes_append, residue]

/-- **A stream of frames is cut exactly at their boundaries.** -/
theorem messagesIn_stream (stream : List MavlinkFrame) :
    messagesIn (stream.flatMap bytes) = stream.map message := by
  induction stream with
  | nil => rfl
  | cons frame rest ih => rw [List.flatMap_cons, messagesIn_bytes_append, ih, List.map_cons]

theorem residue_stream (stream : List MavlinkFrame) : residue (stream.flatMap bytes) = [] := by
  induction stream with
  | nil => rfl
  | cons frame rest ih => rw [List.flatMap_cons, residue_bytes_append, ih]

end MavlinkFrame

/-! ## Stretches without a magic byte -/

/-- The bytes a frame may start with. -/
def isMagic (byte : Byte) : Bool := byte == mavlinkV1Magic || byte == mavlinkV2Magic

theorem frameVerdict_skip {byte : Byte} (plain : isMagic byte = false) (tail : List Byte) :
    frameVerdict (byte :: tail) = .skip := by
  simp only [isMagic, Bool.or_eq_false_iff, beq_eq_false_iff_ne] at plain
  exact if_pos plain

/-- Bytes other than a magic are skipped. -/
theorem scan_plain {filler : List Byte} (plain : ∀ byte ∈ filler, isMagic byte = false)
    (more : List Byte) :
    frameScanner.scan (filler ++ more) =
      (filler.map .skipped ++ (frameScanner.scan more).1, (frameScanner.scan more).2) := by
  induction filler with
  | nil => rfl
  | cons byte rest ih =>
      have decided := frameVerdict_skip (plain byte List.mem_cons_self) (rest ++ more)
      rw [List.cons_append, frameScanner.scan_skip decided,
        ih fun b member => plain b (List.mem_cons_of_mem byte member)]
      rfl

theorem frames_map_skipped (filler : List Byte) :
    frames (filler.map Piece.skipped) = [] := by
  induction filler with
  | nil => rfl
  | cons byte rest ih => rw [List.map_cons, frames_skipped, ih]

theorem messagesIn_skip {filler : List Byte} (plain : ∀ byte ∈ filler, isMagic byte = false)
    (more : List Byte) : messagesIn (filler ++ more) = messagesIn more := by
  rw [messagesIn, scan_plain plain, frames_append, frames_map_skipped, List.nil_append, messagesIn]

end Mavlink

end MobileGs
