import MobileGs.Msp.Decoder

/-!
# Well-formed MSP frames

A frame of either protocol version, with the bytes a sender puts on the wire. Its size
bytes and its checksum are computed from the fields, so every frame that can be built is
valid.

An idle decoder that reads a frame dispatches its message once and is idle again
(`run_bytes`), whatever the fields of the decoder hold from the frame before. Bytes other
than `$` leave an idle decoder as it is (`run_filler`).
-/

set_option autoImplicit false

namespace MobileGs

namespace Msp

/-- The three direction bytes. -/
inductive Direction where
  | toController
  | fromController
  | error
  deriving DecidableEq, Repr

def Direction.byte : Direction → Byte
  | .toController => Msp.toController
  | .fromController => Msp.fromController
  | .error => errorMark

/-- An MSP v1 frame. -/
structure V1Frame where
  direction : Direction
  command : Byte
  payload : List Byte
  payload_le : payload.length ≤ 255

/-- An MSP v2 frame of a size the decoder takes for plausible. -/
structure V2Frame where
  direction : Direction
  flags : Byte
  function : UInt16
  payload : List Byte
  payload_le : payload.length ≤ 1024

/-- A message: its function and its payload. -/
abbrev Message := UInt16 × List Byte

namespace V1Frame

def size (frame : V1Frame) : Byte := UInt8.ofNat frame.payload.length

/-- The bytes the checksum covers. -/
def covered (frame : V1Frame) : List Byte := frame.size :: frame.command :: frame.payload

def checksum (frame : V1Frame) : Byte := frame.covered.foldl (· ^^^ ·) 0

def bytes (frame : V1Frame) : List Byte :=
  dollar :: letterM :: frame.direction.byte :: (frame.covered ++ [frame.checksum])

def message (frame : V1Frame) : Message := (frame.command.toUInt16, frame.payload)

end V1Frame

namespace V2Frame

/-- The bytes the checksum covers. -/
def covered (frame : V2Frame) : List Byte :=
  frame.flags :: (leBytes 2 frame.function.toNat ++ leBytes 2 frame.payload.length ++
    frame.payload)

def checksum (frame : V2Frame) : Byte := frame.covered.foldl crc8DvbS2 0

def bytes (frame : V2Frame) : List Byte :=
  dollar :: letterX :: frame.direction.byte :: (frame.covered ++ [frame.checksum])

def message (frame : V2Frame) : Message := (frame.function, frame.payload)

end V2Frame

/-- A valid MSP frame. -/
inductive MspFrame where
  | v1 (frame : V1Frame)
  | v2 (frame : V2Frame)

namespace MspFrame

def bytes : MspFrame → List Byte
  | v1 frame => frame.bytes
  | v2 frame => frame.bytes

def message : MspFrame → Message
  | v1 frame => frame.message
  | v2 frame => frame.message

end MspFrame

/-! ## Numbers put together again -/

/-- Two little-endian bytes put together again. -/
theorem word_bytes {n : ℕ} (small : n < 2 ^ 16) :
    (UInt8.ofNat n).toUInt16 ||| ((UInt8.ofNat (n / 256)).toUInt16 <<< 8) = UInt16.ofNat n := by
  apply UInt16.toNat_inj.mp
  simp only [UInt16.toNat_or, UInt8.toNat_toUInt16, UInt16.toNat_shiftLeft, UInt8.toNat_ofNat',
    UInt16.toNat_ofNat, UInt16.toNat_ofNat']
  have high : (n / 256 % 2 ^ 8) <<< 8 % 2 ^ 16 = (n / 256 % 2 ^ 8) <<< 8 := by
    rw [Nat.shiftLeft_eq]
    exact Nat.mod_eq_of_lt (by omega)
  rw [high, Nat.or_comm, ← Nat.shiftLeft_add_eq_or_of_lt (Nat.mod_lt _ (by decide)),
    Nat.shiftLeft_eq]
  omega

/-! ## Reading a frame -/

open MspOsdDecoder

theorem direction_isDirection (direction : Direction) : isDirection direction.byte = true := by
  cases direction <;> rfl

/-- In the state `reading` each byte is appended to the payload and enters the checksum, and
the last one leads to the state `done`. -/
def ReadsPayload (reading done : State) (combine : Byte → Byte → Byte) : Prop :=
  ∀ (decoder : MspOsdDecoder) (byte : Byte), decoder.state = reading →
    decoder.handleByte byte =
      ({ decoder with
          payload := decoder.payload ++ [byte]
          checksum := combine decoder.checksum byte
          state :=
            if decoder.payload.length + 1 ≥ decoder.expectedSize.toNat then done
            else reading }, [])

theorem readsPayload_v1 : ReadsPayload .v1Payload .v1Checksum (· ^^^ ·) :=
  fun decoder byte turn => by simp only [handleByte, turn]

theorem readsPayload_v2 : ReadsPayload .v2Payload .v2Checksum crc8DvbS2 :=
  fun decoder byte turn => by simp only [handleByte, turn]

section Payload

variable {reading done : State} {combine : Byte → Byte → Byte}

theorem ReadsPayload.run (reads : ReadsPayload reading done combine) (decoder : MspOsdDecoder)
    (first : Byte) (rest more : List Byte) (turn : decoder.state = reading)
    (size : decoder.payload.length + (first :: rest).length = decoder.expectedSize.toNat) :
    bytewise.run decoder (first :: rest ++ more) =
      bytewise.run
        { decoder with
          payload := decoder.payload ++ first :: rest
          checksum := (first :: rest).foldl combine decoder.checksum
          state := done } more := by
  induction rest generalizing decoder first with
  | nil =>
      rw [List.length_singleton] at size
      rw [List.singleton_append, bytewise.run_cons_silent (reads decoder first turn),
        if_pos (by omega)]
      rfl
  | cons second rest ih =>
      rw [List.length_cons] at size
      rw [List.cons_append, bytewise.run_cons_silent (reads decoder first turn),
        if_neg (by rw [List.length_cons] at size; omega)]
      rw [ih _ second rfl (by simp only [List.length_append, List.length_singleton]; omega)]
      simp only [List.append_assoc, List.singleton_append, List.foldl_cons]

/-- The payload behind its size. An empty payload goes to the checksum at once. -/
theorem ReadsPayload.run_sized (reads : ReadsPayload reading done combine)
    (decoder : MspOsdDecoder) (payload more : List Byte) (empty : decoder.payload = [])
    (size : payload.length = decoder.expectedSize.toNat)
    (turn : decoder.state = if decoder.expectedSize > 0 then reading else done) :
    bytewise.run decoder (payload ++ more) =
      bytewise.run
        { decoder with
          payload := payload
          checksum := payload.foldl combine decoder.checksum
          state := done } more := by
  have positive : decoder.expectedSize > 0 ↔ 0 < payload.length := by
    rw [gt_iff_lt, UInt16.lt_iff_toNat_lt, size]
    rfl
  cases payload with
  | nil =>
      rw [if_neg (by rw [positive]; exact Nat.lt_irrefl 0)] at turn
      rw [List.nil_append, List.foldl_nil, ← empty, ← turn]
  | cons first rest =>
      rw [if_pos (positive.mpr (Nat.succ_pos _))] at turn
      rw [reads.run decoder first rest more turn (by rw [empty, ← size]; simp), empty,
        List.nil_append]

end Payload

/-- An idle decoder at the start of a frame, up to the direction byte. -/
theorem run_header {decoder : MspOsdDecoder} (idle : decoder.state = .idle) (v2 : Bool)
    (direction : Direction) (more : List Byte) :
    bytewise.run decoder
        (dollar :: (if v2 then letterX else letterM) :: direction.byte :: more) =
      bytewise.run
        { decoder with
          v2 := v2, payload := [], checksum := 0,
          state := if v2 then .v2Flags else .v1Size } more := by
  have first : bytewise.step decoder dollar = ({ decoder with state := .headerM }, []) := by
    simp only [bytewise, handleByte, idle, if_true]
  have second : bytewise.step { decoder with state := .headerM }
      (if v2 then letterX else letterM) =
        ({ decoder with v2 := v2, state := .headerArrow }, []) := by
    cases v2 <;> rfl
  have third : bytewise.step { decoder with v2 := v2, state := .headerArrow } direction.byte =
      ({ decoder with
          v2 := v2, payload := [], checksum := 0,
          state := if v2 then .v2Flags else .v1Size }, []) := by
    simp only [bytewise, handleByte, direction_isDirection, if_true]
  rw [bytewise.run_cons_silent first, bytewise.run_cons_silent second,
    bytewise.run_cons_silent third]

theorem V1Frame.size_toNat (frame : V1Frame) :
    frame.size.toUInt16.toNat = frame.payload.length := by
  have bound := frame.payload_le
  rw [UInt8.toNat_toUInt16, V1Frame.size, UInt8.toNat_ofNat', Nat.mod_eq_of_lt (by omega)]

/-- The decoder in front of the checksum of a v1 frame. -/
def V1Frame.read (frame : V1Frame) (decoder : MspOsdDecoder) : MspOsdDecoder :=
  { decoder with
    v2 := false
    function := frame.command.toUInt16
    expectedSize := frame.size.toUInt16
    payload := frame.payload
    checksum := frame.checksum
    state := .v1Checksum }

theorem V1Frame.run_covered {decoder : MspOsdDecoder} (frame : V1Frame) (more : List Byte)
    (turn : decoder.state = .v1Size) (version : decoder.v2 = false)
    (empty : decoder.payload = []) :
    bytewise.run decoder (frame.covered ++ more) =
      bytewise.run (frame.read decoder) more := by
  have size : bytewise.step decoder frame.size =
      ({ decoder with
          expectedSize := frame.size.toUInt16, checksum := frame.size,
          state := .v1Command }, []) := by
    simp only [bytewise, handleByte, turn]
  rw [V1Frame.covered, List.cons_append, bytewise.run_cons_silent size, List.cons_append,
    bytewise.run_cons_silent rfl]
  refine (readsPayload_v1.run_sized _ frame.payload more ?_ frame.size_toNat.symm ?_).trans ?_
  · exact empty
  · rfl
  simp only [V1Frame.read, V1Frame.checksum, V1Frame.covered, List.foldl_cons, UInt8.zero_xor,
    version]

theorem V2Frame.function_bytes (frame : V2Frame) :
    (UInt8.ofNat frame.function.toNat).toUInt16 |||
      ((UInt8.ofNat (frame.function.toNat / 256)).toUInt16 <<< 8) = frame.function := by
  rw [word_bytes frame.function.toNat_lt, UInt16.ofNat_toNat]

theorem V2Frame.size_bytes (frame : V2Frame) :
    (UInt8.ofNat frame.payload.length).toUInt16 |||
      ((UInt8.ofNat (frame.payload.length / 256)).toUInt16 <<< 8) =
        UInt16.ofNat frame.payload.length := by
  have bound := frame.payload_le
  exact word_bytes (by omega)

theorem V2Frame.size_toNat (frame : V2Frame) :
    (UInt16.ofNat frame.payload.length).toNat = frame.payload.length := by
  have bound := frame.payload_le
  rw [UInt16.toNat_ofNat', Nat.mod_eq_of_lt (by omega)]

/-- The decoder in front of the checksum of a v2 frame. -/
def V2Frame.read (frame : V2Frame) (decoder : MspOsdDecoder) : MspOsdDecoder :=
  { decoder with
    v2 := true
    function := frame.function
    expectedSize := UInt16.ofNat frame.payload.length
    payload := frame.payload
    checksum := frame.checksum
    state := .v2Checksum }

theorem V2Frame.run_covered {decoder : MspOsdDecoder} (frame : V2Frame) (more : List Byte)
    (turn : decoder.state = .v2Flags) (version : decoder.v2 = true)
    (empty : decoder.payload = []) :
    bytewise.run decoder (frame.covered ++ more) =
      bytewise.run (frame.read decoder) more := by
  have flags : bytewise.step decoder frame.flags =
      ({ decoder with checksum := crc8DvbS2 0 frame.flags, state := .v2FunctionLo }, []) := by
    simp only [bytewise, handleByte, turn]
  have accepted : ¬ UInt16.ofNat frame.payload.length > 1024 := by
    have bound := frame.payload_le
    rw [gt_iff_lt, UInt16.lt_iff_toNat_lt, frame.size_toNat]
    exact Nat.not_lt.mpr bound
  rw [V2Frame.covered, List.cons_append, bytewise.run_cons_silent flags]
  simp only [leBytes, List.cons_append, List.nil_append]
  rw [bytewise.run_cons_silent rfl, bytewise.run_cons_silent rfl, bytewise.run_cons_silent rfl,
    bytewise.run_cons_silent rfl]
  simp only [frame.function_bytes, frame.size_bytes, if_neg accepted]
  refine (readsPayload_v2.run_sized _ frame.payload more ?_ frame.size_toNat.symm ?_).trans ?_
  · exact empty
  · rfl
  simp only [V2Frame.read, V2Frame.checksum, V2Frame.covered, leBytes, List.cons_append,
    List.nil_append, List.foldl_cons, version]

/-! ## Frames and what stands between them -/

/-- The decoder at the checksum of a frame. -/
def MspFrame.read (frame : MspFrame) (decoder : MspOsdDecoder) : MspOsdDecoder :=
  match frame with
  | .v1 frame => frame.read decoder
  | .v2 frame => frame.read decoder

/-- **A frame is read and dispatched**, and the decoder is idle again. -/
theorem run_bytes {decoder : MspOsdDecoder} (idle : decoder.state = .idle) (frame : MspFrame) :
    bytewise.run decoder frame.bytes =
      ({ (frame.read decoder).dispatchMessage.1 with state := .idle },
        (frame.read decoder).dispatchMessage.2) := by
  cases frame with
  | v1 frame =>
      have header := run_header idle false frame.direction (frame.covered ++ [frame.checksum])
      apply header.trans
      rw [frame.run_covered _ rfl rfl rfl, Mealy.run_singleton]
      simp only [bytewise, handleByte, V1Frame.read, checkFrame, MspFrame.read, if_true]
  | v2 frame =>
      have header := run_header idle true frame.direction (frame.covered ++ [frame.checksum])
      apply header.trans
      rw [frame.run_covered _ rfl rfl rfl, Mealy.run_singleton]
      simp only [bytewise, handleByte, V2Frame.read, checkFrame, MspFrame.read, if_true]

/-- Bytes other than `$` leave an idle decoder as it is. -/
theorem run_filler {decoder : MspOsdDecoder} (idle : decoder.state = .idle) {filler : List Byte}
    (plain : dollar ∉ filler) (more : List Byte) :
    bytewise.run decoder (filler ++ more) = bytewise.run decoder more := by
  induction filler with
  | nil => rfl
  | cons byte rest ih =>
      obtain ⟨other, plain⟩ := not_or.mp (mt List.mem_cons.mpr plain)
      have ignored : bytewise.step decoder byte = (decoder, []) := by
        simp only [bytewise, handleByte, idle, if_neg (Ne.symm other)]
      rw [List.cons_append, bytewise.run_cons_silent ignored, ih plain]

end Msp

end MobileGs
