import MobileGs.Foundations.Checksum
import MobileGs.Msp.Soundness

/-!
# Damaged MSP frames

A frame is damaged on its way by a burst of bit errors. Its header and its size bytes arrive
as they were sent, so the decoder finds the frame's end.

What arrives has the form of another frame, whose checksum is a wrong one. The exclusive or of
protocol v1 and the CRC-8/DVB-S2 of protocol v2 both tell every burst of at most eight bits
(`burstRegister_id`, `burstRegister_crc8`). The decoder reads the frame to its end, counts the
error and is idle again (`burst_rejected`).
-/

set_option autoImplicit false

namespace MobileGs

namespace Msp

open Checksum MspOsdDecoder

/-! ## The two checksums -/

/-- One shift of the CRC register: the polynomial is added when the high bit leaves. -/
theorem crc8Shift_eq (crc : Byte) :
    crc8Shift crc = (crc <<< 1) ^^^ (if crc.toBitVec.msb then 0xd5 else 0) := by
  have all : ∀ bits : BitVec 8, crc8Shift ⟨bits⟩ =
      ((⟨bits⟩ : Byte) <<< 1) ^^^ (if bits.msb then 0xd5 else 0) := by decide +kernel
  exact all crc.toBitVec

/-- One shift of the CRC register is linear. -/
theorem crc8Shift_xor (a b : Byte) :
    crc8Shift (a ^^^ b) = crc8Shift a ^^^ crc8Shift b := by
  have reorder : ∀ p q r s : Byte, p ^^^ q ^^^ (r ^^^ s) = p ^^^ r ^^^ (q ^^^ s) := by
    intro p q r s
    ac_rfl
  simp only [crc8Shift_eq, UInt8.shiftLeft_xor, UInt8.toBitVec_xor, BitVec.msb_xor, reorder]
  cases a.toBitVec.msb <;> cases b.toBitVec.msb <;> rfl

/-- Exclusive or of the bytes tells every burst. -/
theorem burstRegister_id : BurstRegister id where
  additive := fun _ _ => rfl
  injective := fun _ zero => zero
  separates := by
    intro width _ first second nonzero low high same
    obtain rfl : first = second := same
    exact nonzero (UInt8.toNat_inj.mp (Nat.eq_zero_of_dvd_of_lt high low))

/-- Over all registers: eight shifts carry the `width` low bits of a byte to no byte whose
`width` low bits are zero. -/
theorem crc8_separates : ∀ width : Fin 9, ∀ bits : BitVec 8, bits ≠ 0 →
    bits.toNat < 2 ^ width.val → ¬ 2 ^ width.val ∣ (crc8Shift^[8] ⟨bits⟩).toNat := by
  decide +kernel

/-- The CRC-8/DVB-S2 tells every burst. -/
theorem burstRegister_crc8 : BurstRegister crc8Shift^[8] where
  additive := fun a b => Function.Semiconj₂.iterate (f := crc8Shift) crc8Shift_xor 8 a b
  injective := by
    intro byte lost
    by_contra nonzero
    apply crc8_separates 8 byte.toBitVec (fun zero => nonzero (UInt8.toBitVec_inj.mp zero))
      byte.toNat_lt
    change 2 ^ 8 ∣ (crc8Shift^[8] byte).toNat
    rw [lost]
    exact dvd_zero _
  separates := by
    intro width narrow first second nonzero low high same
    apply crc8_separates ⟨width, Nat.lt_succ_of_le narrow⟩ first.toBitVec
      (fun zero => nonzero (UInt8.toBitVec_inj.mp zero)) low
    change 2 ^ width ∣ (crc8Shift^[8] first).toNat
    rw [same]
    exact high

/-! ## A frame whose checksum is wrong -/

/-- The indices of the bytes that arrive as they were sent: the header's and the size's. -/
def MspFrame.intact : MspFrame → List ℕ
  | v1 _ => [0, 1, 2, 3]
  | v2 _ => [0, 1, 2, 6, 7]

/-- A decoder at the checksum, and a byte that is another one. -/
theorem step_wrong {decoder : MspOsdDecoder} {byte : Byte}
    (turn : decoder.state = .v1Checksum ∨ decoder.state = .v2Checksum)
    (wrong : decoder.checksum ≠ byte) :
    bytewise.step decoder byte =
      ({ decoder with checksumErrors := decoder.checksumErrors + 1, state := .idle }, []) := by
  have check : bytewise.step decoder byte = decoder.checkFrame byte := by
    rcases turn with turn | turn <;> simp only [bytewise, handleByte, turn]
  rw [check, checkFrame, if_neg wrong]

/-- A frame with another byte for its checksum is read to its end, counted as an error and
otherwise forgotten. -/
theorem run_wrong {decoder : MspOsdDecoder} (idle : decoder.state = .idle) (frame : MspFrame)
    {last : Byte} (wrong : frame.checksum ≠ last) :
    bytewise.run decoder (frame.body ++ [last]) =
      ({ frame.read decoder with
          checksumErrors := decoder.checksumErrors + 1
          state := .idle }, []) := by
  cases frame with
  | v1 frame =>
      refine (run_header idle false frame.direction (frame.covered ++ [last])).trans ?_
      rw [frame.run_covered _ rfl rfl rfl, Mealy.run_singleton, step_wrong (.inl rfl)]
      · rfl
      · exact wrong
  | v2 frame =>
      refine (run_header idle true frame.direction (frame.covered ++ [last])).trans ?_
      rw [frame.run_covered _ rfl rfl rfl, Mealy.run_singleton, step_wrong (.inr rfl)]
      · rfl
      · simpa only [V2Frame.read, MspFrame.checksum] using wrong

/-! ## A frame damaged by a burst -/

/-- The first entries of an error pattern, spelled out. -/
theorem eq_front_append (width : ℕ) {error : List Byte} (length : width ≤ error.length) :
    error = (List.range width).map (error.getD · 0) ++ error.drop width := by
  induction width generalizing error with
  | zero => rfl
  | succ width ih =>
      cases error with
      | nil => exact absurd length (Nat.not_succ_le_zero width)
      | cons first rest =>
          rw [List.range_succ_eq_map, List.map_cons, List.map_map, List.cons_append]
          exact congrArg (first :: ·) (ih (Nat.le_of_succ_le_succ length))

/-- The last entries of an error pattern, as long as a payload and one byte more. -/
theorem exists_payload_error {payload error : List Byte}
    (length : error.length = payload.length + 1) :
    ∃ damage last, error = damage ++ [last] ∧ damage.length = payload.length := by
  have some : error ≠ [] := List.ne_nil_of_length_eq_add_one length
  refine ⟨error.dropLast, error.getLast some, (List.dropLast_append_getLast some).symm, ?_⟩
  rw [List.length_dropLast, length, Nat.add_sub_cancel]

/-- A damaged v1 frame is a v1 frame with another checksum. -/
theorem V1Frame.exists_damaged (frame : V1Frame) {command : Byte} {error : List Byte}
    (length : error.length = frame.payload.length + 1)
    (burst : Burst (0 :: command :: error)) :
    ∃ (other : V1Frame) (last : Byte), other.direction = frame.direction ∧
      xorBytes (frame.covered ++ [frame.checksum]) (0 :: command :: error) =
        other.covered ++ [last] ∧ other.checksum ≠ last := by
  obtain ⟨damage, sum, rfl, same⟩ := exists_payload_error length
  have size : (xorBytes frame.payload damage).length = frame.payload.length :=
    length_xorBytes same
  let other : V1Frame :=
    { direction := frame.direction
      command := frame.command ^^^ command
      payload := xorBytes frame.payload damage
      payload_le := size.trans_le frame.payload_le }
  have arrived : xorBytes (frame.covered ++ [frame.checksum]) (0 :: command :: (damage ++ [sum])) =
      other.covered ++ [frame.checksum ^^^ sum] := by
    simp only [V1Frame.covered, List.cons_append, xorBytes_cons, xorBytes_append same,
      UInt8.xor_zero, V1Frame.size, other, size, xorBytes_nil]
  refine ⟨other, _, rfl, arrived, ?_⟩
  apply burstRegister_id.checksum_ne burst _ arrived
  simp [V1Frame.covered, same]

/-- A damaged v2 frame is a v2 frame with another checksum. -/
theorem V2Frame.exists_damaged (frame : V2Frame) {flags low high : Byte} {error : List Byte}
    (length : error.length = frame.payload.length + 1)
    (burst : Burst (flags :: low :: high :: 0 :: 0 :: error)) :
    ∃ (other : V2Frame) (last : Byte), other.direction = frame.direction ∧
      xorBytes (frame.covered ++ [frame.checksum]) (flags :: low :: high :: 0 :: 0 :: error) =
        other.covered ++ [last] ∧ other.checksum ≠ last := by
  obtain ⟨damage, sum, rfl, same⟩ := exists_payload_error length
  have size : (xorBytes frame.payload damage).length = frame.payload.length :=
    length_xorBytes same
  let lowByte := UInt8.ofNat frame.function.toNat ^^^ low
  let highByte := UInt8.ofNat (frame.function.toNat / 256) ^^^ high
  have bytes := leBytes_word lowByte highByte
  let other : V2Frame :=
    { direction := frame.direction
      flags := frame.flags ^^^ flags
      function := lowByte.toUInt16 ||| (highByte.toUInt16 <<< 8)
      payload := xorBytes frame.payload damage
      payload_le := size.trans_le frame.payload_le }
  have arrived : xorBytes (frame.covered ++ [frame.checksum])
      (flags :: low :: high :: 0 :: 0 :: (damage ++ [sum])) =
      other.covered ++ [frame.checksum ^^^ sum] := by
    simp only [V2Frame.covered, other, bytes, size]
    simp only [leBytes, List.cons_append, List.nil_append, xorBytes_cons, xorBytes_append same,
      UInt8.xor_zero, xorBytes_nil]
    rfl
  refine ⟨other, _, rfl, arrived, ?_⟩
  apply burstRegister_crc8.checksum_ne burst _ arrived
  simp [V2Frame.covered, leBytes, same]

/-- **What arrives of a damaged frame** has the form of a frame whose checksum is another one. -/
theorem MspFrame.exists_damaged (frame : MspFrame) {error : List Byte}
    (length : error.length = frame.bytes.length)
    (intact : ∀ index ∈ frame.intact, error.getD index 0 = 0) (burst : Burst error) :
    ∃ (other : MspFrame) (last : Byte),
      xorBytes frame.bytes error = other.body ++ [last] ∧
        other.checksum ≠ last := by
  cases frame with
  | v1 frame =>
      have length : error.length = frame.payload.length + 1 + 5 := by
        rw [length]
        simp [MspFrame.bytes, V1Frame.bytes, V1Frame.covered]
      obtain ⟨command, rest, rfl⟩ :
          ∃ command rest, error = 0 :: 0 :: 0 :: 0 :: command :: rest := by
        have front : error = _ := eq_front_append 5 (by omega)
        simp only [MspFrame.intact, List.forall_mem_cons] at intact
        obtain ⟨e0, e1, e2, e3, -⟩ := intact
        refine ⟨error.getD 4 0, error.drop 5, ?_⟩
        rwa [show List.range 5 = [0, 1, 2, 3, 4] from rfl, List.map_cons, List.map_cons,
          List.map_cons, List.map_cons, e0, e1, e2, e3] at front
      obtain ⟨other, last, direction, arrived, wrong⟩ :=
        frame.exists_damaged (by simpa using length) burst.tail.tail.tail
      refine ⟨.v1 other, last, ?_, wrong⟩
      simp only [MspFrame.bytes, V1Frame.bytes, MspFrame.body, xorBytes_cons, UInt8.xor_zero,
        arrived, direction]
      rfl
  | v2 frame =>
      have length : error.length = frame.payload.length + 1 + 8 := by
        rw [length]
        simp [MspFrame.bytes, V2Frame.bytes, V2Frame.covered, leBytes]
      obtain ⟨flags, low, high, rest, rfl⟩ :
          ∃ flags low high rest,
            error = 0 :: 0 :: 0 :: flags :: low :: high :: 0 :: 0 :: rest := by
        have front : error = _ := eq_front_append 8 (by omega)
        simp only [MspFrame.intact, List.forall_mem_cons] at intact
        obtain ⟨e0, e1, e2, e6, e7, -⟩ := intact
        refine ⟨error.getD 3 0, error.getD 4 0, error.getD 5 0, error.drop 8, ?_⟩
        rwa [show List.range 8 = [0, 1, 2, 3, 4, 5, 6, 7] from rfl, List.map_cons, List.map_cons,
          List.map_cons, e0, e1, e2, List.map_cons, List.map_cons, List.map_cons, List.map_cons,
          List.map_cons, e6, e7] at front
      obtain ⟨other, last, direction, arrived, wrong⟩ :=
        frame.exists_damaged (by simpa using length) burst.tail.tail.tail
      refine ⟨.v2 other, last, ?_, wrong⟩
      simp only [MspFrame.bytes, V2Frame.bytes, MspFrame.body, xorBytes_cons, UInt8.xor_zero,
        arrived, direction]
      rfl

/-- **A burst is always rejected.** An idle decoder fed a valid frame, with a burst of at most
eight bits in the bytes behind its header other than the size, in any chunks: nothing is
dispatched or published, one checksum error is counted, the canvas stays as it was, and the
decoder is idle again. -/
theorem burst_rejected {decoder : MspOsdDecoder} (idle : decoder.state = .idle)
    (frame : MspFrame) {error : List Byte} (length : error.length = frame.bytes.length)
    (intact : ∀ index ∈ frame.intact, error.getD index 0 = 0) (burst : Burst error)
    (chunks : List (List Byte)) (fed : chunks.flatten = xorBytes frame.bytes error) :
    pushes.outputs decoder chunks = [] ∧
      (pushes.after decoder chunks).messages = decoder.messages ∧
      (pushes.after decoder chunks).checksumErrors = decoder.checksumErrors + 1 ∧
      (pushes.after decoder chunks).frame = decoder.frame ∧
      (pushes.after decoder chunks).state = .idle := by
  obtain ⟨other, last, arrived, wrong⟩ := frame.exists_damaged length intact burst
  have run : pushes.run decoder chunks =
      ({ other.read decoder with
          checksumErrors := decoder.checksumErrors + 1
          state := .idle }, []) := by
    rw [pushes, Mealy.run_blocks, fed, arrived, run_wrong idle other wrong]
  rw [Mealy.outputs, Mealy.after, run]
  cases other <;> exact ⟨rfl, rfl, rfl, rfl, rfl⟩

/-- Two bits next to each other, the one the last of a byte and the other the first of the next. -/
def sampleBurst : List Byte := [0, 0, 0, 0x01, 0x80, 0, 0, 0, 0, 0, 0]

theorem sampleBurst_burst : Burst sampleBurst where
  nonzero := ⟨0x01, by simp [sampleBurst], by decide⟩
  confined := by
    have near : ∀ place < 88, bitAt sampleBurst place = true → 31 ≤ place ∧ place < 39 := by
      decide +kernel
    refine ⟨31, fun place bit => near place ?_ bit⟩
    by_contra far
    rw [bitAt_of_le] at bit
    · exact Bool.false_ne_true bit
    · change 11 ≤ place / 8
      omega

/-- A DisplayPort message in protocol v2, damaged in its flags and its function. -/
def sampleSent : MspFrame :=
  .v2 { direction := .fromController, flags := 0, function := 182, payload := [4, 0],
        payload_le := by decide }

theorem burst_rejected_sample :
    pushes.outputs {} [xorBytes sampleSent.bytes sampleBurst] = [] ∧
      (pushes.after {} [xorBytes sampleSent.bytes sampleBurst]).messages = 0 ∧
      (pushes.after {} [xorBytes sampleSent.bytes sampleBurst]).checksumErrors = 0 + 1 ∧
      (pushes.after {} [xorBytes sampleSent.bytes sampleBurst]).frame =
        ({} : MspOsdDecoder).frame ∧
      (pushes.after {} [xorBytes sampleSent.bytes sampleBurst]).state = .idle := by
  have length : sampleBurst.length = sampleSent.bytes.length := by decide +kernel
  have intact : ∀ index ∈ sampleSent.intact, sampleBurst.getD index 0 = 0 := by
    simp [sampleSent, MspFrame.intact, sampleBurst]
  exact burst_rejected rfl sampleSent length intact sampleBurst_burst _ (List.flatten_singleton ..)

end Msp

end MobileGs
