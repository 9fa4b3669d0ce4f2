import MobileGs.Rtp.Depacketizer
import MobileGs.Rtp.Grammar

/-!
# Telling the codec from a packet

`DetectCodec` reads the first two bytes of a payload as an H.265 NAL header and takes it for one
when its temporal id and its type are plausible. The second byte of an H.264 payload may be any,
and for many values of the first the type is plausible too (`Collides`). An H.265 payload is
always recognised (`detectCodec_h265`); an H.264 payload is exactly when the two do not
collide (`detectCodec_h264`).

A depacketizer without a codec takes the first answer it gets for good (`after_codec`), so it
is on the wrong codec exactly when the first packet that tells anything collides.
-/

set_option autoImplicit false

namespace MobileGs

namespace Rtp

/-- The payload of a packet, empty when the packet does not parse. -/
def payloadIn (data : List Byte) : List Byte :=
  match parseRtp data with
  | none => []
  | some header => payload data header

/-- A payload that starts with the header of an H.264 NAL unit of type 1 or 5 to 8, or of a
fragment of one (FU-A). -/
def H264Payload (payload : List Byte) : Prop :=
  payload ≠ [] ∧ payload.getD 0 0 &&& 0x80 = 0 ∧
    payload.getD 0 0 &&& 0x1f ∈ ([1, 5, 6, 7, 8, 28] : List Byte)

instance decidableH264Payload : DecidablePred H264Payload := fun _ =>
  inferInstanceAs (Decidable (_ ∧ _))

/-- The types `DetectCodec` takes for those of an H.265 stream. -/
def PlausibleType (first : Byte) : Prop :=
  (first >>> 1) &&& 0x3f ≤ 40 ∨ (first >>> 1) &&& 0x3f = 48 ∨ (first >>> 1) &&& 0x3f = 49

instance decidablePlausibleType : DecidablePred PlausibleType := fun _ =>
  inferInstanceAs (Decidable (_ ∨ _))

/-- A payload that starts with an H.265 NAL header: a type from 0 to 40, 48 or 49 and a temporal
id. -/
def H265Payload (payload : List Byte) : Prop :=
  2 ≤ payload.length ∧ payload.getD 0 0 &&& 0x80 = 0 ∧ PlausibleType (payload.getD 0 0) ∧
    payload.getD 1 0 &&& 0x07 ≠ 0

instance decidableH265Payload : DecidablePred H265Payload := fun _ =>
  inferInstanceAs (Decidable (_ ∧ _))

/-- `nal_ref_idc` of an H.264 NAL header. -/
def nalRefIdc (first : Byte) : Byte := (first >>> 5) &&& 0x03

/-- The first bytes of an H.264 payload that have a plausible H.265 type. -/
def AmbiguousHeader (first : Byte) : Prop :=
  nalRefIdc first ≤ 1 ∨ nalRefIdc first = 2 ∧ first &&& 0x1f ≠ 28 ∨
    nalRefIdc first = 3 ∧ first &&& 0x1f = 1

instance decidableAmbiguousHeader : DecidablePred AmbiguousHeader := fun _ =>
  inferInstanceAs (Decidable (_ ∨ _))

/-- An H.264 payload that can be read as an H.265 one: its first byte is ambiguous, and the low
bits of its second byte are not all zero. -/
def Collides (payload : List Byte) : Prop :=
  payload.getD 1 0 &&& 0x07 ≠ 0 ∧ AmbiguousHeader (payload.getD 0 0)

instance decidableCollides : DecidablePred Collides := fun _ =>
  inferInstanceAs (Decidable (_ ∧ _))

/-! ## One packet -/

/-- The size of a payload is the number of its bytes. -/
theorem payloadSize_eq_length {data : List Byte} {header : RtpHeader}
    (accepted : parseRtp data = some header) :
    payloadSize data header.payloadOffset = (payload data header).length := by
  obtain ⟨dressing, sequence, carried, rfl⟩ := exists_dressing accepted
  rw [dressing.parseRtp_bytes] at accepted
  obtain rfl := Option.some.inj accepted
  rw [dressing.payloadSize_bytes, dressing.payload_bytes]

/-- A payload of one byte tells nothing. -/
theorem detectCodec_short {data : List Byte} (short : (payloadIn data).length < 2) :
    detectCodec data = .unknown := by
  rw [payloadIn] at short
  rw [detectCodec]
  cases parsed : parseRtp data with
  | none => rfl
  | some header =>
      simp only [parsed] at short
      simp only
      rw [payloadSize_eq_length parsed, if_pos short]

/-- The codec is told from the first two bytes of the payload. -/
theorem detectCodec_long {data : List Byte} (long : 2 ≤ (payloadIn data).length) :
    detectCodec data =
      if (payloadIn data).getD 0 0 &&& 0x80 = 0 ∧ (payloadIn data).getD 1 0 &&& 0x07 ≠ 0 ∧
          PlausibleType ((payloadIn data).getD 0 0) then .h265
      else if (payloadIn data).getD 0 0 &&& 0x80 = 0 ∧ (payloadIn data).getD 0 0 &&& 0x1f ≠ 0 ∧
          ((payloadIn data).getD 0 0 &&& 0x1f ≤ 23 ∨ (payloadIn data).getD 0 0 &&& 0x1f = 24 ∨
            (payloadIn data).getD 0 0 &&& 0x1f = 28) then .h264
      else .unknown := by
  rw [payloadIn] at long ⊢
  rw [detectCodec]
  cases parsed : parseRtp data with
  | none =>
      simp only [parsed] at long
      exact absurd long (by decide)
  | some header =>
      simp only [parsed] at long
      simp only
      rw [payloadSize_eq_length parsed, if_neg (not_lt.mpr long)]
      rfl

/-- **An H.265 packet is recognised.** -/
theorem detectCodec_h265 {data : List Byte} (h265 : H265Payload (payloadIn data)) :
    detectCodec data = .h265 := by
  obtain ⟨long, forbidden, typed, temporal⟩ := h265
  rw [detectCodec_long long, if_pos ⟨forbidden, temporal, typed⟩]

theorem plausibleType_iff {first : Byte} (forbidden : first &&& 0x80 = 0)
    (typed : first &&& 0x1f ∈ ([1, 5, 6, 7, 8, 28] : List Byte)) :
    PlausibleType first ↔ AmbiguousHeader first := by
  have table : ∀ n < 256, UInt8.ofNat n &&& 0x80 = 0 →
      UInt8.ofNat n &&& 0x1f ∈ ([1, 5, 6, 7, 8, 28] : List Byte) →
        (PlausibleType (UInt8.ofNat n) ↔ AmbiguousHeader (UInt8.ofNat n)) := by
    decide +kernel
  have entry := table first.toNat first.toNat_lt
  rw [UInt8.ofNat_toNat] at entry
  exact entry forbidden typed

/-- The types of an H.264 stream are types of H.264. -/
theorem recognised_type {nalType : Byte} (typed : nalType ∈ ([1, 5, 6, 7, 8, 28] : List Byte)) :
    nalType ≠ 0 ∧ (nalType ≤ 23 ∨ nalType = 24 ∨ nalType = 28) := by
  simp only [List.mem_cons, List.not_mem_nil, or_false] at typed
  rcases typed with rfl | rfl | rfl | rfl | rfl | rfl <;> decide

/-- **What is told from an H.264 packet.** -/
theorem detectCodec_h264 {data : List Byte} (h264 : H264Payload (payloadIn data)) :
    detectCodec data =
      if (payloadIn data).length < 2 then .unknown
      else if Collides (payloadIn data) then .h265
      else .h264 := by
  obtain ⟨-, forbidden, typed⟩ := h264
  split
  · rename_i short
    exact detectCodec_short short
  · rename_i long
    have types := plausibleType_iff forbidden typed
    rw [detectCodec_long (not_lt.mp long)]
    by_cases collides : Collides (payloadIn data)
    · rw [if_pos collides, if_pos ⟨forbidden, collides.1, types.mpr collides.2⟩]
    · rw [if_neg collides, if_neg fun read => collides ⟨read.2.1, types.mp read.2.2⟩,
        if_pos ⟨forbidden, recognised_type typed⟩]

theorem not_collides_of_short {payload : List Byte} (short : payload.length < 2) :
    ¬ Collides payload := by
  rintro ⟨bits, -⟩
  apply bits
  rw [List.getD_eq_default _ _ (Nat.le_of_lt_succ short)]
  rfl

/-- **An H.264 packet is taken for H.265 exactly when it collides.** -/
theorem detectCodec_h264_iff {data : List Byte} (h264 : H264Payload (payloadIn data)) :
    detectCodec data ≠ .h265 ↔ ¬ Collides (payloadIn data) := by
  rw [detectCodec_h264 h264]
  split
  · rename_i short
    simp [not_collides_of_short short]
  · split <;> rename_i collides <;> simp [collides]

/-! ## A depacketizer without a codec -/

namespace RtpDepacketizer

variable (depacketizer : RtpDepacketizer)

theorem emitNal_codec (fragmented : Bool) (payload : List Byte) (timestamp : UInt32)
    (marker : Bool) :
    (depacketizer.emitNal fragmented payload timestamp marker).1.codec = depacketizer.codec := by
  rw [emitNal]
  split <;> rfl

theorem emitNals_codec (nals : List (List Byte)) (timestamp : UInt32) (marker : Bool) :
    (emitNals timestamp marker depacketizer nals).1.codec = depacketizer.codec := by
  induction nals generalizing depacketizer with
  | nil => rfl
  | cons nal rest ih =>
      exact (ih _).trans (depacketizer.emitNal_codec false nal timestamp marker)

theorem addFragment_codec (unit : FragmentUnit) (timestamp : UInt32) (marker : Bool) :
    (depacketizer.addFragment unit timestamp marker).depacketizer.codec =
      depacketizer.codec := by
  rw [addFragment]
  split
  · rfl
  · dsimp only
    split
    · exact (depacketizer.extend unit).emitNal_codec true _ timestamp marker
    · rfl

/-- No handler changes the codec. -/
theorem handle_codec (format : PayloadFormat) (payload : List Byte) (timestamp : UInt32)
    (marker : Bool) :
    (handle format depacketizer payload timestamp marker).depacketizer.codec =
      depacketizer.codec := by
  rw [handle]
  split
  · rfl
  · dsimp only
    split
    · exact depacketizer.emitNal_codec false payload timestamp marker
    · split
      · split <;> exact depacketizer.emitNals_codec _ timestamp marker
      · split
        · rw [handleFragment]
          split
          · rfl
          · exact depacketizer.addFragment_codec _ timestamp marker
        · rfl

/-- A packet that is not heard tells nothing about the codec. -/
theorem detectCodec_of_unheard {data : List Byte} (unheard : depacketizer.hears data = none) :
    detectCodec data = .unknown := by
  apply detectCodec_short
  rw [hears] at unheard
  rw [payloadIn]
  cases parsed : parseRtp data with
  | none => exact Nat.zero_lt_two
  | some header =>
      simp only [parsed] at unheard
      split at unheard
      · rename_i empty
        rw [payloadSize_eq_length parsed] at empty
        simp only [empty]
        exact Nat.zero_lt_two
      · cases unheard

/-- The codec behind a packet is the one it was handled as. -/
theorem push_codec (data : List Byte) :
    (depacketizer.push data).depacketizer.codec = depacketizer.codecFor data := by
  cases heard : depacketizer.hears data with
  | none =>
      rw [push_unheard depacketizer heard, codecFor, depacketizer.detectCodec_of_unheard heard]
      split
      · assumption
      · rfl
  | some packet =>
      have codec_eq : packet.codec = depacketizer.codecFor data := by
        rw [hears] at heard
        cases parsed : parseRtp data with
        | none => simp only [parsed, reduceCtorEq] at heard
        | some header =>
            simp only [parsed] at heard
            split at heard
            · cases heard
            · cases heard
              rfl
      rw [push_heard depacketizer heard, ← codec_eq]
      split
      · rfl
      · exact handle_codec _ _ _ _ _

end RtpDepacketizer

/-- A payload of at least two bytes. -/
def telling (data : List Byte) : Bool := 2 ≤ (payloadIn data).length

/-- **The first packet that tells anything decides.** -/
theorem after_codec {depacketizer : RtpDepacketizer} {packets : List (List Byte)}
    (h264 : ∀ data ∈ packets, H264Payload (payloadIn data)) :
    (machine.after depacketizer (packets.map .push)).codec =
      if depacketizer.codec = .unknown then
        match packets.find? telling with
        | none => .unknown
        | some data => if Collides (payloadIn data) then .h265 else .h264
      else depacketizer.codec := by
  induction packets generalizing depacketizer with
  | nil =>
      split
      · assumption
      · rfl
  | cons data rest ih =>
      rw [List.forall_mem_cons] at h264
      rw [List.map_cons, Mealy.after_cons, ih h264.2]
      change (if (depacketizer.push data).depacketizer.codec = .unknown then _ else
        (depacketizer.push data).depacketizer.codec) = _
      rw [depacketizer.push_codec, RtpDepacketizer.codecFor]
      by_cases unknown : depacketizer.codec = .unknown
      · rw [if_pos unknown, if_pos unknown, detectCodec_h264 h264.1, List.find?_cons]
        by_cases short : (payloadIn data).length < 2
        · rw [if_pos short, if_pos rfl]
          have silent : telling data = false := decide_eq_false (by omega)
          rw [silent]
        · rw [if_neg short]
          have tells : telling data = true := decide_eq_true (by omega)
          rw [tells]
          by_cases collides : Collides (payloadIn data)
          · rw [if_pos collides, if_neg (by decide)]
            exact (if_pos collides).symm
          · rw [if_neg collides, if_neg (by decide)]
            exact (if_neg collides).symm
      · rw [if_neg unknown, if_neg unknown, if_neg unknown]

/-- **When detection is right.** Every H.265 packet is recognised. An H.264 packet is taken for
H.265 exactly when it collides, and a depacketizer without a codec that is fed an H.264 stream
stays off H.265 exactly when the first packet with two bytes of payload does not collide. -/
theorem detection_iff (depacketizer : RtpDepacketizer) (packets : List (List Byte)) :
    (∀ data, H265Payload (payloadIn data) → detectCodec data = .h265) ∧
      (∀ data, H264Payload (payloadIn data) →
        (detectCodec data ≠ .h265 ↔ ¬ Collides (payloadIn data))) ∧
      (depacketizer.codec = .unknown → (∀ data ∈ packets, H264Payload (payloadIn data)) →
        ((∀ fed, fed <+: packets →
            (machine.after depacketizer (fed.map .push)).codec ≠ .h265) ↔
          ∀ data, packets.find? telling = some data → ¬ Collides (payloadIn data))) := by
  refine ⟨fun data => detectCodec_h265, fun data => detectCodec_h264_iff, ?_⟩
  intro unknown h264
  constructor
  · intro right data first collides
    apply right packets List.prefix_rfl
    rw [after_codec h264, if_pos unknown, first]
    exact if_pos collides
  · intro plain fed front
    rw [after_codec fun data member => h264 data (front.subset member), if_pos unknown]
    cases first : fed.find? telling with
    | none => exact fun wrong => by cases wrong
    | some data =>
        have := plain data (front.find?_eq_some first)
        simp only [if_neg this, ne_eq, reduceCtorEq, not_false_eq_true]

/-- A packet with a plain header. -/
def shortPacket (payload : List Byte) : List Byte :=
  (Dressing.plain 0 true).bytes 1 payload

/-- An H.264 slice that is not the start of a picture group, as most packets of a stream are. -/
def sampleSlice : List Byte := [0x41, 0x9a, 0x22]

theorem payloadIn_shortPacket (payload : List Byte) :
    payloadIn (shortPacket payload) = payload := by
  rw [payloadIn, shortPacket, (Dressing.plain 0 true).parseRtp_bytes]
  exact (Dressing.plain 0 true).payload_bytes 1 payload

/-- The first packet of an H.264 stream is taken for H.265, and the depacketizer stays there. -/
theorem detection_mistaken :
    H264Payload (payloadIn (shortPacket sampleSlice)) ∧
      detectCodec (shortPacket sampleSlice) = .h265 ∧
        (machine.after {} [.push (shortPacket sampleSlice)]).codec = .h265 := by
  have h264 : H264Payload (payloadIn (shortPacket sampleSlice)) := by
    rw [payloadIn_shortPacket]
    decide
  have detected : detectCodec (shortPacket sampleSlice) = .h265 := by
    rw [detectCodec_h264 h264, payloadIn_shortPacket]
    decide
  refine ⟨h264, detected, ?_⟩
  have after := RtpDepacketizer.push_codec {} (shortPacket sampleSlice)
  rw [RtpDepacketizer.codecFor, if_pos rfl, detected] at after
  exact after

/-- The two packets of the tests, and a stream that starts with a key frame. -/
theorem detection_iff_sample :
    detectCodec (shortPacket [0x26, 0x01, 0x11]) = .h265 ∧
      detectCodec (shortPacket [0x65, 0x11, 0x22]) ≠ .h265 ∧
        ∀ fed, fed <+: [shortPacket [0x65, 0x11, 0x22], shortPacket sampleSlice] →
          (machine.after {} (fed.map .push)).codec ≠ .h265 := by
  obtain ⟨h265, h264, stream⟩ :=
    detection_iff {} [shortPacket [0x65, 0x11, 0x22], shortPacket sampleSlice]
  have key : H264Payload (payloadIn (shortPacket [0x65, 0x11, 0x22])) := by
    rw [payloadIn_shortPacket]
    decide
  have slice : H264Payload (payloadIn (shortPacket sampleSlice)) := by
    rw [payloadIn_shortPacket]
    decide
  have plain : ¬ Collides (payloadIn (shortPacket [0x65, 0x11, 0x22])) := by
    rw [payloadIn_shortPacket]
    decide
  refine ⟨h265 _ ?_, (h264 _ key).mpr plain, ?_⟩
  · rw [payloadIn_shortPacket]
    decide
  · refine (stream rfl ?_).mpr ?_
    · simp only [List.forall_mem_cons, key, slice, true_and]
      exact fun _ member => absurd member List.not_mem_nil
    · intro data first
      have tells : telling (shortPacket [0x65, 0x11, 0x22]) = true := by
        rw [telling, payloadIn_shortPacket]
        decide
      rw [List.find?_cons, tells] at first
      cases first
      exact plain

end Rtp

end MobileGs
