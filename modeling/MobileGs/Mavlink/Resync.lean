import MobileGs.Mavlink.Accepted

/-!
# Frames behind other bytes

Between frames the framer skips bytes that are no magic, so a stream of frames with such
bytes anywhere between them is cut exactly at the frames (`pushes_filled`).

Bytes that hold a magic are another matter. The framer has no checksum to tell a frame from
bytes that look like one, and behind such a false frame it may stand inside a real one, where
the next false frame can begin. A chain of these need never end: with a frame whose payload
is the beginning of another the framer loses every frame of an endless stream
(`messagesIn_shifted`).

A chain can only go on through frames in which a false one begins that reaches beyond the
real one (`SelfContained`). Without such frames in the first 280 bytes the framer is back at a
boundary and stays there (`pushes_resynchronised`).
-/

set_option autoImplicit false

namespace MobileGs

namespace Mavlink

open MavlinkFramer

/-! ## Frames with filler between them -/

/-- Bytes without a magic. -/
structure Gap where
  bytes : List Byte := []
  plain : ∀ byte ∈ bytes, isMagic byte = false := by
    simp [isMagic, mavlinkV1Magic, mavlinkV2Magic]

/-- Frames on the wire, each behind its filler. -/
def filled (items : List (Gap × MavlinkFrame)) : List Byte :=
  items.flatMap fun item => item.1.bytes ++ item.2.bytes

theorem skippedCount_map_skipped (filler : List Byte) :
    skippedCount (filler.map Piece.skipped) = filler.length := by
  induction filler with
  | nil => rfl
  | cons byte rest ih => rw [List.map_cons, skippedCount_skipped, ih, List.length_cons]

/-- A stretch without a magic that ends the stream. -/
theorem scan_gap (gap : Gap) : frameScanner.scan gap.bytes = (gap.bytes.map .skipped, []) := by
  have skips := scan_plain gap.plain []
  rw [List.append_nil, frameScanner.scan_nil, List.append_nil] at skips
  exact skips

/-- The scan of frames with filler finds the frames and skips the filler. -/
theorem scan_filled (items : List (Gap × MavlinkFrame)) (trailing : Gap) :
    (frames (frameScanner.scan (filled items ++ trailing.bytes)).1 =
        items.map fun item => item.2.bytes) ∧
      skippedCount (frameScanner.scan (filled items ++ trailing.bytes)).1 =
        (items.map fun item => item.1.bytes.length).sum + trailing.bytes.length := by
  induction items with
  | nil =>
      simp only [filled, List.flatMap_nil, List.nil_append, scan_gap, frames_map_skipped,
        skippedCount_map_skipped, List.map_nil, List.sum_nil, Nat.zero_add, and_self]
  | cons item rest ih =>
      obtain ⟨taken, dropped⟩ := ih
      rw [filled] at taken dropped ⊢
      rw [List.flatMap_cons, List.append_assoc, List.append_assoc, scan_plain item.1.plain,
        item.2.scan_bytes_append]
      simp only [frames_append, frames_map_skipped, frames_frame, taken, skippedCount_append,
        skippedCount_map_skipped, skippedCount_frame, dropped, List.map_cons, List.sum_cons,
        List.nil_append, Nat.add_assoc, and_self]

/-- **Frames with filler between them are emitted once each, in order and as they were sent**,
however the stream is cut, and the bytes dropped are the filler. -/
theorem pushes_filled (items : List (Gap × MavlinkFrame)) (trailing : Gap)
    (chunks : List (List Byte)) (cut : chunks.flatten = filled items ++ trailing.bytes) :
    (pushes.outputs { callback := true } chunks = items.map fun item => item.2.message) ∧
      (pushes.after { callback := true } chunks).droppedBytes =
        (items.map fun item => item.1.bytes.length).sum + trailing.bytes.length := by
  obtain ⟨taken, dropped⟩ := scan_filled items trailing
  constructor
  · rw [outputs_eq_messagesIn, cut, messagesIn, taken, List.map_map]
    exact List.map_congr_left fun item _ => item.2.messageOf_bytes
  · rw [Mealy.after, pushes_eq_push, push_eq_scan, cut]
    simp only [List.nil_append, Nat.zero_add, dropped]

/-- A frame whose payload is made of magic bytes, and a signed one without payload. -/
def magicPayload : MavlinkFrame :=
  .v1
    { sequence := 4, systemId := 1, componentId := 1, payload := [0xfe, 0xfd],
      payload_le := by decide, checksumLow := 7, checksumHigh := 8, msgid := 0 }

def signedEmpty : MavlinkFrame :=
  .v2
    { sequence := 5, systemId := 1, componentId := 1, payload := []
      payload_le := Nat.zero_le _, checksumLow := 7, checksumHigh := 8, incompatFlags := 1
      compatFlags := 0, msgid := 0x010203, msgid_lt := by decide
      signature := List.replicate 13 0xfe, signature_length := rfl }

/-- Two such frames with filler around them, cut inside the payload and inside the
signature. -/
theorem pushes_filled_signed :
    pushes.outputs { callback := true }
        [[0x11, 0x22, 0xfe, 2, 4, 1, 1, 0, 0xfe], [0xfd, 7, 8, 0x33],
          [0xfd, 0, 1, 0, 5, 1, 1, 3, 2, 1, 7, 8, 0xfe, 0xfe, 0xfe, 0xfe],
          [0xfe, 0xfe, 0xfe, 0xfe, 0xfe, 0xfe, 0xfe, 0xfe, 0xfe, 0x44]] =
        [magicPayload.message, signedEmpty.message] ∧
      (pushes.after { callback := true }
        [[0x11, 0x22, 0xfe, 2, 4, 1, 1, 0, 0xfe], [0xfd, 7, 8, 0x33],
          [0xfd, 0, 1, 0, 5, 1, 1, 3, 2, 1, 7, 8, 0xfe, 0xfe, 0xfe, 0xfe],
          [0xfe, 0xfe, 0xfe, 0xfe, 0xfe, 0xfe, 0xfe, 0xfe, 0xfe, 0x44]]).droppedBytes = 4 :=
  pushes_filled [({ bytes := [0x11, 0x22] }, magicPayload), ({ bytes := [0x33] }, signedEmpty)]
    { bytes := [0x44] } _ (by decide)

/-! ## Frames behind garbage -/

/-- Whatever is pushed, the frames behind a stretch of the stream are emitted once each, in order
and as they were sent, behind what the framer makes of that stretch. -/
def EmittedBehind (stretch : List Byte) (late : List MavlinkFrame) : Prop :=
  ∀ chunks : List (List Byte),
    chunks.flatten = stretch ++ late.flatMap MavlinkFrame.bytes →
      pushes.outputs { callback := true } chunks =
        pushes.outputs { callback := true } [stretch] ++ late.map MavlinkFrame.message

/-- Behind a stretch that leaves nothing in the buffer, frames are emitted. -/
theorem emittedBehind_of_residue {stretch : List Byte} (between : residue stretch = [])
    (late : List MavlinkFrame) : EmittedBehind stretch late := by
  intro chunks cut
  rw [outputs_eq_messagesIn, outputs_eq_messagesIn, cut, List.flatten_singleton,
    messagesIn_append, between, List.nil_append, MavlinkFrame.messagesIn_stream]

/-- No false frame that begins inside the frame reaches beyond its end: from every byte but the
first the framer can decide with what is left of the frame. -/
def SelfContained (frame : MavlinkFrame) : Prop :=
  ∀ start < frame.bytes.length, 0 < start → frameVerdict (frame.bytes.drop start) ≠ .wait

instance (frame : MavlinkFrame) : Decidable (SelfContained frame) :=
  inferInstanceAs (Decidable (∀ start < frame.bytes.length, 0 < start → _))

/-- The frames that begin within a number of bytes are self-contained. -/
def SelfContainedWithin : ℕ → List MavlinkFrame → Prop
  | _, [] => True
  | within, frame :: rest =>
      (0 < within → SelfContained frame) ∧ SelfContainedWithin (within - frame.bytes.length) rest

instance decidableSelfContainedWithin :
    ∀ within frames, Decidable (SelfContainedWithin within frames)
  | _, [] => inferInstanceAs (Decidable True)
  | within, frame :: rest =>
      have := decidableSelfContainedWithin (within - frame.bytes.length) rest
      inferInstanceAs (Decidable ((0 < within → SelfContained frame) ∧ _))

/-- What is left of a self-contained frame is scanned to its end. -/
theorem residue_within {frame : MavlinkFrame} (contained : SelfContained frame) {start : ℕ}
    (inside : 0 < start) (more : List Byte) :
    residue (frame.bytes.drop start ++ more) = residue more := by
  have nothing : residue (frame.bytes.drop start) = [] := by
    apply frameScanner.scan_rest_nil
    intro suffix behind some
    obtain ⟨later, rfl⟩ : ∃ later, suffix = frame.bytes.drop (start + later) := by
      rw [List.suffix_iff_eq_drop] at behind
      rw [behind, List.drop_drop]
      exact ⟨_, rfl⟩
    apply contained (start + later)
    · by_contra beyond
      exact some (List.drop_eq_nil_of_le (Nat.le_of_not_lt beyond))
    · omega
  rw [residue_append, nothing, List.nil_append]

/-- From any byte of the first frames on the framer comes back to a boundary. -/
theorem residue_drop {within start : ℕ} {frames : List MavlinkFrame}
    (contained : SelfContainedWithin within frames) (near : start < within) :
    residue ((frames.flatMap MavlinkFrame.bytes).drop start) = [] := by
  induction frames generalizing within start with
  | nil => rw [List.flatMap_nil, List.drop_nil, residue_nil]
  | cons frame rest ih =>
      obtain ⟨first, others⟩ := contained
      rw [List.flatMap_cons]
      by_cases behind : frame.bytes.length ≤ start
      · rw [List.drop_append, List.drop_eq_nil_of_le behind, List.nil_append]
        exact ih others (by omega)
      · rw [List.drop_append_of_le_length (by omega)]
        cases start with
        | zero => rw [List.drop_zero, frame.residue_bytes_append, MavlinkFrame.residue_stream]
        | succ start =>
            rw [residue_within (first (by omega)) (Nat.succ_pos start),
              MavlinkFrame.residue_stream]

/-- Garbage in front of enough self-contained frames leaves the framer at a boundary. -/
theorem residue_garbage (garbage : List Byte) {early : List MavlinkFrame}
    (far : maxFrameSize ≤ (early.flatMap MavlinkFrame.bytes).length)
    (contained : SelfContainedWithin maxFrameSize early) :
    residue (garbage ++ early.flatMap MavlinkFrame.bytes) = [] := by
  rw [residue_append]
  have waits : frameVerdict (residue garbage) = .wait := frameScanner.verdict_scan_rest garbage
  cases kept : residue garbage with
  | nil => rw [List.nil_append, MavlinkFrame.residue_stream]
  | cons magic tail =>
      -- The false frame in progress ends inside one of the early frames.
      rw [kept] at waits
      have known := (frameVerdict_wait waits).1
      have shorter := wait_shorter waits (early.flatMap MavlinkFrame.bytes)
      have bound := frameLength_le (isV2 (magic :: tail))
        (magic :: (tail ++ early.flatMap MavlinkFrame.bytes))
      have long : maxFrameSize ≤ (magic :: (tail ++ early.flatMap MavlinkFrame.bytes)).length := by
        rw [List.length_cons, List.length_append]
        omega
      have taken : frameScanner.verdict (magic :: (tail ++ early.flatMap MavlinkFrame.bytes)) =
          .take (frameLength (isV2 (magic :: tail))
            (magic :: (tail ++ early.flatMap MavlinkFrame.bytes))) :=
        frameVerdict_long known long
      generalize frameLength (isV2 (magic :: tail))
        (magic :: (tail ++ early.flatMap MavlinkFrame.bytes)) = length at shorter bound taken
      rw [List.cons_append, residue, frameScanner.scan_take taken, ← List.cons_append,
        List.drop_append, List.drop_eq_nil_of_le (Nat.le_of_lt shorter), List.nil_append]
      have some : 0 < (magic :: tail).length := Nat.succ_pos _
      exact residue_drop contained (by omega)

/-- **Behind 280 bytes of self-contained frames the framer is in step**, whatever stood in front
of them. -/
theorem pushes_resynchronised (garbage : List Byte) (early late : List MavlinkFrame)
    (far : maxFrameSize ≤ (early.flatMap MavlinkFrame.bytes).length)
    (contained : SelfContainedWithin maxFrameSize early) :
    EmittedBehind (garbage ++ early.flatMap MavlinkFrame.bytes) late :=
  emittedBehind_of_residue (residue_garbage garbage far contained) late

/-- A v1 frame of system 1, component 1, with zero checksum bytes. -/
def v1Frame (payload : List Byte) (payload_le : payload.length ≤ 255) : MavlinkFrame :=
  .v1
    { sequence := 0, systemId := 1, componentId := 1, payload, payload_le,
      checksumLow := 0, checksumHigh := 0, msgid := 0 }

/-- Two long frames behind two stray magic bytes. -/
theorem pushes_resynchronised_long :
    EmittedBehind
      ([0xfd, 0xfe] ++ [v1Frame (List.replicate 255 7) (Nat.le_of_eq List.length_replicate),
        v1Frame (List.replicate 255 8) (Nat.le_of_eq List.length_replicate)].flatMap
          MavlinkFrame.bytes)
      [magicPayload, signedEmpty] :=
  pushes_resynchronised _ _ _ (by decide +kernel) (by decide +kernel)

/-! ## A chain without an end -/

/-- A frame whose payload is the beginning of a frame. -/
def decoy : MavlinkFrame := v1Frame [0xfe, 2] (by decide)

/-- What the end of one such frame and the beginning of the next look like. -/
def shifted : MavlinkFrame :=
  .v1
    { sequence := 0, systemId := 0, componentId := 0xfe, payload := [0, 1],
      payload_le := by decide, checksumLow := 1, checksumHigh := 0, msgid := 2 }

/-- What two stray bytes and the header of such a frame look like. -/
def swallowed : MavlinkFrame :=
  .v1
    { sequence := 0xfe, systemId := 2, componentId := 0, payload := []
      payload_le := Nat.zero_le _, checksumLow := 1, checksumHigh := 0, msgid := 1 }

/-- From inside one such frame the framer goes on from false frame to false frame. -/
theorem messagesIn_inside (n : ℕ) :
    messagesIn ([0xfe, 2, 0, 0] ++ (List.replicate n decoy).flatMap MavlinkFrame.bytes) =
      List.replicate n shifted.message := by
  induction n with
  | zero => decide
  | succ n ih =>
      have regroup : [0xfe, 2, 0, 0] ++ (List.replicate (n + 1) decoy).flatMap MavlinkFrame.bytes =
          shifted.bytes ++
            ([0xfe, 2, 0, 0] ++ (List.replicate n decoy).flatMap MavlinkFrame.bytes) := rfl
      rw [regroup, shifted.messagesIn_bytes_append, ih, List.replicate_succ]

/-- **Two stray bytes can make the framer lose every frame of a stream**, however long. -/
theorem messagesIn_shifted (n : ℕ) :
    messagesIn ([0xfe, 0] ++ (List.replicate (n + 1) decoy).flatMap MavlinkFrame.bytes) =
      swallowed.message :: List.replicate n shifted.message := by
  have regroup : [0xfe, 0] ++ (List.replicate (n + 1) decoy).flatMap MavlinkFrame.bytes =
      swallowed.bytes ++
        ([0xfe, 2, 0, 0] ++ (List.replicate n decoy).flatMap MavlinkFrame.bytes) := rfl
  rw [regroup, swallowed.messagesIn_bytes_append, messagesIn_inside]

/-- Without the condition 280 bytes of frames are not enough: the frame behind 28 of these is
lost. -/
theorem not_pushes_resynchronised :
    ¬ ∀ (garbage : List Byte) (early late : List MavlinkFrame),
      maxFrameSize ≤ (early.flatMap MavlinkFrame.bytes).length →
        EmittedBehind (garbage ++ early.flatMap MavlinkFrame.bytes) late := by
  intro all
  have emitted := all [0xfe, 0] (List.replicate 28 decoy) [decoy] (by decide +kernel)
    [[0xfe, 0] ++ (List.replicate 29 decoy).flatMap MavlinkFrame.bytes] (by decide +kernel)
  rw [outputs_eq_messagesIn, outputs_eq_messagesIn, List.flatten_singleton,
    List.flatten_singleton, messagesIn_shifted, messagesIn_shifted] at emitted
  have last := congrArg List.getLast? emitted
  rw [List.map_singleton, List.getLast?_concat, List.replicate_succ', ← List.cons_append,
    List.getLast?_concat] at last
  revert last
  decide

end Mavlink

end MobileGs
