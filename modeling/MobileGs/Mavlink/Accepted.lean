import MobileGs.Mavlink.Frame

/-!
# What the framer takes and what it keeps

Bytes that begin with a magic and have the length their header declares are a well-formed
frame (`exists_frame`). So everything the framer takes is one, and what it waits on is the
beginning of one that is still incomplete (`waits_for_frame`).

No header declares more than a maximal frame (`frameLength_le`), so the loop never skips a
magic byte (`scan_skips`). A stream is then accounted for byte by byte, as the frames taken,
the bytes skipped and the buffer, in the order of the stream (`Accounted`,
`pushes_accounted`).
-/

set_option autoImplicit false

namespace MobileGs

namespace Mavlink

/-! ## Frames read back from their bytes -/

/-- A length byte declares at most 255 bytes. -/
theorem toNat_le (byte : Byte) : byte.toNat ≤ 255 := Nat.le_of_lt_succ byte.toNat_lt

/-- A list that is long enough, as its front and the rest. -/
theorem exists_front {α : Type} {n : ℕ} (list : List α) (long : n ≤ list.length) :
    ∃ front rest, list = front ++ rest ∧ front.length = n :=
  ⟨list.take n, list.drop n, (List.take_append_drop n list).symm,
    List.length_take_of_le long⟩

/-- The bytes behind a header: the payload, the checksum and the rest. -/
theorem exists_payload {lengthByte : Byte} {rest : List Byte} {extra : ℕ}
    (size : rest.length = lengthByte.toNat + checksumSize + extra) :
    ∃ payload low high signature, rest = payload ++ ([low, high] ++ signature) ∧
      payload.length = lengthByte.toNat ∧ signature.length = extra := by
  have long : lengthByte.toNat ≤ rest.length := by omega
  obtain ⟨payload, later, rfl, declared⟩ := exists_front rest long
  rw [List.length_append, declared, checksumSize] at size
  have pair : 2 ≤ later.length := by omega
  obtain ⟨checksum, signature, rfl, two⟩ := exists_front later pair
  obtain ⟨low, high, rfl⟩ := List.length_eq_two.mp two
  rw [List.length_append, two] at size
  exact ⟨payload, low, high, signature, rfl, declared, by omega⟩

theorem ofNat_length {lengthByte : Byte} {payload : List Byte}
    (declared : payload.length = lengthByte.toNat) :
    UInt8.ofNat payload.length = lengthByte := by
  rw [declared, UInt8.ofNat_toNat]

/-- Three bytes as a message id. -/
def joinMsgid (low middle high : Byte) : UInt32 :=
  UInt32.ofNat (low.toNat + 2 ^ 8 * middle.toNat + 2 ^ 16 * high.toNat)

theorem joinMsgid_toNat (low middle high : Byte) :
    (joinMsgid low middle high).toNat =
      low.toNat + 2 ^ 8 * middle.toNat + 2 ^ 16 * high.toNat := by
  have lowBound := low.toNat_lt
  have middleBound := middle.toNat_lt
  have highBound := high.toNat_lt
  rw [joinMsgid, UInt32.toNat_ofNat', Nat.mod_eq_of_lt (by omega)]

theorem joinMsgid_bytes (low middle high : Byte) :
    UInt8.ofNat (joinMsgid low middle high).toNat = low ∧
      UInt8.ofNat ((joinMsgid low middle high).toNat / 2 ^ 8) = middle ∧
      UInt8.ofNat ((joinMsgid low middle high).toNat / 2 ^ 16) = high := by
  have lowBound := low.toNat_lt
  have middleBound := middle.toNat_lt
  have highBound := high.toNat_lt
  rw [joinMsgid_toNat]
  refine ⟨?_, ?_, ?_⟩
  all_goals
    apply UInt8.toNat_inj.mp
    rw [UInt8.toNat_ofNat']
    omega

/-- A v1 header and as many bytes as it declares. -/
theorem exists_v1Frame {lengthByte sequence systemId componentId msgid : Byte} {rest : List Byte}
    (size : rest.length = lengthByte.toNat + checksumSize) :
    ∃ frame : V1Frame, (MavlinkFrame.v1 frame).bytes =
      mavlinkV1Magic :: lengthByte :: sequence :: systemId :: componentId :: msgid :: rest := by
  have unsigned : rest.length = lengthByte.toNat + checksumSize + 0 := size
  obtain ⟨payload, low, high, signature, rfl, declared, none⟩ := exists_payload unsigned
  obtain rfl := List.length_eq_zero_iff.mp none
  have bound : payload.length ≤ 255 := declared ▸ toNat_le lengthByte
  refine ⟨⟨⟨sequence, systemId, componentId, payload, bound, low, high⟩, msgid⟩, ?_⟩
  simp only [MavlinkFrame.bytes, MavlinkFrame.header, MavlinkFrame.trailer, MavlinkFrame.body,
    MavlinkFrame.signature, FrameBody.lengthByte, ofNat_length declared, List.cons_append,
    List.nil_append]

/-- A v2 header and as many bytes as it declares, with the signature its flags ask for. -/
theorem exists_v2Frame {lengthByte incompatFlags compatFlags sequence systemId componentId low
    middle high : Byte} {rest : List Byte}
    (size : rest.length = lengthByte.toNat + checksumSize +
      if signedFlag incompatFlags then signatureSize else 0) :
    ∃ frame : V2Frame, (MavlinkFrame.v2 frame).bytes =
      mavlinkV2Magic :: lengthByte :: incompatFlags :: compatFlags :: sequence :: systemId ::
        componentId :: low :: middle :: high :: rest := by
  obtain ⟨payload, checksumLow, checksumHigh, signature, rfl, declared, signed⟩ :=
    exists_payload size
  have bound : payload.length ≤ 255 := declared ▸ toNat_le lengthByte
  have small : (joinMsgid low middle high).toNat < 2 ^ 24 := by
    have lowBound := low.toNat_lt
    have middleBound := middle.toNat_lt
    have highBound := high.toNat_lt
    rw [joinMsgid_toNat]
    omega
  obtain ⟨first, second, third⟩ := joinMsgid_bytes low middle high
  refine ⟨⟨⟨sequence, systemId, componentId, payload, bound, checksumLow, checksumHigh⟩,
    incompatFlags, compatFlags, joinMsgid low middle high, small, signature, signed⟩, ?_⟩
  simp only [MavlinkFrame.bytes, MavlinkFrame.header, MavlinkFrame.trailer, MavlinkFrame.body,
    MavlinkFrame.signature, FrameBody.lengthByte, ofNat_length declared, first, second, third,
    List.cons_append, List.nil_append]

/-- **Bytes that have the length their header declares are a well-formed frame.** -/
theorem exists_frame {bytes : List Byte}
    (magic : bytes.getD 0 0 = mavlinkV1Magic ∨ bytes.getD 0 0 = mavlinkV2Magic)
    (size : bytes.length = frameLength (isV2 bytes) bytes) :
    ∃ frame : MavlinkFrame, frame.bytes = bytes := by
  rcases magic with v1 | v2
  · have version : isV2 bytes = false := by rw [isV2, v1]; decide
    simp only [version, frameLength, headerSize, mavlinkV1HeaderSize, Bool.false_and,
      Bool.false_eq_true, if_false] at size
    rcases bytes with _ | ⟨_, _ | ⟨lengthByte, _ | ⟨sequence, _ | ⟨systemId, _ | ⟨componentId,
      _ | ⟨msgid, rest⟩⟩⟩⟩⟩⟩
    case cons.cons.cons.cons.cons.cons =>
      obtain rfl := v1
      simp only [List.length_cons, List.getD_cons_succ, List.getD_cons_zero] at size
      have behind : rest.length = lengthByte.toNat + checksumSize := by omega
      obtain ⟨frame, same⟩ := exists_v1Frame behind
      exact ⟨.v1 frame, same⟩
    all_goals
      simp only [List.length_cons, List.length_nil] at size
      omega
  · have version : isV2 bytes = true := by rw [isV2, v2]; decide
    simp only [version, frameLength, headerSize, mavlinkV2HeaderSize, Bool.true_and,
      if_true] at size
    rcases bytes with _ | ⟨_, _ | ⟨lengthByte, _ | ⟨incompatFlags, _ | ⟨compatFlags, _ |
      ⟨sequence, _ | ⟨systemId, _ | ⟨componentId, _ | ⟨low, _ | ⟨middle, _ |
      ⟨high, rest⟩⟩⟩⟩⟩⟩⟩⟩⟩⟩
    case cons.cons.cons.cons.cons.cons.cons.cons.cons.cons =>
      obtain rfl := v2
      simp only [List.length_cons, List.getD_cons_succ, List.getD_cons_zero] at size
      have behind : rest.length = lengthByte.toNat + checksumSize +
          if signedFlag incompatFlags then signatureSize else 0 := by omega
      obtain ⟨frame, same⟩ := exists_v2Frame behind
      exact ⟨.v2 frame, same⟩
    all_goals
      simp only [List.length_cons, List.length_nil] at size
      omega

/-! ## What the loop decides -/

/-- No header declares more than a maximal frame. -/
theorem frameLength_le (v2 : Bool) (unread : List Byte) :
    frameLength v2 unread ≤ maxFrameSize := by
  have bound := toNat_le (unread.getD 1 0)
  unfold frameLength headerSize mavlinkV1HeaderSize mavlinkV2HeaderSize checksumSize
    signatureSize maxFrameSize
  cases v2 with
  | false =>
      simp only [Bool.false_and, Bool.false_eq_true, if_false]
      omega
  | true =>
      simp only [Bool.true_and, if_true]
      split <;> omega

/-- The loop skips only bytes that are no magic. -/
theorem not_magic_of_skip {byte : Byte} {tail : List Byte}
    (decided : frameVerdict (byte :: tail) = .skip) : isMagic byte = false := by
  simp only [frameVerdict] at decided
  split at decided
  · rename_i plain
    simpa [isMagic] using plain
  · rw [if_neg (Nat.not_lt.mpr (frameLength_le _ _))] at decided
    split at decided
    · cases decided
    · split at decided <;> cases decided

/-- A frame the loop takes is at least as long as its header. -/
theorem headerSize_le_frameLength (v2 : Bool) (unread : List Byte) :
    headerSize v2 ≤ frameLength v2 unread := by
  unfold frameLength
  omega

theorem isV2_append {unread : List Byte} (more : List Byte) (some : unread ≠ []) :
    isV2 (unread ++ more) = isV2 unread := by
  obtain ⟨magic, tail, rfl⟩ := List.exists_cons_of_ne_nil some
  rfl

theorem headerSize_pos (v2 : Bool) : 0 < headerSize v2 := by
  cases v2 <;> decide

/-- What the loop takes is a well-formed frame. -/
theorem taken_frame {unread : List Byte} {length : ℕ}
    (decided : frameVerdict unread = .take length) :
    ∃ frame : MavlinkFrame, frame.bytes = unread.take length := by
  obtain ⟨magic, declared, fits, -⟩ := frameVerdict_take decided
  have whole : (unread.take length).length = length := List.length_take_of_le fits
  have header : headerSize (isV2 unread) ≤ (unread.take length).length := by
    rw [whole, declared]
    exact headerSize_le_frameLength _ _
  have some : unread.take length ≠ [] :=
    List.ne_nil_of_length_pos (Nat.lt_of_lt_of_le (headerSize_pos _) header)
  have version := isV2_append (unread.drop length) some
  have same := frameLength_append (unread.drop length) header
  rw [List.take_append_drop] at version same
  apply exists_frame
  · have first : (unread.take length).getD 0 0 = unread.getD 0 0 := by
      conv_rhs => rw [← List.take_append_drop length unread]
      rw [List.getD_append _ _ _ _ (List.length_pos_iff.mpr some)]
    rwa [first]
  · rw [whole, ← version, ← same]
    exact declared

/-- With a maximal frame's bytes at hand the loop takes a frame at every magic. -/
theorem frameVerdict_long {magic : Byte} {tail : List Byte} (known : isMagic magic = true)
    (long : maxFrameSize ≤ (magic :: tail).length) :
    frameVerdict (magic :: tail) =
      .take (frameLength (isV2 (magic :: tail)) (magic :: tail)) := by
  have recognised : ¬ (magic ≠ mavlinkV1Magic ∧ magic ≠ mavlinkV2Magic) := by
    rintro ⟨notV1, notV2⟩
    simp [isMagic, notV1, notV2] at known
  have bound := frameLength_le (isV2 (magic :: tail)) (magic :: tail)
  have header := headerSize_le_frameLength (isV2 (magic :: tail)) (magic :: tail)
  simp only [isV2, List.getD_cons_zero] at bound header ⊢
  simp only [frameVerdict]
  rw [if_neg recognised, if_neg (by omega), if_neg (by omega), if_neg (by omega)]

/-- Bytes the loop waits on start with a magic and are fewer than they declare. -/
theorem frameVerdict_wait {magic : Byte} {tail : List Byte}
    (waits : frameVerdict (magic :: tail) = .wait) :
    isMagic magic = true ∧
      ((magic :: tail).length < headerSize (isV2 (magic :: tail)) ∨
        (magic :: tail).length < frameLength (isV2 (magic :: tail)) (magic :: tail)) := by
  simp only [frameVerdict] at waits
  split at waits
  · cases waits
  · rename_i known
    refine ⟨?_, ?_⟩
    · rw [isMagic, Bool.or_eq_true, beq_iff_eq, beq_iff_eq]
      by_contra neither
      exact known (not_or.mp neither)
    · split at waits
      · rename_i short
        exact .inl short
      · split at waits
        · cases waits
        · split at waits
          · rename_i short
            exact .inr short
          · cases waits

/-- Whatever follows bytes the loop waits on, the frame they declare reaches beyond them. -/
theorem wait_shorter {magic : Byte} {tail : List Byte}
    (waits : frameVerdict (magic :: tail) = .wait) (more : List Byte) :
    (magic :: tail).length < frameLength (isV2 (magic :: tail)) (magic :: (tail ++ more)) := by
  by_cases header : headerSize (isV2 (magic :: tail)) ≤ (magic :: tail).length
  · have declared := frameLength_append more header
    rw [List.cons_append] at declared
    rw [declared]
    have short := (frameVerdict_wait waits).2
    omega
  · have := headerSize_le_frameLength (isV2 (magic :: tail)) (magic :: (tail ++ more))
    omega

/-- **What the loop waits on is the beginning of a frame that is not complete.** -/
theorem waits_for_frame {unread : List Byte} (waits : frameVerdict unread = .wait) :
    unread = [] ∨ isMagic (unread.getD 0 0) = true ∧
      ∃ frame : MavlinkFrame, unread <+: frame.bytes ∧ unread.length < frame.bytes.length := by
  cases unread with
  | nil => exact .inl rfl
  | cons magic tail =>
      have known := (frameVerdict_wait waits).1
      -- Zeros complete the frame.
      let padding : List Byte := List.replicate maxFrameSize 0
      have long : maxFrameSize ≤ (magic :: (tail ++ padding)).length := by
        simp only [List.length_cons, List.length_append, padding, List.length_replicate]
        omega
      obtain ⟨frame, same⟩ := taken_frame (frameVerdict_long known long)
      have bound := frameLength_le (isV2 (magic :: (tail ++ padding))) (magic :: (tail ++ padding))
      have version : isV2 (magic :: (tail ++ padding)) = isV2 (magic :: tail) := rfl
      have shorter := wait_shorter waits padding
      refine .inr ⟨known, frame, ?_, ?_⟩
      · rw [same, version, List.prefix_take_iff]
        exact ⟨⟨padding, rfl⟩, Nat.le_of_lt shorter⟩
      · rw [same, List.length_take_of_le (by omega), version]
        exact shorter

/-! ## Scans -/

/-- Every frame of a scan is a well-formed frame. -/
theorem scan_frames (stream : List Byte) :
    ∀ bytes ∈ frames (frameScanner.scan stream).1, ∃ frame : MavlinkFrame, frame.bytes = bytes := by
  induction stream using frameScanner.scan_induction with
  | wait unread decided =>
      rw [frameScanner.scan_wait decided]
      intro bytes member
      cases member
  | skip byte tail decided ih =>
      rw [frameScanner.scan_skip decided, frames_skipped]
      exact ih
  | take unread length decided ih =>
      rw [frameScanner.scan_take decided, frames_frame]
      intro bytes member
      rcases List.mem_cons.mp member with rfl | later
      · exact taken_frame decided
      · exact ih bytes later

/-- **The framer emits well-formed frames and nothing else.** -/
theorem messagesIn_frames (stream : List Byte) :
    ∀ message ∈ messagesIn stream, ∃ frame : MavlinkFrame, message = frame.message := by
  intro message member
  obtain ⟨bytes, among, rfl⟩ := List.mem_map.mp member
  obtain ⟨frame, rfl⟩ := scan_frames stream bytes among
  exact ⟨frame, frame.messageOf_bytes⟩

/-- The bytes a scan skips are no magic. -/
theorem scan_skips (stream : List Byte) :
    ∀ byte, .skipped byte ∈ (frameScanner.scan stream).1 → isMagic byte = false := by
  induction stream using frameScanner.scan_induction with
  | wait unread decided =>
      rw [frameScanner.scan_wait decided]
      intro byte member
      cases member
  | skip first tail decided ih =>
      rw [frameScanner.scan_skip decided]
      intro byte member
      rcases List.mem_cons.mp member with same | later
      · cases same
        exact not_magic_of_skip decided
      · exact ih byte later
  | take unread length decided ih =>
      rw [frameScanner.scan_take decided]
      intro byte member
      rcases List.mem_cons.mp member with same | later
      · cases same
      · exact ih byte later

/-! ## Accounting for a stream -/

/-- Where the bytes of a stream are: in the messages framed, among the bytes dropped or in the
buffer. -/
structure Accounted (stream : List Byte) (framed : List MavlinkMessage) (framer : MavlinkFramer) :
    Prop where
  total : stream.length =
    (framed.map MavlinkMessage.size).sum + framer.droppedBytes + framer.buffer.length
  /-- The messages are pieces of the stream, in its order, and what stands between them is
  dropped. The loop drops no magic byte, so it never finds a frame too long. -/
  pieces : ∃ pieces : List (Piece Byte),
    stream = pieces.flatMap Piece.symbols ++ framer.buffer ∧
      frames pieces = framed.map MavlinkMessage.data ∧
      skippedCount pieces = framer.droppedBytes ∧
      ∀ byte, .skipped byte ∈ pieces → isMagic byte = false
  buffer : framer.buffer = [] ∨ isMagic (framer.buffer.getD 0 0) = true ∧
    ∃ frame : MavlinkFrame,
      framer.buffer <+: frame.bytes ∧ framer.buffer.length < frame.bytes.length
  short : framer.buffer.length < maxFrameSize
  /-- The guard at the end of the next push does not fire. -/
  unguarded : ∀ data,
    ¬ (frameScanner.scan (framer.buffer ++ data)).2.length > 4 * maxFrameSize

theorem noReset (stream : List Byte) :
    ¬ (frameScanner.scan stream).2.length > 4 * maxFrameSize := by
  have short := residue_short stream
  rw [residue] at short
  omega

/-- The scan of a stream accounts for it. -/
theorem accounted_scan (stream : List Byte) (callback : Bool) :
    Accounted stream (messagesIn stream) (({ callback } : MavlinkFramer).push stream).1 := by
  have bytes := frameScanner.scan_bytes stream
  have sizes : (messagesIn stream).map MavlinkMessage.data =
      frames (frameScanner.scan stream).1 := by
    rw [messagesIn, List.map_map]
    exact (List.map_congr_left fun bytes _ => messageOf_data bytes).trans (List.map_id _)
  rw [push_eq_scan]
  simp only [List.nil_append, Nat.zero_add]
  constructor
  · have split := congrArg List.length bytes
    rw [List.length_append, length_symbols, ← sizes, List.length_flatten, List.map_map] at split
    exact split.symm
  · exact ⟨(frameScanner.scan stream).1, bytes.symm, sizes.symm, rfl, scan_skips stream⟩
  · exact waits_for_frame (frameScanner.verdict_scan_rest stream)
  · exact residue_short stream
  · exact fun data => noReset _

/-- **After any pushes every byte is accounted for**: it is in a message framed, it was dropped,
or it is in the buffer, which is the beginning of a frame. The messages framed are those the
callback receives, when there is one. -/
theorem pushes_accounted (callback : Bool) (chunks : List (List Byte)) :
    ∃ framed,
      MavlinkFramer.pushes.outputs { callback } chunks = (if callback then framed else []) ∧
      (MavlinkFramer.pushes.after { callback } chunks).messages = framed.length ∧
      Accounted chunks.flatten framed (MavlinkFramer.pushes.after { callback } chunks) := by
  have run := pushes_eq_push callback chunks
  have after : MavlinkFramer.pushes.after { callback } chunks =
      (({ callback } : MavlinkFramer).push chunks.flatten).1 := congrArg Prod.fst run
  have outputs : MavlinkFramer.pushes.outputs { callback } chunks =
      (({ callback } : MavlinkFramer).push chunks.flatten).2 := congrArg Prod.snd run
  refine ⟨messagesIn chunks.flatten, ?_, ?_, ?_⟩
  · rw [outputs, push_eq_scan]
    rfl
  · simp only [after, push_eq_scan, messagesIn, List.length_map, Nat.zero_add, List.nil_append]
  · rw [after]
    exact accounted_scan chunks.flatten callback

end Mavlink

end MobileGs
