import Mathlib.Data.List.GetD
import MobileGs.Foundations.LittleEndian
import MobileGs.Foundations.Mealy
import MobileGs.Foundations.Scanner

/-!
# Splitting a byte stream into MAVLink messages

`MavlinkFramer` keeps the bytes it has not decided on in a buffer. `Push`
appends to the buffer and loops: skip a byte that is not a magic, wait for the
header and then for the declared length, pass a whole frame to the callback.

One turn of the loop is `frameVerdict` on the bytes from the offset on, so the
loop is a scan (`frameScanner`), and the rest of the scan is what the framer
keeps. The residue of a scan is shorter than a maximal frame
(`residue_short`), so the reset that guards the buffer never fires
(`push_eq_scan`).

**How the stream is cut into pushes does not matter** (`pushes_eq_push`,
`pushes_agree`).
-/

set_option autoImplicit false

namespace MobileGs

namespace Mavlink

def mavlinkV1Magic : Byte := 0xfe
def mavlinkV2Magic : Byte := 0xfd
def mavlinkV1HeaderSize : ℕ := 6
def mavlinkV2HeaderSize : ℕ := 10
def checksumSize : ℕ := 2
def signatureSize : ℕ := 13
def maxFrameSize : ℕ := 280

/-- A framed message. The size of the source's message is the length of `data`. -/
structure MavlinkMessage where
  data : List Byte
  msgid : UInt32
  systemId : Byte
  componentId : Byte
  v2 : Bool
  deriving DecidableEq, Repr

def MavlinkMessage.size (message : MavlinkMessage) : ℕ := message.data.length

/-! ## The framing loop -/

/-- The header size the magic selects. -/
def headerSize (v2 : Bool) : ℕ := if v2 then mavlinkV2HeaderSize else mavlinkV1HeaderSize

/-- `MAVLINK_IFLAG_SIGNED` among the incompatibility flags. -/
def signedFlag (incompatFlags : Byte) : Bool := incompatFlags &&& 0x01 != 0

/-- The length a header declares: header, payload, checksum, and the signature of a
signed v2 frame. -/
def frameLength (v2 : Bool) (unread : List Byte) : ℕ :=
  headerSize v2 + (unread.getD 1 0).toNat + checksumSize +
    if v2 && signedFlag (unread.getD 2 0) then signatureSize else 0

/-- One turn of the loop in `Push`, on the bytes of `buffer_` from `offset` on. -/
def frameVerdict (unread : List Byte) : Verdict :=
  match unread with
  | [] => .wait
  | magic :: _ =>
      if magic ≠ mavlinkV1Magic ∧ magic ≠ mavlinkV2Magic then .skip
      else
        let v2 := magic == mavlinkV2Magic
        if unread.length < headerSize v2 then .wait
        else if frameLength v2 unread > maxFrameSize then .skip
        else if unread.length < frameLength v2 unread then .wait
        else .take (frameLength v2 unread)

/-- The message the loop passes to the callback for the bytes of a whole frame. -/
def messageOf (bytes : List Byte) : MavlinkMessage :=
  if bytes.getD 0 0 = mavlinkV2Magic then
    { data := bytes
      msgid := (bytes.getD 7 0).toUInt32 ||| ((bytes.getD 8 0).toUInt32 <<< 8) |||
        ((bytes.getD 9 0).toUInt32 <<< 16)
      systemId := bytes.getD 5 0
      componentId := bytes.getD 6 0
      v2 := true }
  else
    { data := bytes
      msgid := (bytes.getD 5 0).toUInt32
      systemId := bytes.getD 3 0
      componentId := bytes.getD 4 0
      v2 := false }

theorem messageOf_data (bytes : List Byte) : (messageOf bytes).data = bytes := by
  unfold messageOf
  split <;> rfl

/-- The first byte of a stretch selects the protocol version. -/
def isV2 (unread : List Byte) : Bool := unread.getD 0 0 == mavlinkV2Magic

/-- Where the loop takes a frame, the header and the whole declared length are there. -/
theorem frameVerdict_take {unread : List Byte} {length : ℕ}
    (decided : frameVerdict unread = .take length) :
    (unread.getD 0 0 = mavlinkV1Magic ∨ unread.getD 0 0 = mavlinkV2Magic) ∧
      length = frameLength (isV2 unread) unread ∧ length ≤ unread.length ∧
        length ≤ maxFrameSize := by
  cases unread with
  | nil => cases decided
  | cons magic tail =>
      simp only [frameVerdict] at decided
      split at decided
      · cases decided
      · rename_i known
        split at decided
        · cases decided
        · split at decided
          · cases decided
          · split at decided
            · cases decided
            · simp only [Verdict.take.injEq] at decided
              subst decided
              refine ⟨?_, rfl, by omega, by omega⟩
              simp only [List.getD_cons_zero]
              by_contra neither
              exact known (not_or.mp neither)

theorem frameLength_append {v2 : Bool} {unread : List Byte} (more : List Byte)
    (whole : headerSize v2 ≤ unread.length) :
    frameLength v2 (unread ++ more) = frameLength v2 unread := by
  have long : 3 ≤ unread.length := by
    refine Nat.le_trans ?_ whole
    cases v2 <;> decide
  unfold frameLength
  rw [List.getD_append _ _ _ _ (by omega), List.getD_append _ _ _ _ (by omega)]

/-- The loop as a scanner: a decision does not depend on the bytes behind it. -/
def frameScanner : Scanner Byte where
  verdict := frameVerdict
  verdict_nil := rfl
  take_pos := by
    intro unread length decided
    obtain ⟨-, declared, -, -⟩ := frameVerdict_take decided
    rw [declared, frameLength, checksumSize]
    omega
  take_le := fun decided => (frameVerdict_take decided).2.2.1
  verdict_append := by
    intro unread more decided
    cases unread with
    | nil => exact absurd rfl decided
    | cons magic tail =>
        have length_append : ((magic :: tail) ++ more).length =
            (magic :: tail).length + more.length := List.length_append
        simp only [frameVerdict, List.cons_append] at decided ⊢
        by_cases unknown : magic ≠ mavlinkV1Magic ∧ magic ≠ mavlinkV2Magic
        · rw [if_pos unknown, if_pos unknown]
        · rw [if_neg unknown] at decided ⊢
          rw [if_neg unknown]
          by_cases short : (magic :: tail).length < headerSize (magic == mavlinkV2Magic)
          · rw [if_pos short] at decided
            exact absurd rfl decided
          · have same := frameLength_append more (Nat.le_of_not_lt short)
            rw [List.cons_append] at same length_append
            rw [if_neg short] at decided ⊢
            rw [if_neg (by omega), same]
            by_cases long : frameLength (magic == mavlinkV2Magic) (magic :: tail) > maxFrameSize
            · rw [if_pos long, if_pos long]
            · rw [if_neg long] at decided ⊢
              rw [if_neg long]
              by_cases partialFrame : (magic :: tail).length <
                  frameLength (magic == mavlinkV2Magic) (magic :: tail)
              · rw [if_pos partialFrame] at decided
                exact absurd rfl decided
              · rw [if_neg partialFrame, if_neg (by omega)]

/-- Bytes the loop waits on are fewer than those of a maximal frame. -/
theorem wait_short {unread : List Byte} (waits : frameVerdict unread = .wait) :
    unread.length < maxFrameSize := by
  cases unread with
  | nil => decide
  | cons magic tail =>
      simp only [frameVerdict] at waits
      split at waits
      · cases waits
      · split at waits
        · rename_i short
          apply Nat.lt_trans short
          cases magic == mavlinkV2Magic <;> decide
        · split at waits
          · cases waits
          · split at waits
            · omega
            · cases waits

/-! ## The framer -/

/-- `MavlinkFramer`. `callback` says whether `callback_` is set. -/
structure MavlinkFramer where
  buffer : List Byte := []
  callback : Bool := false
  messages : ℕ := 0
  droppedBytes : ℕ := 0
  deriving DecidableEq, Repr

namespace MavlinkFramer

def setCallback (framer : MavlinkFramer) : MavlinkFramer := { framer with callback := true }

/-- `Push`: the framer afterwards, and the messages passed to the callback. The loop is
a scan of the buffer with the new bytes behind it. -/
def push (framer : MavlinkFramer) (data : List Byte) : MavlinkFramer × List MavlinkMessage :=
  let scanned := frameScanner.scan (framer.buffer ++ data)
  let pieces := scanned.1
  let buffer := scanned.2
  let framer :=
    { framer with
      buffer := buffer
      messages := framer.messages + (frames pieces).length
      droppedBytes := framer.droppedBytes + skippedCount pieces }
  let framer :=
    -- the guard against a stream that never syncs
    if buffer.length > 4 * maxFrameSize then
      { framer with buffer := [], droppedBytes := framer.droppedBytes + buffer.length }
    else framer
  (framer, if framer.callback then (frames pieces).map messageOf else [])

/-- A framer that is given chunk after chunk. -/
def pushes : Mealy MavlinkFramer (List Byte) MavlinkMessage where
  step := push

end MavlinkFramer

/-- The bytes a fresh framer keeps after a stream. -/
def residue (stream : List Byte) : List Byte := (frameScanner.scan stream).2

/-- The messages a fresh framer emits for a stream. -/
def messagesIn (stream : List Byte) : List MavlinkMessage :=
  (frames (frameScanner.scan stream).1).map messageOf

theorem residue_short (stream : List Byte) : (residue stream).length < maxFrameSize :=
  wait_short (frameScanner.verdict_scan_rest stream)

@[simp] theorem residue_nil : residue [] = [] := rfl

@[simp] theorem messagesIn_nil : messagesIn [] = [] := rfl

theorem residue_append (stream more : List Byte) :
    residue (stream ++ more) = residue (residue stream ++ more) := by
  simp only [residue, frameScanner.scan_append stream more]

theorem messagesIn_append (stream more : List Byte) :
    messagesIn (stream ++ more) = messagesIn stream ++ messagesIn (residue stream ++ more) := by
  simp only [messagesIn, residue, frameScanner.scan_append stream more, frames_append,
    List.map_append]

/-- The guard never fires: a push is the scan. -/
theorem push_eq_scan (framer : MavlinkFramer) (data : List Byte) :
    framer.push data =
      ({ framer with
          buffer := residue (framer.buffer ++ data)
          messages := framer.messages +
            (frames (frameScanner.scan (framer.buffer ++ data)).1).length
          droppedBytes := framer.droppedBytes +
            skippedCount (frameScanner.scan (framer.buffer ++ data)).1 },
        if framer.callback then messagesIn (framer.buffer ++ data) else []) := by
  have short := residue_short (framer.buffer ++ data)
  have noReset : ¬ (frameScanner.scan (framer.buffer ++ data)).2.length > 4 * maxFrameSize := by
    simp only [residue] at short
    omega
  simp only [MavlinkFramer.push, if_neg noReset, residue, messagesIn]

@[simp] theorem push_buffer (framer : MavlinkFramer) (data : List Byte) :
    (framer.push data).1.buffer = residue (framer.buffer ++ data) := by
  rw [push_eq_scan]

@[simp] theorem push_callback (framer : MavlinkFramer) (data : List Byte) :
    (framer.push data).1.callback = framer.callback := by
  rw [push_eq_scan]

/-- A framer with a callback emits what its buffer and the new bytes hold. -/
theorem push_emits {framer : MavlinkFramer} (callback : framer.callback = true)
    (data : List Byte) : (framer.push data).2 = messagesIn (framer.buffer ++ data) := by
  rw [push_eq_scan, callback, if_pos rfl]

/-! ## Chunks -/

/-- Pushing twice is pushing the concatenation. -/
theorem push_push (framer : MavlinkFramer) (first later : List Byte) :
    ((framer.push first).1.push later).1 = (framer.push (first ++ later)).1 ∧
      (framer.push first).2 ++ ((framer.push first).1.push later).2 =
        (framer.push (first ++ later)).2 := by
  have split := frameScanner.scan_append (framer.buffer ++ first) later
  rw [List.append_assoc] at split
  constructor
  · simp only [push_eq_scan, residue, split, frames_append, skippedCount_append,
      List.length_append, Nat.add_assoc]
  · have emitted := messagesIn_append (framer.buffer ++ first) later
    rw [List.append_assoc] at emitted
    rw [push_eq_scan framer (first ++ later), emitted, push_eq_scan _ later, push_buffer,
      push_callback, push_eq_scan framer first]
    cases framer.callback <;> rfl

/-- Pushing nothing changes nothing once the buffer has been scanned. -/
theorem push_nil {framer : MavlinkFramer} (scanned : frameVerdict framer.buffer = .wait) :
    framer.push [] = (framer, []) := by
  have nothing : frameScanner.scan framer.buffer = ([], framer.buffer) :=
    frameScanner.scan_wait scanned
  simp only [push_eq_scan, List.append_nil, residue, messagesIn, nothing]
  simp

/-- **A fresh framer that is given chunks does what it does on their concatenation.** -/
theorem pushes_eq_push (callback : Bool) (chunks : List (List Byte)) :
    MavlinkFramer.pushes.run { callback } chunks =
      ({ callback } : MavlinkFramer).push chunks.flatten := by
  induction chunks using List.reverseRecOn with
  | nil => exact (push_nil rfl).symm
  | append_singleton chunks chunk ih =>
      obtain ⟨state, emitted⟩ := push_push { callback } chunks.flatten chunk
      rw [Mealy.run_append, ih, List.flatten_append, List.flatten_singleton]
      simp only [Mealy.run_cons, Mealy.run_nil, List.append_nil, MavlinkFramer.pushes]
      exact Prod.ext state emitted

/-- A framer with a callback that is given a stream in chunks. -/
theorem outputs_eq_messagesIn (chunks : List (List Byte)) :
    MavlinkFramer.pushes.outputs { callback := true } chunks = messagesIn chunks.flatten := by
  rw [Mealy.outputs, pushes_eq_push, push_emits rfl]
  rfl

/-- **Two ways of cutting one stream into pushes cannot be told apart**: the messages
emitted, the counters and the bytes left in the buffer are the same. -/
theorem pushes_agree (callback : Bool) (chunks chunks' : List (List Byte))
    (same : chunks.flatten = chunks'.flatten) :
    MavlinkFramer.pushes.run { callback } chunks =
      MavlinkFramer.pushes.run { callback } chunks' := by
  rw [pushes_eq_push, pushes_eq_push, same]

/-- A heartbeat pushed whole, and cut inside its payload with an empty chunk between. -/
theorem pushes_agree_heartbeat :
    MavlinkFramer.pushes.run { callback := true }
        [[0xfe, 2, 0, 1, 1, 0, 7, 8, 0, 0]] =
      MavlinkFramer.pushes.run { callback := true }
        [[0xfe, 2, 0, 1, 1, 0, 7], [], [8, 0, 0]] :=
  pushes_agree true _ _ (by decide)

end Mavlink

end MobileGs
