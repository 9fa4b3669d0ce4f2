import MobileGs.Msp.Pending

/-!
# A frame behind noise

A decoder that reads no frame body may still have taken up the beginning of a header. In front
of the letter a `$` starts the header again, but in front of the direction byte the decoder gives
up on it. So a frame behind `$M` or `$X` is missed (`not_dispatches_brokenHeader`).

Nothing inside a frame can make up for its first byte: a frame that stands inside another one
carries another message (`message_ne_of_inside`). So a frame is dispatched exactly when the
decoder does not wait for a direction byte (`dispatches_iff`).
-/

set_option autoImplicit false

namespace MobileGs

namespace Msp

open MspOsdDecoder

/-- No frame body is being read. -/
def MspOsdDecoder.OutsideBody (decoder : MspOsdDecoder) : Prop :=
  decoder.state = .idle ∨ decoder.state = .headerM ∨ decoder.state = .headerArrow

/-- Pushing the frame dispatches its message. -/
def Dispatches (decoder : MspOsdDecoder) (frame : MspFrame) : Prop :=
  frame.message ∈ messagesOf (decoder.push frame.bytes).2

/-! ## A frame inside a frame -/

theorem V1Frame.length_bytes (frame : V1Frame) :
    frame.bytes.length = frame.payload.length + 6 := by
  simp [V1Frame.bytes, V1Frame.covered]

theorem V2Frame.length_bytes (frame : V2Frame) :
    frame.bytes.length = frame.payload.length + 9 := by
  simp [V2Frame.bytes, V2Frame.covered]
  omega

/-- A function whose high byte is a direction byte is no v1 command. -/
theorem command_ne_function {function : UInt16} {direction : Direction}
    (high : UInt8.ofNat (function.toNat / 256) = direction.byte) (command : Byte) :
    command.toUInt16 ≠ function := by
  rintro rfl
  have small := command.toNat_lt
  rw [UInt8.toNat_toUInt16, Nat.div_eq_of_lt small] at high
  cases direction <;> cases high

/-- Only a v1 frame can stand inside a v2 frame with a payload as long, and then the flags and the
function are its header. -/
theorem message_ne_of_v1_inside {frame : V2Frame} {inner : V1Frame} {front back : List Byte}
    (split : frame.bytes = dollar :: (front ++ (inner.bytes ++ back))) :
    inner.message ≠ frame.message := by
  intro same
  obtain ⟨function, payload⟩ := Prod.mk.inj same
  have lengths := congrArg List.length split
  rw [List.length_cons, List.length_append, List.length_append, frame.length_bytes,
    inner.length_bytes, payload] at lengths
  have behind := (List.cons.inj split).2
  rcases front with - | ⟨first, - | ⟨second, - | ⟨third, rest⟩⟩⟩
  · cases (List.cons.inj behind).1
  · have direction := (List.cons.inj (List.cons.inj behind).2).1
    cases same : frame.direction <;> rw [same] at direction <;> cases direction
  · simp only [V2Frame.covered, V1Frame.bytes, leBytes, List.cons_append, List.nil_append,
      List.cons.injEq] at behind
    exact command_ne_function behind.2.2.2.2.1 inner.command function
  · simp only [List.length_cons] at lengths
    omega

/-- **A frame that stands inside a frame carries another message.** -/
theorem message_ne_of_inside {frame inner : MspFrame} {front back : List Byte}
    (split : frame.bytes = dollar :: (front ++ (inner.bytes ++ back))) :
    inner.message ≠ frame.message := by
  have lengths := congrArg List.length split
  rw [List.length_cons, List.length_append, List.length_append] at lengths
  cases frame with
  | v1 frame =>
      intro same
      have payload := congrArg (fun message => message.2.length) same
      cases inner with
      | v1 inner =>
          simp only [MspFrame.bytes, V1Frame.length_bytes] at lengths
          simp only [MspFrame.message, V1Frame.message] at payload
          omega
      | v2 inner =>
          simp only [MspFrame.bytes, V1Frame.length_bytes, V2Frame.length_bytes] at lengths
          simp only [MspFrame.message, V1Frame.message, V2Frame.message] at payload
          omega
  | v2 frame =>
      cases inner with
      | v1 inner => exact message_ne_of_v1_inside split
      | v2 inner =>
          intro same
          have payload := congrArg (fun message => message.2.length) same
          simp only [MspFrame.bytes, V2Frame.length_bytes] at lengths
          simp only [MspFrame.message, V2Frame.message] at payload
          omega

/-! ## A decoder in a header -/

theorem MspFrame.bytes_cons (frame : MspFrame) :
    ∃ rest, frame.bytes = dollar :: rest := by
  cases frame <;> exact ⟨_, rfl⟩

/-- An idle decoder dispatches the frame it reads, and nothing else. -/
theorem messagesOf_idle {decoder : MspOsdDecoder} (idle : decoder.state = .idle)
    (frame : MspFrame) : messagesOf (decoder.push frame.bytes).2 = [frame.message] := by
  rw [push, run_bytes idle, messagesOf_dispatchMessage]
  cases frame <;> rfl

/-- Behind one `$` or more the decoder reads a frame as an idle one does. -/
theorem messagesOf_headerM {decoder : MspOsdDecoder} (header : decoder.state = .headerM)
    (frame : MspFrame) : messagesOf (decoder.push frame.bytes).2 = [frame.message] := by
  obtain ⟨rest, bytes⟩ := frame.bytes_cons
  have stays : bytewise.step decoder dollar = (decoder, []) := by
    simp only [bytewise, handleByte, header]
    rfl
  have takesUp : bytewise.step { decoder with state := .idle } dollar = (decoder, []) := by
    simp only [bytewise, handleByte, if_true, ← header]
  have idle : messagesOf (MspOsdDecoder.push { decoder with state := .idle } frame.bytes).2 =
      [frame.message] := messagesOf_idle rfl frame
  rw [push, bytes, bytewise.run_cons_silent takesUp] at idle
  rw [push, bytes, bytewise.run_cons_silent stays]
  exact idle

/-- What a decoder dispatches over a stream are messages of frames that stand in it. -/
theorem exists_frame_of_dispatched {callback : Bool} {stream : List Byte} {message : Message}
    (member : message ∈ dispatched callback stream) :
    ∃ (front : List Byte) (frame : MspFrame) (back : List Byte),
      stream = front ++ (frame.bytes ++ back) ∧ frame.message = message := by
  obtain ⟨items, rest, whole, messages⟩ := exists_frames callback stream
  rw [messages] at member
  obtain ⟨item, among, same⟩ := List.mem_map.mp member
  obtain ⟨before, after, rfl⟩ := List.append_of_mem among
  refine ⟨before.flatMap (fun item => item.1 ++ item.2.bytes) ++ item.1, item.2,
    after.flatMap (fun item => item.1 ++ item.2.bytes) ++ rest, ?_, same⟩
  rw [whole, List.flatMap_append, List.flatMap_cons]
  simp only [List.append_assoc]

/-- In front of a direction byte the decoder takes the first byte of a frame for a wrong one, and
it finds the message nowhere in what is left. -/
theorem not_dispatches_headerArrow {decoder : MspOsdDecoder}
    (header : decoder.state = .headerArrow) (frame : MspFrame) : ¬ Dispatches decoder frame := by
  intro dispatches
  obtain ⟨rest, bytes⟩ := frame.bytes_cons
  have givesUp : bytewise.step decoder dollar = ({ decoder with state := .idle }, []) := by
    simp only [bytewise, handleByte, header]
    rfl
  have like : messagesOf (bytewise.run { decoder with state := .idle } rest).2 =
      dispatched false rest := (run_pending (pending_idle rfl) rest).2
  rw [Dispatches, push, bytes, bytewise.run_cons_silent givesUp, like] at dispatches
  obtain ⟨front, inner, back, whole, same⟩ := exists_frame_of_dispatched dispatches
  rw [whole] at bytes
  exact message_ne_of_inside bytes same

/-! ## Every state outside a body -/

/-- **A frame behind noise is dispatched exactly when the decoder does not wait for a direction
byte.** -/
theorem dispatches_iff {decoder : MspOsdDecoder} (outside : decoder.OutsideBody)
    (frame : MspFrame) : Dispatches decoder frame ↔ decoder.state ≠ .headerArrow := by
  constructor
  · intro dispatches header
    exact not_dispatches_headerArrow header frame dispatches
  · intro other
    rw [Dispatches]
    rcases outside with idle | header | header
    · rw [messagesOf_idle idle]
      exact List.mem_singleton_self _
    · rw [messagesOf_headerM header]
      exact List.mem_singleton_self _
    · exact absurd header other

/-- DRAW_SCREEN in a v1 frame. -/
def drawFrame : MspFrame :=
  .v1
    { direction := .fromController, command := 182, payload := [4], payload_le := by decide }

/-- A frame behind two `$`. -/
theorem dispatches_iff_dollars :
    Dispatches (bytewise.after (fresh true) [dollar, dollar]) drawFrame ↔
      (bytewise.after (fresh true) [dollar, dollar]).state ≠ .headerArrow :=
  dispatches_iff (.inr (.inl rfl)) drawFrame

/-- Behind `$M` the frame is missed. -/
theorem not_dispatches_brokenHeader :
    (bytewise.after (fresh true) [dollar, letterM]).OutsideBody ∧
      ¬ Dispatches (bytewise.after (fresh true) [dollar, letterM]) drawFrame := by
  refine ⟨.inr (.inr rfl), ?_⟩
  unfold Dispatches
  decide

end Msp

end MobileGs
