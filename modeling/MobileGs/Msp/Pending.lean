import MobileGs.Msp.Soundness

/-!
# The frame a decoder is reading

What the decoder dispatches depends only on what it has read of a frame (`handleByte_pending`).
So decoders with the same frame pending dispatch the same messages (`run_pending`), and an idle
decoder is like a fresh one.
-/

set_option autoImplicit false

namespace MobileGs

namespace Msp

open MspOsdDecoder

/-! ## The frame the decoder is reading -/

/-- The fields that the bytes to come can depend on, the others as in a fresh decoder. -/
def MspOsdDecoder.pending (decoder : MspOsdDecoder) : MspOsdDecoder :=
  match decoder.state with
  | .idle | .headerM => { state := decoder.state }
  | .headerArrow => { state := decoder.state, v2 := decoder.v2 }
  | .v1Size | .v2Flags => { state := decoder.state, payload := decoder.payload }
  | .v2FunctionLo =>
      { state := decoder.state, payload := decoder.payload, checksum := decoder.checksum }
  | .v1Command =>
      { state := decoder.state, payload := decoder.payload, checksum := decoder.checksum,
        expectedSize := decoder.expectedSize }
  | .v2FunctionHi | .v2SizeLo =>
      { state := decoder.state, payload := decoder.payload, checksum := decoder.checksum,
        function := decoder.function }
  | .v1Payload | .v1Checksum | .v2SizeHi | .v2Payload | .v2Checksum =>
      { state := decoder.state, payload := decoder.payload, checksum := decoder.checksum,
        function := decoder.function, expectedSize := decoder.expectedSize }

theorem pending_state (decoder : MspOsdDecoder) : decoder.pending.state = decoder.state := by
  unfold MspOsdDecoder.pending
  split <;> rfl

theorem pending_idle {decoder : MspOsdDecoder} (idle : decoder.state = .idle) :
    decoder.pending = {} := by
  rw [MspOsdDecoder.pending]
  simp only [idle]

/-- Two decoders with the same frame pending, that dispatched the same. -/
structure ParsesAlike (first second : MspOsdDecoder × List Output) : Prop where
  pending : first.1.pending = second.1.pending
  messages : messagesOf first.2 = messagesOf second.2

theorem checkFrame_pending {decoder decoder' : MspOsdDecoder}
    (checksum : decoder.checksum = decoder'.checksum)
    (function : decoder.function = decoder'.function)
    (payload : decoder.payload = decoder'.payload) (byte : Byte) :
    ParsesAlike (decoder.checkFrame byte) (decoder'.checkFrame byte) := by
  constructor
  · rw [pending_idle (checkFrame_keeps decoder byte).1,
      pending_idle (checkFrame_keeps decoder' byte).1]
  · by_cases right : decoder.checksum = byte
    · rw [checkFrame_right right, checkFrame_right (checksum.symm.trans right),
        messagesOf_dispatchMessage, messagesOf_dispatchMessage, function, payload]
    · rw [checkFrame_wrong right, checkFrame_wrong (checksum ▸ right)]

/-- In front of a checksum the whole message is pending. -/
theorem pending_atChecksum {decoder : MspOsdDecoder} (complete : decoder.AtChecksum) :
    decoder.pending.AtChecksum ∧ decoder.pending.checksum = decoder.checksum ∧
      decoder.pending.function = decoder.function ∧ decoder.pending.payload = decoder.payload := by
  rcases complete with state | state
  · simp only [MspOsdDecoder.pending, state]
    exact ⟨.inl rfl, trivial, trivial, trivial⟩
  · simp only [MspOsdDecoder.pending, state]
    exact ⟨.inr rfl, trivial, trivial, trivial⟩

/-- **What a byte does to the frame pending, and the message it dispatches, depend on that frame
only.** -/
theorem handleByte_pending (decoder : MspOsdDecoder) (byte : Byte) :
    ParsesAlike (decoder.pending.handleByte byte) (decoder.handleByte byte) := by
  by_cases complete : decoder.AtChecksum
  · obtain ⟨complete', checksum, function, payload⟩ := pending_atChecksum complete
    rw [handleByte_atChecksum complete, handleByte_atChecksum complete']
    exact checkFrame_pending checksum function payload byte
  unfold AtChecksum at complete
  cases state : decoder.state with
  | v1Checksum => exact absurd (.inl state) complete
  | v2Checksum => exact absurd (.inr state) complete
  | idle =>
      simp only [MspOsdDecoder.pending, handleByte, state]
      by_cases isDollar : byte = dollar
      · rw [if_pos isDollar, if_pos isDollar]
        exact ⟨rfl, rfl⟩
      · rw [if_neg isDollar, if_neg isDollar]
        exact ⟨(pending_idle state).symm, rfl⟩
  | headerM =>
      have same : decoder.pending = { state := .headerM } := by
        rw [MspOsdDecoder.pending]
        simp only [state]
      rw [same]
      simp only [handleByte, state]
      split
      · exact ⟨rfl, rfl⟩
      · split
        · exact ⟨rfl, rfl⟩
        · split
          · exact ⟨same.symm, rfl⟩
          · exact ⟨rfl, rfl⟩
  | headerArrow =>
      simp only [MspOsdDecoder.pending, handleByte, state]
      by_cases is : isDirection byte = true
      · rw [if_pos is, if_pos is]
        cases decoder.v2 <;> exact ⟨rfl, rfl⟩
      · rw [if_neg is, if_neg is]
        exact ⟨rfl, rfl⟩
  | v1Command =>
      simp only [MspOsdDecoder.pending, handleByte, state]
      by_cases some : decoder.expectedSize > 0
      · simp only [if_pos some]
        exact ⟨rfl, rfl⟩
      · simp only [if_neg some]
        exact ⟨rfl, rfl⟩
  | v1Payload =>
      simp only [MspOsdDecoder.pending, handleByte, state]
      by_cases whole : decoder.payload.length + 1 ≥ decoder.expectedSize.toNat
      · simp only [if_pos whole]
        exact ⟨rfl, rfl⟩
      · simp only [if_neg whole]
        exact ⟨rfl, rfl⟩
  | v2SizeHi =>
      simp only [MspOsdDecoder.pending, handleByte, state]
      repeat' split
      all_goals exact ⟨rfl, rfl⟩
  | v2Payload =>
      simp only [MspOsdDecoder.pending, handleByte, state]
      by_cases whole : decoder.payload.length + 1 ≥ decoder.expectedSize.toNat
      · simp only [if_pos whole]
        exact ⟨rfl, rfl⟩
      · simp only [if_neg whole]
        exact ⟨rfl, rfl⟩
  | _ =>
      simp only [MspOsdDecoder.pending, handleByte, state]
      exact ⟨rfl, rfl⟩

/-- Decoders with the same frame pending dispatch the same messages. -/
theorem run_pending {decoder decoder' : MspOsdDecoder} (same : decoder.pending = decoder'.pending)
    (data : List Byte) :
    (bytewise.after decoder data).pending = (bytewise.after decoder' data).pending ∧
      messagesOf (bytewise.outputs decoder data) = messagesOf (bytewise.outputs decoder' data) := by
  have unwinds (first second : MspOsdDecoder) (byte byte' : Byte)
      (related : first.pending = second.pending) (alike : byte = byte') :
      (bytewise.step first byte).1.pending = (bytewise.step second byte').1.pending ∧
        messagesOf (bytewise.step first byte).2 = messagesOf (bytewise.step second byte').2 := by
    subst alike
    have one := handleByte_pending first byte
    have other := handleByte_pending second byte
    rw [related] at one
    exact ⟨one.pending.symm.trans other.pending, one.messages.symm.trans other.messages⟩
  exact Mealy.unwinding _ (fun first second => first.pending = second.pending) unwinds same
    (Mealy.alikeAlong_self (fun _ _ => rfl) decoder data)

end Msp

end MobileGs
