import MobileGs.Link.Model
import MobileGs.Wfb.Session

/-!
# The uplink frame on the receive side

`SendUplink` writes the channel id into both addresses of a frame, and a `WfbReceiver` reads it
there. The channel id keeps 24 bits of the link id (`toNat_channelId`), and the receiver compares
what it reads with all 32 bits of its own. So a frame is received on its link if and only if the
link id has no more than 24 bits, and it is mistaken for one of the link with the same low 24 bits
(`carried_iff`).
-/

set_option autoImplicit false

namespace MobileGs

namespace Link

open Wfb WfbReceiver

/-! ## The channel id -/

/-- A channel id keeps the low 24 bits of a link id. -/
theorem toNat_channelId (linkId : UInt32) (radioPort : Byte) :
    (channelId linkId radioPort).toNat = linkId.toNat % 2 ^ 24 * 2 ^ 8 + radioPort.toNat := by
  have shifted : linkId.toNat <<< (UInt32.toNat 8 % 32) % 2 ^ 32 =
      (linkId.toNat % 2 ^ 24) <<< 8 := by
    change linkId.toNat <<< 8 % 2 ^ 32 = _
    rw [Nat.shiftLeft_eq, Nat.shiftLeft_eq]
    exact Nat.mul_mod_mul_right (2 ^ 8) linkId.toNat (2 ^ 24)
  rw [channelId, UInt32.toNat_or, UInt32.toNat_shiftLeft, UInt8.toNat_toUInt32, shifted,
    shiftLeft_or _ radioPort.toNat_lt]

/-- A byte that a shift and a mask cut out. -/
theorem toUInt8_shiftRight_and (value shift : UInt32) (small : shift.toNat < 32) :
    ((value >>> shift) &&& 0xff).toUInt8 = UInt8.ofNat (value.toNat / 2 ^ shift.toNat) := by
  apply UInt8.toNat_inj.mp
  rw [UInt32.toNat_toUInt8, UInt32.toNat_and, UInt32.toNat_shiftRight, Nat.mod_eq_of_lt small,
    Nat.shiftRight_eq_div_pow, UInt8.toNat_ofNat']
  change (value.toNat / 2 ^ shift.toNat &&& 2 ^ 8 - 1) % 2 ^ 8 = _
  rw [Nat.and_two_pow_sub_one_eq_mod, Nat.mod_mod]

theorem channelIdBytes_eq (channelId : UInt32) :
    channelIdBytes channelId = be32 channelId.toNat := by
  have low : (channelId &&& 0xff).toUInt8 = UInt8.ofNat channelId.toNat := by
    have unshifted := toUInt8_shiftRight_and channelId 0 (by decide)
    rwa [UInt32.shiftRight_zero, UInt32.toNat_zero, Nat.pow_zero, Nat.div_one] at unshifted
  rw [channelIdBytes, toUInt8_shiftRight_and channelId 24 (by decide),
    toUInt8_shiftRight_and channelId 16 (by decide), toUInt8_shiftRight_and channelId 8 (by decide),
    low, be32, be16, be16, Nat.div_div_eq_div_mul]
  rfl

theorem beNat_channelIdBytes (linkId : UInt32) (radioPort : Byte) :
    beNat (channelIdBytes (channelId linkId radioPort)) =
      linkId.toNat % 2 ^ 24 * 2 ^ 8 + radioPort.toNat := by
  rw [channelIdBytes_eq, beNat_be32 (UInt32.toNat_lt _), toNat_channelId]

/-! ## The frame -/

/-- The frame in one piece. -/
theorem uplinkFrame_eq (linkId : UInt32) (radioPort : Byte) (data : List Byte) :
    uplinkFrame linkId radioPort data =
      [0x08, 0x01, 0, 0, 0xff, 0xff, 0xff, 0xff, 0xff, 0xff, 0x57, 0x42] ++
        channelIdBytes (channelId linkId radioPort) ++ [0x57, 0x42] ++
        channelIdBytes (channelId linkId radioPort) ++ [0, 0] ++ data := rfl

variable {linkId : UInt32} {radioPort : Byte} {data fcs : List Byte}

theorem length_uplinkFrame : (uplinkFrame linkId radioPort data).length = data.length + 24 := by
  rw [uplinkFrame_eq, List.length_append]
  exact Nat.add_comm _ _

/-- The frame, with an FCS, belongs to the link of the low 24 bits. -/
theorem belongs_uplinkFrame (size : fcs.length = 4) (linkId' : UInt32) (port : Byte) :
    Belongs linkId' port (uplinkFrame linkId radioPort data ++ fcs) ↔
      linkId.toNat % 2 ^ 24 = linkId'.toNat ∧ radioPort = port := by
  have channels : channelBytes (uplinkFrame linkId radioPort data ++ fcs) =
      channelIdBytes (channelId linkId radioPort) := rfl
  have portLt := radioPort.toNat_lt
  constructor
  · intro belongs
    have link := belongs.link
    have port' := belongs.port
    rw [channels, beNat_channelIdBytes] at link port'
    exact ⟨by omega, UInt8.toNat_inj.mp (by omega)⟩
  · rintro ⟨link, rfl⟩
    refine ⟨?_, rfl, rfl, rfl, rfl, ?_, ?_⟩
    · rw [List.length_append, length_uplinkFrame, size]
      omega
    · rw [channels, beNat_channelIdBytes]
      omega
    · rw [channels, beNat_channelIdBytes]
      omega

theorem stripped_uplinkFrame (size : fcs.length = 4) :
    stripped (uplinkFrame linkId radioPort data ++ fcs) = data := by
  rw [stripped, List.length_append, size, Nat.add_sub_cancel, List.take_left]
  rfl

/-! ## The round trip -/

variable {σ R : Type} [Neg R] [OfScientific R] (aggregator : Aggregator σ)

/-- A frame of a link and a port is received on that port with its payload if the receiver is that
link's, and is not the receiver's otherwise. -/
structure Carried (linkId : UInt32) (port : Byte) (payload : List Byte) (receiver : WfbReceiver σ)
    (heard : Heard) : Prop where
  ours : linkId = receiver.radio.linkId →
    receiver.classifyFrame heard.1 = port.toNat ∧
      ((receiver.processFrame aggregator heard.1 heard.2).2.filterMap
        (Obs.handedTo port)).map RxPacket.payload = [payload]
  foreign : linkId ≠ receiver.radio.linkId → receiver.classifyFrame heard.1 = -1

/-- A receiver whose link id has the low 24 bits takes the frame. -/
theorem received (data : List Byte) {receiver : WfbReceiver σ} {sink : Sink σ}
    (registered : receiver.sinks radioPort = some sink) (size : fcs.length = 4)
    (same : linkId.toNat % 2 ^ 24 = receiver.radio.linkId.toNat) (frameMeta : FrameMeta) :
    receiver.classifyFrame (uplinkFrame linkId radioPort data ++ fcs) = radioPort.toNat ∧
      ((receiver.processFrame aggregator (uplinkFrame linkId radioPort data ++ fcs)
        frameMeta).2.filterMap (Obs.handedTo radioPort)).map RxPacket.payload = [data] := by
  have belongs : Belongs receiver.radio.linkId radioPort
      (uplinkFrame linkId radioPort data ++ fcs) :=
    (belongs_uplinkFrame size _ _).mpr ⟨same, rfl⟩
  refine ⟨receiver.classifyFrame_of_belongs belongs, ?_⟩
  have step := frameStep_processFrame aggregator receiver
    (uplinkFrame linkId radioPort data ++ fcs, frameMeta)
  have handed := step.handed radioPort
  rw [if_pos ⟨belongs, by rw [registered]; rfl⟩] at handed
  rw [handed, List.map_singleton, payload_rxPacket, stripped_uplinkFrame size]

/-- Every other receiver does not. -/
theorem not_received (radioPort : Byte) (data : List Byte) {receiver : WfbReceiver σ}
    (size : fcs.length = 4)
    (other : linkId.toNat % 2 ^ 24 ≠ receiver.radio.linkId.toNat) :
    receiver.classifyFrame (uplinkFrame linkId radioPort data ++ fcs) = -1 := by
  apply receiver.classifyFrame_of_foreign
  intro port belongs
  exact other ((belongs_uplinkFrame size _ _).mp belongs).1

theorem carried_uplinkFrame_iff {receiver : WfbReceiver σ} {sink : Sink σ}
    (registered : receiver.sinks radioPort = some sink) (size : fcs.length = 4)
    (frameMeta : FrameMeta) :
    Carried aggregator linkId radioPort data receiver
        (uplinkFrame linkId radioPort data ++ fcs, frameMeta) ↔
      (linkId.toNat % 2 ^ 24 = receiver.radio.linkId.toNat ↔ linkId = receiver.radio.linkId) := by
  by_cases same : linkId.toNat % 2 ^ 24 = receiver.radio.linkId.toNat
  · have taken := received aggregator data registered size same frameMeta
    constructor
    · intro carried
      refine ⟨fun _ => ?_, fun _ => same⟩
      by_contra different
      have refused := carried.foreign different
      rw [taken.1] at refused
      omega
    · rintro agrees
      exact ⟨fun _ => taken, fun different => absurd (agrees.mp same) different⟩
  · have refused := not_received radioPort data size same
    constructor
    · intro carried
      refine ⟨fun low => absurd low same, fun equal => ?_⟩
      have taken := (carried.ours equal).1
      rw [refused] at taken
      omega
    · rintro agrees
      exact ⟨fun equal => absurd (agrees.mpr equal) same, fun _ => refused⟩

/-- **The uplink frame on the receive side.** Whatever is sent on a port, with any FCS, a receiver
with a sink on that port receives it on the link it was sent on and on no other, if and only if the
low 24 bits of the sender's link id are the receiver's link id exactly when the two link ids are
equal. -/
theorem carried_iff (station : GroundStation σ R) (opened : station.source.isSome = true)
    (devourer : station.config.source = .devourer) (port : Byte) (payload : List Byte) :
    ∃ frame, station.sendUplink port payload = [.transmitted frame] ∧
      ∀ (fcs : List Byte) (frameMeta : FrameMeta) (receiver : WfbReceiver σ) (sink : Sink σ),
        fcs.length = 4 → receiver.sinks port = some sink →
          (Carried aggregator station.config.radio.linkId port payload receiver
              (frame ++ fcs, frameMeta) ↔
            (station.config.radio.linkId.toNat % 2 ^ 24 = receiver.radio.linkId.toNat ↔
              station.config.radio.linkId = receiver.radio.linkId)) := by
  refine ⟨uplinkFrame station.config.radio.linkId port payload, ?_, ?_⟩
  · rw [GroundStation.sendUplink, if_neg]
    rintro (closed | other)
    · rw [Option.isNone_iff_eq_none.mp closed] at opened
      cases opened
    · exact other devourer
  · intro fcs frameMeta receiver sink size registered
    exact carried_uplinkFrame_iff aggregator registered size frameMeta

/-- A station whose adapter is open. -/
def openStation (linkId : UInt32) : GroundStation Counters Float where
  config := { radio := { linkId } }
  source := some .devourer

/-- A receiver of a link with its video stream alone. -/
def linkReceiver (linkId : UInt32) : WfbReceiver Counters :=
  { videoReceiver with radio := { linkId } }

/-- On the default link the frame is received. -/
theorem carried_iff_default :
    ∃ frame, (openStation 7669206).sendUplink portVideo [1, 2, 3] = [.transmitted frame] ∧
      Carried plainAggregator 7669206 portVideo [1, 2, 3] (linkReceiver 7669206)
        (frame ++ [0, 0, 0, 0], {}) := by
  obtain ⟨frame, sent, carried⟩ :=
    carried_iff plainAggregator (openStation 7669206) rfl rfl portVideo [1, 2, 3]
  exact ⟨frame, sent, (carried [0, 0, 0, 0] {} (linkReceiver 7669206) _ rfl rfl).mpr (by decide)⟩

/-- A link id of 25 bits: the link does not receive its own frame. -/
theorem not_carried_wide :
    ∃ frame, (openStation 0x1000000).sendUplink portVideo [1, 2, 3] = [.transmitted frame] ∧
      ¬ Carried plainAggregator 0x1000000 portVideo [1, 2, 3] (linkReceiver 0x1000000)
        (frame ++ [0, 0, 0, 0], {}) := by
  refine ⟨uplinkFrame 0x1000000 portVideo [1, 2, 3], rfl, fun carried => ?_⟩
  have agrees := (carried_uplinkFrame_iff plainAggregator
    (show (linkReceiver 0x1000000).sinks portVideo = some { aggregator := {}, callback := true }
      from rfl) rfl {}).mp carried
  exact absurd (agrees.mpr rfl) (by decide)

end Link

end MobileGs
