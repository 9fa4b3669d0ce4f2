import MobileGs.Wfb.Receiver

/-!
# From frames to sinks

`Belongs` says in terms of the bytes of a frame that it is one of a link on a radio port.
`ClassifyFrame` accepts exactly these frames (`classifyFrame_of_belongs`,
`classifyFrame_of_foreign`), so `ProcessFrame` does one of three things
(`processFrame_of_registered`, `processFrame_of_unregistered`, `processFrame_of_foreign`). What a
sink is handed over a run of frames is then its own frames, stripped, and nothing else moves it or
the signal accumulators (`demultiplexes`).
-/

set_option autoImplicit false

namespace MobileGs

namespace Wfb

/-! ## The frame grammar -/

/-- The bytes of the channel id in the transmitter's address. -/
def channelBytes (frame : List Byte) : List Byte := (frame.drop 12).take 4

/-- A frame of a link on a radio port. -/
structure Belongs (linkId : UInt32) (port : Byte) (frame : List Byte) : Prop where
  long : 28 ≤ frame.length
  control : frame.take 2 = [0x08, 0x01]
  source : (frame.drop 10).take 2 = [0x57, 0x42]
  destination : (frame.drop 16).take 2 = [0x57, 0x42]
  channels : beNat (channelBytes frame) = beNat ((frame.drop 18).take 4)
  link : beNat (channelBytes frame) / 2 ^ 8 = linkId.toNat
  port : beNat (channelBytes frame) % 2 ^ 8 = port.toNat

instance (linkId : UInt32) (port : Byte) (frame : List Byte) :
    Decidable (Belongs linkId port frame) :=
  decidable_of_iff
    (28 ≤ frame.length ∧ frame.take 2 = [0x08, 0x01] ∧ (frame.drop 10).take 2 = [0x57, 0x42] ∧
      (frame.drop 16).take 2 = [0x57, 0x42] ∧
      beNat (channelBytes frame) = beNat ((frame.drop 18).take 4) ∧
      beNat (channelBytes frame) / 2 ^ 8 = linkId.toNat ∧
      beNat (channelBytes frame) % 2 ^ 8 = port.toNat)
    ⟨fun ⟨a, b, c, d, e, f, g⟩ => ⟨a, b, c, d, e, f, g⟩,
      fun ⟨a, b, c, d, e, f, g⟩ => ⟨a, b, c, d, e, f, g⟩⟩

/-- A frame belongs to one port at most. -/
theorem Belongs.port_unique {linkId : UInt32} {port port' : Byte} {frame : List Byte}
    (belongs : Belongs linkId port frame) (belongs' : Belongs linkId port' frame) :
    port = port' :=
  UInt8.toNat_inj.mp (belongs.port.symm.trans belongs'.port)

/-- A stretch of a frame, byte by byte. -/
theorem take_drop_eq_map {frame : List Byte} {offset count : ℕ}
    (inside : offset + count ≤ frame.length) :
    (frame.drop offset).take count =
      (List.range count).map fun i => frame.getD (offset + i) 0 := by
  apply List.ext_getElem
  · simp
    omega
  · intro i lt lt'
    have here : offset + i < frame.length := by
      rw [List.length_map, List.length_range] at lt'
      omega
    simp [List.getElem?_eq_getElem here]

theorem take_two_eq_iff {frame : List Byte} {offset : ℕ} (inside : offset + 2 ≤ frame.length)
    (first second : Byte) :
    (frame.drop offset).take 2 = [first, second] ↔
      frame.getD offset 0 = first ∧ frame.getD (offset + 1) 0 = second := by
  rw [take_drop_eq_map inside]
  simp [List.range_succ]

theorem channelBytes_eq {frame : List Byte} (long : 28 ≤ frame.length) :
    channelBytes frame =
      [frame.getD 12 0, frame.getD 13 0, frame.getD 14 0, frame.getD 15 0] :=
  take_drop_eq_map (by omega)

namespace WfbReceiver

theorem toNat_macChannelId {frame : List Byte} (long : 28 ≤ frame.length) :
    (macChannelId frame srcMacOffset).toNat = beNat (channelBytes frame) := by
  rw [channelBytes_eq long, macChannelId, toNat_be32]
  rfl

/-- The tests of the classifier say that a frame belongs to a port. -/
theorem belongs_iff {linkId : UInt32} {port : Byte} {frame : List Byte}
    (long : 28 ≤ frame.length) :
    Belongs linkId port frame ↔
      (frame.getD 0 0 = 0x08 ∧ frame.getD 1 0 = 0x01) ∧
        ((frame.getD srcMacOffset 0 = wfbMacByte0 ∧ frame.getD (srcMacOffset + 1) 0 = wfbMacByte1) ∧
          frame.getD dstMacOffset 0 = wfbMacByte0 ∧
          frame.getD (dstMacOffset + 1) 0 = wfbMacByte1) ∧
        (frame.drop (srcMacOffset + 2)).take 4 = (frame.drop (dstMacOffset + 2)).take 4 ∧
        macChannelId frame srcMacOffset >>> 8 = linkId ∧
        (macChannelId frame srcMacOffset &&& 0xff).toNat = port.toNat := by
  have link : macChannelId frame srcMacOffset >>> 8 = linkId ↔
      beNat (channelBytes frame) / 2 ^ 8 = linkId.toNat := by
    rw [← UInt32.toNat_inj, UInt32.toNat_shiftRight, toNat_macChannelId long,
      ← Nat.shiftRight_eq_div_pow]
    rfl
  have byte : (macChannelId frame srcMacOffset &&& 0xff).toNat =
      beNat (channelBytes frame) % 2 ^ 8 := by
    rw [UInt32.toNat_and, toNat_macChannelId long]
    exact Nat.and_two_pow_sub_one_eq_mod _ 8
  have channels : beNat (channelBytes frame) = beNat ((frame.drop 18).take 4) ↔
      channelBytes frame = (frame.drop 18).take 4 := by
    constructor
    · intro same
      apply beNat_inj _ same
      simp only [channelBytes, List.length_take, List.length_drop]
      omega
    · exact congrArg beNat
  have control := take_two_eq_iff (show 0 + 2 ≤ frame.length by omega) 0x08 0x01
  have source := take_two_eq_iff (show 10 + 2 ≤ frame.length by omega) 0x57 0x42
  have destination := take_two_eq_iff (show 16 + 2 ≤ frame.length by omega) 0x57 0x42
  rw [link, byte]
  constructor
  · rintro ⟨-, control', source', destination', channels', link', port'⟩
    exact ⟨control.mp control', ⟨source.mp source', destination.mp destination'⟩,
      channels.mp channels', link', port'⟩
  · rintro ⟨control', ⟨source', destination'⟩, channels', link', port'⟩
    exact ⟨long, control.mpr control', source.mpr source', destination.mpr destination',
      channels.mpr channels', link', port'⟩

variable {σ : Type} (receiver : WfbReceiver σ)

/-- Frames of the link are classified by their port. -/
theorem classifyFrame_of_belongs {port : Byte} {frame : List Byte}
    (belongs : Belongs receiver.radio.linkId port frame) :
    receiver.classifyFrame frame = port.toNat := by
  have long : ¬ frame.length < ieee80211HeaderSize + fcsSize := Nat.not_lt.mpr belongs.long
  obtain ⟨control, marks, channels, link, byte⟩ := (belongs_iff belongs.long).mp belongs
  rw [classifyFrame, if_neg long, if_neg, if_neg, if_neg (not_not.mpr channels)]
  · dsimp only
    rw [if_neg (not_not.mpr link), byte]
  · rintro (other | other | other | other)
    · exact other marks.1.1
    · exact other marks.1.2
    · exact other marks.2.1
    · exact other marks.2.2
  · rintro (other | other)
    · exact other control.1
    · exact other control.2

/-- Frames of no port are not ours. -/
theorem classifyFrame_of_foreign {frame : List Byte}
    (foreign : ∀ port, ¬ Belongs receiver.radio.linkId port frame) :
    receiver.classifyFrame frame = -1 := by
  unfold classifyFrame
  split
  · rfl
  rename_i long
  split
  · rfl
  rename_i control
  split
  · rfl
  rename_i marks
  split
  · rfl
  rename_i channels
  dsimp only
  split
  · rfl
  rename_i link
  obtain ⟨control0, control1⟩ := not_or.mp control
  obtain ⟨source0, others⟩ := not_or.mp marks
  obtain ⟨source1, others⟩ := not_or.mp others
  obtain ⟨destination0, destination1⟩ := not_or.mp others
  apply absurd _ (foreign (UInt8.ofNat (macChannelId frame srcMacOffset &&& 0xff).toNat))
  rw [belongs_iff (Nat.not_lt.mp long)]
  refine ⟨⟨not_not.mp control0, not_not.mp control1⟩,
    ⟨⟨not_not.mp source0, not_not.mp source1⟩, not_not.mp destination0,
      not_not.mp destination1⟩, not_not.mp channels, not_not.mp link, ?_⟩
  rw [UInt8.toNat_ofNat', UInt32.toNat_and]
  exact (Nat.mod_eq_of_lt (Nat.and_lt_two_pow _ (by decide))).symm

/-- The port comes back out of the classifier's `int`. -/
theorem port_read_back (port : Byte) :
    ¬ ((port.toNat : ℕ) : ℤ) < 0 ∧ UInt8.ofNat ((port.toNat : ℕ) : ℤ).toNat = port := by
  rw [Int.toNat_natCast, UInt8.ofNat_toNat]
  exact ⟨Int.not_lt.mpr (Int.natCast_nonneg _), rfl⟩

variable (aggregator : Aggregator σ)

/-- `ProcessFrame` on a frame of a port with a sink. -/
theorem processFrame_of_registered {port : Byte} {frame : List Byte}
    (belongs : Belongs receiver.radio.linkId port frame) {sink : Sink σ}
    (registered : receiver.sinks port = some sink) (frameMeta : FrameMeta) :
    receiver.processFrame aggregator frame frameMeta =
      ({ (if port = receiver.primaryPort then receiver.accumulateSignal frameMeta
            else receiver) with
          sinks := Function.update receiver.sinks port
            (some (sink.processPacket aggregator (rxPacket aggregator frame frameMeta)).1) },
        .handed port (rxPacket aggregator frame frameMeta) ::
          (sink.processPacket aggregator (rxPacket aggregator frame frameMeta)).2.map
            (.payload port)) := by
  obtain ⟨ours, same⟩ := port_read_back port
  simp only [processFrame, receiver.classifyFrame_of_belongs belongs, if_neg ours, same,
    registered]

/-- `ProcessFrame` on a frame of a port without a sink. -/
theorem processFrame_of_unregistered {port : Byte} {frame : List Byte}
    (belongs : Belongs receiver.radio.linkId port frame)
    (unregistered : receiver.sinks port = none) (frameMeta : FrameMeta) :
    receiver.processFrame aggregator frame frameMeta = (receiver, []) := by
  obtain ⟨ours, same⟩ := port_read_back port
  simp only [processFrame, receiver.classifyFrame_of_belongs belongs, if_neg ours, same,
    unregistered]

/-- `ProcessFrame` on a frame of no port. -/
theorem processFrame_of_foreign {frame : List Byte}
    (foreign : ∀ port, ¬ Belongs receiver.radio.linkId port frame) (frameMeta : FrameMeta) :
    receiver.processFrame aggregator frame frameMeta = (receiver, []) := by
  rw [processFrame, receiver.classifyFrame_of_foreign foreign]
  rfl

end WfbReceiver

open WfbReceiver

/-! ## Runs of frames -/

/-- A frame the adapter heard, and how. -/
abbrev Heard := List Byte × FrameMeta

/-- Bytes 24 to `n - 5` of a frame of `n` bytes. -/
def stripped (frame : List Byte) : List Byte := (frame.take (frame.length - 4)).drop 24

/-- The frames of a port. -/
def ownFrames (linkId : UInt32) (port : Byte) (frames : List Heard) : List Heard :=
  frames.filter fun heard => decide (Belongs linkId port heard.1)

/-- What is handed to the sink of a port. -/
def Obs.handedTo (port : Byte) : Obs → Option RxPacket
  | .handed port' packet => if port' = port then some packet else none
  | _ => none

variable {σ : Type} (aggregator : Aggregator σ)

/-- A sequence of calls of `ProcessFrame`. -/
def processFrames : Mealy (WfbReceiver σ) Heard Obs where
  step receiver heard := receiver.processFrame aggregator heard.1 heard.2

/-- A sink behind a frame of its port. -/
def Sink.process (sink : Sink σ) (heard : Heard) : Sink σ :=
  (sink.processPacket aggregator (rxPacket aggregator heard.1 heard.2)).1

theorem ownFrames_cons (linkId : UInt32) (port : Byte) (heard : Heard) (rest : List Heard) :
    ownFrames linkId port (heard :: rest) =
      if Belongs linkId port heard.1 then heard :: ownFrames linkId port rest
      else ownFrames linkId port rest := by
  rw [ownFrames, List.filter_cons]
  simp only [decide_eq_true_eq]
  rfl

/-- What one frame does: it is handed to the sink of its port, and moves that sink and, if the port
is the primary one, the accumulators. -/
structure FrameStep (receiver : WfbReceiver σ) (heard : Heard)
    (after : WfbReceiver σ × List Obs) : Prop where
  radio : after.1.radio = receiver.radio
  primaryPort : after.1.primaryPort = receiver.primaryPort
  sinks : ∀ port, after.1.sinks port =
    if Belongs receiver.radio.linkId port heard.1 then
      (receiver.sinks port).map fun sink => sink.process aggregator heard
    else receiver.sinks port
  handed : ∀ port, after.2.filterMap (Obs.handedTo port) =
    if Belongs receiver.radio.linkId port heard.1 ∧ (receiver.sinks port).isSome then
      [rxPacket aggregator heard.1 heard.2]
    else []
  paths : after.1.paths =
    if Belongs receiver.radio.linkId receiver.primaryPort heard.1 ∧
        (receiver.sinks receiver.primaryPort).isSome then
      (receiver.accumulateSignal heard.2).paths
    else receiver.paths

theorem filterMap_handedTo_payloads (port port' : Byte) (payloads : List (List Byte)) :
    (payloads.map (Obs.payload port')).filterMap (Obs.handedTo port) = [] := by
  rw [List.filterMap_map]
  exact List.filterMap_eq_nil_iff.mpr fun _ _ => rfl

/-- A frame that no sink takes leaves everything alone. -/
theorem frameStep_idle {receiver : WfbReceiver σ} {heard : Heard}
    (idle : ∀ port, Belongs receiver.radio.linkId port heard.1 → receiver.sinks port = none) :
    FrameStep aggregator receiver heard (receiver, []) where
  radio := rfl
  primaryPort := rfl
  sinks port := by
    split
    · rename_i belongs
      rw [idle port belongs]
      rfl
    · rfl
  handed port := by
    rw [if_neg]
    · rfl
    · rintro ⟨belongs, some⟩
      rw [idle port belongs] at some
      cases some
  paths := by
    rw [if_neg]
    rintro ⟨belongs, some⟩
    rw [idle _ belongs] at some
    cases some

/-- **One call of `ProcessFrame`.** -/
theorem frameStep_processFrame (receiver : WfbReceiver σ) (heard : Heard) :
    FrameStep aggregator receiver heard
      (receiver.processFrame aggregator heard.1 heard.2) := by
  by_cases foreign : ∀ port, ¬ Belongs receiver.radio.linkId port heard.1
  · rw [receiver.processFrame_of_foreign aggregator foreign]
    exact frameStep_idle aggregator fun port belongs => absurd belongs (foreign port)
  obtain ⟨port, notNot⟩ := not_forall.mp foreign
  have belongs := not_not.mp notNot
  cases registered : receiver.sinks port with
  | none =>
      rw [receiver.processFrame_of_unregistered aggregator belongs registered]
      apply frameStep_idle aggregator
      intro port' belongs'
      rwa [belongs'.port_unique belongs]
  | some sink =>
      rw [receiver.processFrame_of_registered aggregator belongs registered]
      constructor
      · dsimp only
        split <;> rfl
      · dsimp only
        split <;> rfl
      · intro port'
        by_cases same : port' = port
        · subst same
          rw [if_pos belongs, registered]
          exact Function.update_self _ _ _
        · have elsewhere : ¬ Belongs receiver.radio.linkId port' heard.1 :=
            fun belongs' => same (belongs'.port_unique belongs)
          rw [if_neg elsewhere]
          exact Function.update_of_ne same _ _
      · intro port'
        rw [List.filterMap_cons, filterMap_handedTo_payloads]
        by_cases same : port' = port
        · subst same
          rw [if_pos ⟨belongs, by rw [registered]; rfl⟩, Obs.handedTo, if_pos rfl]
        · rw [if_neg fun both => same (both.1.port_unique belongs), Obs.handedTo,
            if_neg (Ne.symm same)]
      · dsimp only
        by_cases primary : port = receiver.primaryPort
        · rw [if_pos primary, ← primary, if_pos ⟨belongs, by rw [registered]; rfl⟩]
        · rw [if_neg primary,
            if_neg fun both => primary (belongs.port_unique both.1)]

/-- The accumulators behind the primary frames of a run. -/
def accumulated (receiver : WfbReceiver σ) (own : List Heard) : Fin 4 → PathAccumulator :=
  (own.foldl (fun receiver heard => receiver.accumulateSignal heard.2) receiver).paths

/-- Accumulating looks at nothing but the accumulators. -/
theorem accumulated_congr {receiver receiver' : WfbReceiver σ}
    (same : receiver.paths = receiver'.paths) (own : List Heard) :
    accumulated receiver own = accumulated receiver' own := by
  induction own generalizing receiver receiver' with
  | nil => exact same
  | cons heard rest ih =>
      apply ih
      simp only [accumulateSignal, same]

theorem length_stripped {frame : List Byte} (long : 28 ≤ frame.length) :
    (stripped frame).length + 28 = frame.length := by
  rw [stripped, List.length_drop, List.length_take]
  omega

theorem payload_rxPacket (frame : List Byte) (frameMeta : FrameMeta) :
    (rxPacket aggregator frame frameMeta).payload = stripped frame := by
  have size : frame.length - ieee80211HeaderSize - fcsSize = frame.length - 4 - 24 := by
    rw [ieee80211HeaderSize, fcsSize, Nat.sub_sub, Nat.sub_sub]
  rw [stripped, List.drop_take, ← size]
  rfl

/-- What a sink is handed over a run: its own frames, in order and once each. -/
theorem handed_processFrames (receiver : WfbReceiver σ) (frames : List Heard) (port : Byte) :
    ((processFrames aggregator).outputs receiver frames).filterMap (Obs.handedTo port) =
      if (receiver.sinks port).isSome then
        (ownFrames receiver.radio.linkId port frames).map fun heard =>
          rxPacket aggregator heard.1 heard.2
      else [] := by
  induction frames generalizing receiver with
  | nil => split <;> rfl
  | cons heard rest ih =>
      have step := frameStep_processFrame aggregator receiver heard
      have still : (((processFrames aggregator).step receiver heard).1.sinks port).isSome =
          (receiver.sinks port).isSome := by
        rw [processFrames, step.sinks port]
        split
        · exact Option.isSome_map
        · rfl
      have radio : ((processFrames aggregator).step receiver heard).1.radio = receiver.radio :=
        step.radio
      rw [Mealy.outputs_cons, List.filterMap_append, ih, still, radio, ownFrames_cons]
      have handed := step.handed port
      rw [processFrames, handed]
      by_cases belongs : Belongs receiver.radio.linkId port heard.1
      · by_cases registered : (receiver.sinks port).isSome = true
        · rw [if_pos ⟨belongs, registered⟩, if_pos registered, if_pos registered, if_pos belongs]
          rfl
        · rw [if_neg fun both => registered both.2, if_neg registered, if_neg registered]
          rfl
      · rw [if_neg fun both => belongs both.1, if_neg belongs]
        rfl

/-- What becomes of a sink over a run is what its own frames make of it. -/
theorem sinks_processFrames (receiver : WfbReceiver σ) (frames : List Heard) (port : Byte) :
    ((processFrames aggregator).after receiver frames).sinks port =
      (receiver.sinks port).map fun sink =>
        (ownFrames receiver.radio.linkId port frames).foldl (Sink.process aggregator) sink := by
  induction frames generalizing receiver with
  | nil => exact Option.map_id'.symm
  | cons heard rest ih =>
      have step := frameStep_processFrame aggregator receiver heard
      have radio : ((processFrames aggregator).step receiver heard).1.radio = receiver.radio :=
        step.radio
      rw [Mealy.after_cons, ih, radio, ownFrames_cons, processFrames, step.sinks port]
      split
      · rw [Option.map_map]
        rfl
      · rfl

/-- What becomes of the accumulators over a run is what the frames of the primary port make of
them. -/
theorem paths_processFrames (receiver : WfbReceiver σ) (frames : List Heard) :
    ((processFrames aggregator).after receiver frames).paths =
      if (receiver.sinks receiver.primaryPort).isSome then
        accumulated receiver (ownFrames receiver.radio.linkId receiver.primaryPort frames)
      else receiver.paths := by
  induction frames generalizing receiver with
  | nil => split <;> rfl
  | cons heard rest ih =>
      have step := frameStep_processFrame aggregator receiver heard
      have radio : ((processFrames aggregator).step receiver heard).1.radio = receiver.radio :=
        step.radio
      have primary : ((processFrames aggregator).step receiver heard).1.primaryPort =
          receiver.primaryPort := step.primaryPort
      have paths := step.paths
      have still : (((processFrames aggregator).step receiver heard).1.sinks
          receiver.primaryPort).isSome = (receiver.sinks receiver.primaryPort).isSome := by
        rw [processFrames, step.sinks]
        split
        · exact Option.isSome_map
        · rfl
      rw [Mealy.after_cons, ih, radio, primary, still, ownFrames_cons]
      by_cases registered : (receiver.sinks receiver.primaryPort).isSome = true
      · rw [if_pos registered, if_pos registered]
        by_cases belongs : Belongs receiver.radio.linkId receiver.primaryPort heard.1
        · rw [if_pos ⟨belongs, registered⟩] at paths
          rw [if_pos belongs]
          exact accumulated_congr paths _
        · rw [if_neg fun both => belongs both.1] at paths
          rw [if_neg belongs]
          exact accumulated_congr paths _
      · rw [if_neg registered, if_neg registered]
        rw [if_neg fun both => registered both.2] at paths
        exact paths

/-- **The demultiplexer.** Over any run of frames the sink of a port, if there is one, is handed
bytes 24 to `n - 5` of the frames of its port, in order and once each, and nothing else. No other
frame moves it, and the accumulators are moved by the frames of the primary port, if that has a
sink. -/
theorem demultiplexes (receiver : WfbReceiver σ) (frames : List Heard) (port : Byte) :
    (((processFrames aggregator).outputs receiver frames).filterMap (Obs.handedTo port)).map
          RxPacket.payload =
        (if (receiver.sinks port).isSome then
          (ownFrames receiver.radio.linkId port frames).map fun heard => stripped heard.1
        else []) ∧
      (∀ heard ∈ ownFrames receiver.radio.linkId port frames,
        (stripped heard.1).length + 28 = heard.1.length) ∧
      ((processFrames aggregator).after receiver frames).sinks port =
        ((receiver.sinks port).map fun sink =>
          (ownFrames receiver.radio.linkId port frames).foldl (Sink.process aggregator) sink) ∧
      ((processFrames aggregator).after receiver frames).paths =
        if (receiver.sinks receiver.primaryPort).isSome then
          accumulated receiver (ownFrames receiver.radio.linkId receiver.primaryPort frames)
        else receiver.paths := by
  refine ⟨?_, ?_, sinks_processFrames aggregator receiver frames port,
    paths_processFrames aggregator receiver frames⟩
  · rw [handed_processFrames]
    split
    · rw [List.map_map]
      exact List.map_congr_left fun heard _ => payload_rxPacket aggregator heard.1 heard.2
    · rfl
  · intro heard own
    have belongs := of_decide_eq_true (List.mem_filter.mp own).2
    exact length_stripped belongs.long

end Wfb

end MobileGs
