import Mathlib.Logic.Function.Basic
import MobileGs.Foundations.BigEndian
import MobileGs.Foundations.Mealy

/-!
# The wfb-ng receive path

`WfbReceiver` is given every raw 802.11 frame the adapter hears. `ClassifyFrame` tells by the
addresses to which radio port a frame belongs, and `ProcessFrame` hands its payload to the sink
of that port. `TakeSnapshot` reads the counters and the signal accumulators and resets them.
The calls take the receiver's mutex, so a run is a list of calls.

A sink is wfb-ng's `Aggregator` with a callback for its output. That class decrypts and
reassembles, and it is not part of the repository: its objects are of an arbitrary type `σ`, and
`Aggregator` holds what the receiver uses of them. Its counters are natural numbers.
-/

set_option autoImplicit false

namespace MobileGs

namespace Wfb

/-! ## Channels -/

def portVideo : Byte := 0x00
def portMavlinkRx : Byte := 0x10
def portTunnelRx : Byte := 0x20
def portMavlinkTx : Byte := 0x90
def portTunnelTx : Byte := 0xa0

/-- `ChannelId`. -/
def channelId (linkId : UInt32) (radioPort : Byte) : UInt32 :=
  (linkId <<< 8) ||| radioPort.toUInt32

/-- `RadioConfig`, as far as the receiver and the uplink read it. -/
structure RadioConfig where
  linkId : UInt32 := 7669206
  keyPath : String := ""
  deriving DecidableEq, Repr

/-! ## Signal and snapshots -/

/-- `FrameMeta`. -/
structure FrameMeta where
  rssi : Fin 4 → Int8 := fun _ => 0
  snr : Fin 4 → Int8 := fun _ => 0
  paths : ℤ := 0
  freqMhz : UInt16 := 0
  mcsIndex : Byte := 0
  bandwidth : Byte := 0
  wlanIdx : Byte := 0

/-- `AntennaStat`. -/
structure AntennaStat where
  antennaId : Int32 := 0
  count : Int32 := 0
  rssiMin : Int8 := 0
  rssiAvg : Int8 := 0
  rssiMax : Int8 := 0
  snrMin : Int8 := 0
  snrAvg : Int8 := 0
  snrMax : Int8 := 0
  deriving DecidableEq

/-- `LinkSnapshot`. -/
structure LinkSnapshot where
  packetsAll : ℕ := 0
  packetsData : ℕ := 0
  packetsSession : ℕ := 0
  packetsLost : ℕ := 0
  packetsFecRecovered : ℕ := 0
  packetsBad : ℕ := 0
  packetsDecryptErr : ℕ := 0
  bytesAll : ℕ := 0
  fecK : Int32 := -1
  fecN : Int32 := -1
  antennas : List AntennaStat := []
  bestRssi : Int32 := -105
  bestSnr : Int32 := 0
  numAntennas : Int32 := 0
  sessionEstablished : Bool := false
  timestampMs : UInt64 := 0
  deriving DecidableEq

/-- `WfbReceiver::PathAccumulator`. -/
structure PathAccumulator where
  count : Int32 := 0
  rssiSum : Int32 := 0
  snrSum : Int32 := 0
  rssiMin : Int8 := 0
  rssiMax : Int8 := 0
  snrMin : Int8 := 0
  snrMax : Int8 := 0
  deriving DecidableEq

/-- The body of the loop of `AccumulateSignal`. -/
def PathAccumulator.add (acc : PathAccumulator) (rssi snr : Int8) : PathAccumulator where
  count := acc.count + 1
  rssiSum := acc.rssiSum + rssi.toInt32
  snrSum := acc.snrSum + snr.toInt32
  rssiMin := if acc.count = 0 then rssi else min acc.rssiMin rssi
  rssiMax := if acc.count = 0 then rssi else max acc.rssiMax rssi
  snrMin := if acc.count = 0 then snr else min acc.snrMin snr
  snrMax := if acc.count = 0 then snr else max acc.snrMax snr

/-- The entry of a path in a snapshot. -/
def PathAccumulator.stat (acc : PathAccumulator) (active : Int32) : AntennaStat where
  antennaId := active
  count := acc.count
  rssiMin := acc.rssiMin
  rssiMax := acc.rssiMax
  rssiAvg := (acc.rssiSum / acc.count).toInt8
  snrMin := acc.snrMin
  snrMax := acc.snrMax
  snrAvg := (acc.snrSum / acc.count).toInt8

/-- The body of the loop of `TakeSnapshot`. The number of antennas is `active`. -/
def LinkSnapshot.collect (snapshot : LinkSnapshot) (acc : PathAccumulator) : LinkSnapshot :=
  if acc.count = 0 then snapshot
  else
    let stat := acc.stat snapshot.numAntennas
    { snapshot with
      antennas := snapshot.antennas ++ [stat]
      bestRssi := max snapshot.bestRssi stat.rssiAvg.toInt32
      bestSnr := max snapshot.bestSnr stat.snrAvg.toInt32
      numAntennas := snapshot.numAntennas + 1 }

/-! ## wfb-ng -/

/-- The arguments of `Aggregator::process_packet`. -/
structure RxPacket where
  payload : List Byte
  wlanIdx : Byte
  antenna : List Byte
  rssi : List Int8
  noise : List Int8
  freqMhz : UInt16
  mcsIndex : Byte
  bandwidth : Byte
  deriving DecidableEq

/-- The counters of an `Aggregator` that a snapshot copies. -/
structure Counters where
  countPAll : ℕ := 0
  countBAll : ℕ := 0
  countPData : ℕ := 0
  countPSession : ℕ := 0
  countPLost : ℕ := 0
  countPFecRecovered : ℕ := 0
  countPBad : ℕ := 0
  countPDecErr : ℕ := 0
  deriving DecidableEq

/-- What the receiver uses of wfb-ng's `Aggregator`. -/
structure Aggregator (σ : Type) where
  /-- The constructor. It is given the contents of the key file, if that can be read, the epoch
  and the channel id, and may throw. -/
  create : Option (List Byte) → UInt64 → UInt32 → Except String σ
  /-- `process_packet`, with the payloads it passes to `send_to_socket`. -/
  processPacket : σ → RxPacket → σ × List (List Byte)
  counters : σ → Counters
  clearStats : σ → σ
  /-- `RX_ANT_MAX`. -/
  rxAntMax : ℕ
  rxAntMax_le : rxAntMax ≤ 4

variable {σ : Type} (aggregator : Aggregator σ)

/-- `WfbReceiver::Sink`. `callback` says whether `callback_` is set. -/
structure Sink (σ : Type) where
  aggregator : σ
  callback : Bool
  sessionSeen : Bool := false

/-- `Sink::session_established`. -/
def Sink.sessionEstablished (sink : Sink σ) : Bool :=
  decide ((aggregator.counters sink.aggregator).countPSession > 0) || sink.sessionSeen

/-- `process_packet` of a sink: its `send_to_socket` notes each payload and passes it to the
callback. -/
def Sink.processPacket (sink : Sink σ) (packet : RxPacket) : Sink σ × List (List Byte) :=
  let processed := aggregator.processPacket sink.aggregator packet
  ({ sink with
      aggregator := processed.1
      sessionSeen := sink.sessionSeen || !processed.2.isEmpty },
    if sink.callback then processed.2 else [])

/-! ## The receiver -/

/-- `WfbReceiver`. -/
structure WfbReceiver (σ : Type) where
  radio : RadioConfig
  sinks : Byte → Option (Sink σ) := fun _ => none
  primaryPort : Byte := portVideo
  paths : Fin 4 → PathAccumulator := fun _ => {}

inductive Event where
  | frame (data : List Byte) (frameMeta : FrameMeta)
  | snapshot (nowMs : UInt64)

/-- What a run does: a packet is handed to the sink of a port, a payload to its callback, a
snapshot to the caller. -/
inductive Obs where
  | handed (port : Byte) (packet : RxPacket)
  | payload (port : Byte) (data : List Byte)
  | snapshot (snapshot : LinkSnapshot)
  deriving DecidableEq

def ieee80211HeaderSize : ℕ := 24
def fcsSize : ℕ := 4
def wfbMacByte0 : Byte := 0x57
def wfbMacByte1 : Byte := 0x42
def srcMacOffset : ℕ := 10
def dstMacOffset : ℕ := 16

namespace WfbReceiver

/-- `AddStream`. The constructor reads the key file, and a second stream on a port replaces the
first. -/
def addStream (receiver : WfbReceiver σ) (radioPort : Byte) (callback : Bool)
    (keyFile : Option (List Byte)) : Except String (WfbReceiver σ) :=
  match aggregator.create keyFile 0 (channelId receiver.radio.linkId radioPort) with
  | .ok created =>
      .ok
        { receiver with
          sinks := Function.update receiver.sinks radioPort
            (some { aggregator := created, callback }) }
  | .error text => .error text

variable {aggregator} in
/-- `AddStream` succeeds when the constructor does, and registers the sink. -/
theorem addStream_eq_ok_iff {receiver added : WfbReceiver σ} {radioPort : Byte} {callback : Bool}
    {keyFile : Option (List Byte)} :
    receiver.addStream aggregator radioPort callback keyFile = .ok added ↔
      ∃ created,
        aggregator.create keyFile 0 (channelId receiver.radio.linkId radioPort) = .ok created ∧
          { receiver with
            sinks := Function.update receiver.sinks radioPort
              (some { aggregator := created, callback }) } = added := by
  unfold addStream
  constructor
  · intro addedOk
    split at addedOk
    · rename_i created createdOk
      exact ⟨created, createdOk, Except.ok.inj addedOk⟩
    · cases addedOk
  · rintro ⟨created, createdOk, rfl⟩
    rw [createdOk]

/-- The four bytes behind the marker of an address, put together. -/
def macChannelId (frame : List Byte) (offset : ℕ) : UInt32 :=
  ((frame.getD (offset + 2) 0).toUInt32 <<< 24) |||
    ((frame.getD (offset + 3) 0).toUInt32 <<< 16) |||
    ((frame.getD (offset + 4) 0).toUInt32 <<< 8) |||
    (frame.getD (offset + 5) 0).toUInt32

/-- `ClassifyFrame`. -/
def classifyFrame (receiver : WfbReceiver σ) (frame : List Byte) : ℤ :=
  if frame.length < ieee80211HeaderSize + fcsSize then -1
  else if frame.getD 0 0 ≠ 0x08 ∨ frame.getD 1 0 ≠ 0x01 then -1
  else if frame.getD srcMacOffset 0 ≠ wfbMacByte0 ∨ frame.getD (srcMacOffset + 1) 0 ≠ wfbMacByte1 ∨
      frame.getD dstMacOffset 0 ≠ wfbMacByte0 ∨ frame.getD (dstMacOffset + 1) 0 ≠ wfbMacByte1 then
    -1
  else if (frame.drop (srcMacOffset + 2)).take 4 ≠ (frame.drop (dstMacOffset + 2)).take 4 then -1
  else
    let channelId := macChannelId frame srcMacOffset
    if channelId >>> 8 ≠ receiver.radio.linkId then -1
    else (channelId &&& 0xff).toNat

/-- `AccumulateSignal`. -/
def accumulateSignal (receiver : WfbReceiver σ) (frameMeta : FrameMeta) : WfbReceiver σ :=
  { receiver with
    paths := fun i =>
      if (i.val : ℤ) < min frameMeta.paths 4 then
        (receiver.paths i).add (frameMeta.rssi i) (frameMeta.snr i)
      else receiver.paths i }

/-- `ResetSignal`. -/
def resetSignal (receiver : WfbReceiver σ) : WfbReceiver σ :=
  { receiver with paths := fun _ => {} }

/-- The noise floor handed to the aggregator, which takes the difference again. -/
def syntheticNoise (rssi snr : Int8) : Int8 := (rssi.toInt32 - snr.toInt32).toInt8

/-- What `ProcessFrame` hands to the aggregator: the frame without the 802.11 header and the FCS,
and the signal of each path. -/
def rxPacket (frame : List Byte) (frameMeta : FrameMeta) : RxPacket :=
  let paths := max 1 (min frameMeta.paths aggregator.rxAntMax)
  let slots := List.finRange aggregator.rxAntMax
  let path := Fin.castLE aggregator.rxAntMax_le
  { payload :=
      (frame.drop ieee80211HeaderSize).take (frame.length - ieee80211HeaderSize - fcsSize)
    wlanIdx := frameMeta.wlanIdx
    antenna := slots.map fun i => if (i.val : ℤ) < paths then UInt8.ofNat i.val else 0xff
    rssi := slots.map fun i => if (i.val : ℤ) < paths then frameMeta.rssi (path i) else 0
    noise := slots.map fun i =>
      if (i.val : ℤ) < paths then syntheticNoise (frameMeta.rssi (path i)) (frameMeta.snr (path i))
      else 127
    freqMhz := frameMeta.freqMhz
    mcsIndex := frameMeta.mcsIndex
    bandwidth := frameMeta.bandwidth }

/-- `ProcessFrame`. -/
def processFrame (receiver : WfbReceiver σ) (frame : List Byte) (frameMeta : FrameMeta) :
    WfbReceiver σ × List Obs :=
  let radioPort := receiver.classifyFrame frame
  if radioPort < 0 then (receiver, [])
  else
    let port := UInt8.ofNat radioPort.toNat
    match receiver.sinks port with
    | none => (receiver, [])
    | some sink =>
        let counted :=
          if port = receiver.primaryPort then receiver.accumulateSignal frameMeta else receiver
        let packet := rxPacket aggregator frame frameMeta
        let processed := sink.processPacket aggregator packet
        ({ counted with sinks := Function.update receiver.sinks port (some processed.1) },
          .handed port packet :: processed.2.map (.payload port))

/-- The part of a snapshot that comes from the primary sink. -/
def countersSnapshot (receiver : WfbReceiver σ) (nowMs : UInt64) : LinkSnapshot :=
  match receiver.sinks receiver.primaryPort with
  | none => { timestampMs := nowMs }
  | some sink =>
      let counters := aggregator.counters sink.aggregator
      { timestampMs := nowMs
        packetsAll := counters.countPAll
        bytesAll := counters.countBAll
        packetsData := counters.countPData
        packetsSession := counters.countPSession
        packetsLost := counters.countPLost
        packetsFecRecovered := counters.countPFecRecovered
        packetsBad := counters.countPBad
        packetsDecryptErr := counters.countPDecErr
        sessionEstablished := sink.sessionEstablished aggregator }

/-- `clear_stats` of the primary sink. -/
def clearStats (receiver : WfbReceiver σ) : WfbReceiver σ :=
  { receiver with
    sinks := Function.update receiver.sinks receiver.primaryPort
      ((receiver.sinks receiver.primaryPort).map fun sink =>
        { sink with aggregator := aggregator.clearStats sink.aggregator }) }

/-- `TakeSnapshot`. -/
def takeSnapshot (receiver : WfbReceiver σ) (nowMs : UInt64) : WfbReceiver σ × LinkSnapshot :=
  ((receiver.clearStats aggregator).resetSignal,
    ((List.finRange 4).map receiver.paths).foldl LinkSnapshot.collect
      (receiver.countersSnapshot aggregator nowMs))

/-- `session_established`. -/
def sessionEstablished (receiver : WfbReceiver σ) : Bool :=
  (receiver.sinks receiver.primaryPort).any (Sink.sessionEstablished aggregator)

end WfbReceiver

/-- The receiver as a machine. -/
def machine : Mealy (WfbReceiver σ) Event Obs where
  step receiver
    | .frame data frameMeta => receiver.processFrame aggregator data frameMeta
    | .snapshot nowMs =>
        let taken := receiver.takeSnapshot aggregator nowMs
        (taken.1, [.snapshot taken.2])

/-! ## Samples -/

/-- An aggregator without encryption: a packet is a session packet if its first byte is 2, and a
payload otherwise. -/
def plainAggregator : Aggregator Counters where
  create _ _ _ := .ok {}
  processPacket counters packet :=
    if packet.payload.head? = some 2 then
      ({ counters with
          countPAll := counters.countPAll + 1
          countPSession := counters.countPSession + 1 }, [])
    else
      ({ counters with
          countPAll := counters.countPAll + 1
          countPData := counters.countPData + 1 }, [packet.payload])
  counters := id
  clearStats _ := {}
  rxAntMax := 4
  rxAntMax_le := Nat.le_refl 4

/-- A video frame of the default link. -/
def sampleFrame (payload : List Byte) : List Byte :=
  [0x08, 0x01, 0, 0, 0xff, 0xff, 0xff, 0xff, 0xff, 0xff, 0x57, 0x42, 0x75, 0x05, 0xd6, 0,
    0x57, 0x42, 0x75, 0x05, 0xd6, 0, 0, 0] ++ payload ++ [0, 0, 0, 0]

end Wfb

end MobileGs
