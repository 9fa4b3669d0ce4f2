import MobileGs.Alink.Controller

/-!
# The ground station's link

`GroundStation` owns the packet source, the receiver, the adaptive-link controller and the router,
and brings them up and down. While it runs, its statistics thread takes a snapshot of the receiver
every 100 ms, and from time to time has the controller turn one into a message for the uplink.

The calls, the frames the source delivers and the rounds of the statistics thread come in any order,
each as a whole. What the system answers to them is part of the events. The packet source is known
by the kind it was made of, and the router by whether it runs.
-/

set_option autoImplicit false

namespace MobileGs

namespace Link

open Alink Wfb

/-! ## Configuration -/

inductive SourceKind where
  | devourer
  | udp
  | pcapFile
  deriving DecidableEq, Repr

/-- `GsConfig`, without what only the packet sources read. -/
structure GsConfig (R : Type) [Neg R] [OfScientific R] where
  source : SourceKind := .devourer
  radio : RadioConfig := {}
  alink : AlinkConfig R := {}
  videoMirrorHost : String := ""
  videoMirrorPort : Int32 := 0

/-! ## The uplink frame -/

/-- `kIeee80211Header`. -/
def ieee80211Header : List Byte :=
  [0x08, 0x01, 0x00, 0x00,
    0xff, 0xff, 0xff, 0xff, 0xff, 0xff,
    0x57, 0x42, 0xaa, 0xbb, 0xcc, 0xdd,
    0x57, 0x42, 0xaa, 0xbb, 0xcc, 0xdd,
    0x00, 0x00]

/-- `memcpy` into a buffer. -/
def copyAt (buffer : List Byte) (offset : ℕ) (bytes : List Byte) : List Byte :=
  buffer.take offset ++ bytes ++ buffer.drop (offset + bytes.length)

/-- The bytes of a channel id, most significant first. -/
def channelIdBytes (channelId : UInt32) : List Byte :=
  [((channelId >>> 24) &&& 0xff).toUInt8, ((channelId >>> 16) &&& 0xff).toUInt8,
    ((channelId >>> 8) &&& 0xff).toUInt8, (channelId &&& 0xff).toUInt8]

/-- The frame `SendUplink` builds. -/
def uplinkFrame (linkId : UInt32) (radioPort : Byte) (data : List Byte) : List Byte :=
  let channelBytes := channelIdBytes (channelId linkId radioPort)
  copyAt (copyAt ieee80211Header 12 channelBytes) 18 channelBytes ++ data

/-! ## The station -/

/-- `GroundStation`. The last two fields are the local variable of `StatsLoop` and what
`link_stats` returns. -/
structure GroundStation (σ R : Type) [Neg R] [OfScientific R] where
  config : GsConfig R := {}
  statusCallback : Bool := false
  source : Option SourceKind := none
  receiver : Option (WfbReceiver σ) := none
  router : Bool := false
  alink : Option (AlinkController R) := none
  mirrorFd : Option ℕ := none
  running : Bool := false
  lastError : String := ""
  nextAlinkMs : UInt64 := 0
  stats : LinkSnapshot := {}

/-- What a run does. -/
inductive Obs (R : Type) where
  | started (ok : Bool)
  | status (text : String)
  | mirrorOpened (fd : ℕ)
  | mirrorClosed (fd : ℕ)
  | wfb (obs : Wfb.Obs)
  | stats (snapshot : LinkSnapshot)
  | updated (snapshot : LinkSnapshot) (result : AlinkResult R)
  | transmitted (frame : List Byte)

/-- What a `Start` has besides its configuration: whether the status callback is set, and the
answers of the system. These are the socket of the mirror and whether it can be connected, the
contents of the key file at each registration, the error of the source's start, and the clock when
the statistics thread begins. -/
structure StartAnswers where
  statusCallback : Bool := true
  mirrorSocket : Option ℕ := none
  mirrorConnects : Bool := false
  keyFile : Byte → Option (List Byte) := fun _ => none
  sourceError : Option String := none
  startedMs : UInt64 := 0

/-- What a round of `StatsLoop` reads: the clock, twice, and the code the generator has next. -/
structure Tick where
  snapshotMs : UInt64
  nowMs : UInt64
  drawn : IdrCode

inductive Event (R : Type) [Neg R] [OfScientific R] where
  | start (config : GsConfig R) (answers : StartAnswers)
  | stop
  | setAlinkConfig (config : AlinkConfig R)
  | frame (data : List Byte) (frameMeta : FrameMeta)
  | tick (tick : Tick)
  | uplink (data : List Byte)

variable {σ R : Type} [Neg R] [OfScientific R] (aggregator : Aggregator σ)

namespace GroundStation

/-- `SendUplink`. -/
def sendUplink (station : GroundStation σ R) (radioPort : Byte) (data : List Byte) :
    List (Obs R) :=
  if station.source.isNone ∨ station.config.source ≠ .devourer then []
  else [.transmitted (uplinkFrame station.config.radio.linkId radioPort data)]

/-- `SetError`. -/
def setError (station : GroundStation σ R) (message : String) :
    GroundStation σ R × List (Obs R) :=
  ({ station with lastError := message },
    if station.statusCallback then [.status message] else [])

/-- The part of `Start` that opens the mirror. -/
def openMirror (station : GroundStation σ R) (answers : StartAnswers) :
    GroundStation σ R × List (Obs R) :=
  if station.config.videoMirrorHost ≠ "" ∧ station.config.videoMirrorPort > 0 then
    match answers.mirrorSocket with
    | none => ({ station with mirrorFd := none }, [])
    | some fd =>
        if answers.mirrorConnects then ({ station with mirrorFd := some fd }, [.mirrorOpened fd])
        else ({ station with mirrorFd := none }, [.mirrorOpened fd, .mirrorClosed fd])
  else (station, [])

/-- The receiver `Start` makes, with its three streams. -/
def makeReceiver (radio : RadioConfig) (answers : StartAnswers) :
    Except String (WfbReceiver σ) := do
  let video ← WfbReceiver.addStream aggregator { radio } portVideo true
    (answers.keyFile portVideo)
  let telemetry ← video.addStream aggregator portMavlinkRx true (answers.keyFile portMavlinkRx)
  telemetry.addStream aggregator portTunnelRx true (answers.keyFile portTunnelRx)

/-- The end of a `Start` that fails. -/
def failStart (station : GroundStation σ R) (message : String) :
    GroundStation σ R × List (Obs R) :=
  let failed := station.setError message
  ({ failed.1 with receiver := none, router := false }, failed.2 ++ [.started false])

/-- The end of `Start`, behind the source's making. -/
def startSource (station : GroundStation σ R) (answers : StartAnswers) :
    GroundStation σ R × List (Obs R) :=
  match answers.sourceError with
  | some error => { station with source := none }.failStart error
  | none =>
      ({ station with running := true, nextAlinkMs := answers.startedMs },
        (if station.statusCallback then [.status "ground station running"] else []) ++
          [.started true])

/-- The part of `Start` that makes the source, and for wfb-ng the receiver. -/
def makeSource (station : GroundStation σ R) (answers : StartAnswers) :
    GroundStation σ R × List (Obs R) :=
  if station.config.source = .udp then
    { station with source := some .udp }.startSource answers
  else
    match makeReceiver aggregator station.config.radio answers with
    | .error text => station.failStart ("could not load gs.key: " ++ text)
    | .ok receiver =>
        { station with receiver := some receiver, source := some .devourer }.startSource answers

/-- `Start`. -/
def start (station : GroundStation σ R) (config : GsConfig R) (answers : StartAnswers) :
    GroundStation σ R × List (Obs R) :=
  if station.running then (station, [.started true])
  else
    let mirrored := { station with
      config, statusCallback := answers.statusCallback, router := true }.openMirror answers
    let linked :=
      if config.alink.enabled then
        { mirrored.1 with alink := some (AlinkController.create config.alink) }
      else mirrored.1
    let made := linked.makeSource aggregator answers
    (made.1, mirrored.2 ++ made.2)

/-- `Stop`. -/
def stop (station : GroundStation σ R) : GroundStation σ R × List (Obs R) :=
  if station.running then
    ({ station with
        running := false
        source := none
        router := false
        receiver := none
        alink := none
        mirrorFd := none },
      (station.mirrorFd.map .mirrorClosed).toList)
  else (station, [])

/-- `SetAlinkConfig`. -/
def setAlinkConfig (station : GroundStation σ R) (config : AlinkConfig R) : GroundStation σ R :=
  { station with
    config := { station.config with alink := config }
    alink :=
      if config.enabled = false then none
      else
        match station.alink with
        | some controller => some (controller.setConfig config)
        | none => some (AlinkController.create config) }

/-- The source delivers a frame. -/
def processFrame (station : GroundStation σ R) (data : List Byte) (frameMeta : FrameMeta) :
    GroundStation σ R × List (Obs R) :=
  match station.receiver with
  | some receiver =>
      let processed := receiver.processFrame aggregator data frameMeta
      ({ station with receiver := some processed.1 }, processed.2.map .wfb)
  | none => (station, [])

/-- The part of a round that takes the snapshot. -/
def takeSnapshot (station : GroundStation σ R) (nowMs : UInt64) :
    GroundStation σ R × LinkSnapshot :=
  match station.receiver with
  | some receiver =>
      let taken := receiver.takeSnapshot aggregator nowMs
      ({ station with receiver := some taken.1, stats := taken.2 }, taken.2)
  | none => ({ station with stats := { timestampMs := nowMs } }, { timestampMs := nowMs })

/-- Taking the snapshot moves the receiver, if there is one, and publishes. -/
theorem takeSnapshot_eq (station : GroundStation σ R) (nowMs : UInt64) :
    ∃ receiver, receiver.isSome = station.receiver.isSome ∧
      (station.takeSnapshot aggregator nowMs).1 =
        { station with receiver, stats := (station.takeSnapshot aggregator nowMs).2 } := by
  cases found : station.receiver with
  | none =>
      rw [takeSnapshot, found]
      exact ⟨none, rfl, rfl⟩
  | some receiver =>
      rw [takeSnapshot, found]
      exact ⟨some (receiver.takeSnapshot aggregator nowMs).1, rfl, rfl⟩

variable [Add R] [Sub R] [Mul R] [Div R] [LT R] [DecidableLT R] [LE R] [DecidableLE R] [BEq R]
  [NatCast R] [IntCast R] (libm : Libm R)

/-- The part of a round that has the controller report. -/
def report (station : GroundStation σ R) (snapshot : LinkSnapshot) (tick : Tick) :
    GroundStation σ R × List (Obs R) :=
  match station.alink with
  | some controller =>
      if station.receiver.isSome ∧ tick.nowMs ≥ station.nextAlinkMs then
        let updated := controller.update libm
          { snapshot, unixTimeS := tick.nowMs / 1000, drawn := tick.drawn }
        ({ station with
            alink := some updated.1
            nextAlinkMs := tick.nowMs + station.config.alink.intervalMs.toInt64.toUInt64 },
          .updated snapshot updated.2 ::
            station.sendUplink portTunnelTx (Alink.frame updated.2.message))
      else (station, [])
  | none => (station, [])

/-- A round of `StatsLoop`. -/
def statsRound (station : GroundStation σ R) (tick : Tick) :
    GroundStation σ R × List (Obs R) :=
  if station.running then
    let taken := station.takeSnapshot aggregator tick.snapshotMs
    let reported := taken.1.report libm taken.2 tick
    (reported.1, .stats taken.2 :: reported.2)
  else (station, [])

end GroundStation

variable [Add R] [Sub R] [Mul R] [Div R] [LT R] [DecidableLT R] [LE R] [DecidableLE R] [BEq R]
  [NatCast R] [IntCast R] (libm : Libm R)

/-- The station as a machine. -/
def machine : Mealy (GroundStation σ R) (Event R) (Obs R) where
  step station
    | .start config answers => station.start aggregator config answers
    | .stop => station.stop
    | .setAlinkConfig config => (station.setAlinkConfig config, [])
    | .frame data frameMeta => station.processFrame aggregator data frameMeta
    | .tick tick => station.statsRound aggregator libm tick
    | .uplink data => (station, station.sendUplink portMavlinkTx data)

end Link

end MobileGs
