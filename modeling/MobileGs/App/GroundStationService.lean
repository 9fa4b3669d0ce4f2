import MobileGs.App.NativeGroundStation
import MobileGs.Foundations.Holders

/-!
# The service

`GroundStationService` makes a native session for each start and destroys it with the next stop,
or at once when the start fails. Around it it holds a wake lock, starts the decoder on the surface
that is attached, and records.

What it is for is put in few words: there is a station or there is none, and the one there is works
under the settings given last (`Wanted`). In every run the service is that (`settings_in_force`),
with the endpoints, the codec and the adaptive link of the last settings, the source of its start
and the tuning of its last `setChannel` in its configuration, whatever the source makes of that and
whatever the statistics thread does meanwhile. In every run each session and each wake lock is given
back once and not used behind that (`service_owns`).
-/

set_option autoImplicit false

namespace MobileGs

namespace App

open Handles

/-! ## The service -/

inductive DecoderCall where
  | start (surface : ℕ) (codec : VideoCodec)
  | stop
  deriving DecidableEq, Repr

inductive RecorderCall where
  | start (codec : VideoCodec)
  | stop
  deriving DecidableEq, Repr

/-- What a run does. Settings take effect with a start and with `applySettings`, a tuning with
`setChannel`, and a stop ends them. -/
inductive ServiceObs where
  | native (obs : NativeObs)
  | wakeLock (call : Call ℕ)
  | decoder (call : DecoderCall)
  | recorder (call : RecorderCall)
  | launched (settings : Settings) (keyPath : String)
  | applied (settings : Settings)
  | tuned (channel : Int32) (bandwidth : Bandwidth)
  | stopped
  | startReturned (success : Bool)
  deriving DecidableEq, Repr

/-- `GroundStationService`. Surfaces and wake locks are told apart by numbers, and so are the
pointers that `nativeCreate` returns. -/
structure GroundStationService (σ R : Type) [Neg R] [OfScientific R] where
  station : Option (NativeGroundStation σ R) := none
  wakeLock : Option ℕ := none
  surface : Option ℕ := none
  pendingCodec : VideoCodec := .auto
  status : String := "idle"
  running : Bool := false
  nextPointer : ℕ := 0
  nextLock : ℕ := 0

/-- The calls on the service. `tick` is a round of the statistics thread of its session. -/
inductive ServiceEvent where
  | attachSurface (surface : Option ℕ) (codec : VideoCodec)
  | startGroundStation (settings : Settings) (keyPath : String) (answers : Link.StartAnswers)
  | stopGroundStation
  | setChannel (channel bandwidthMhz : Int32) (tunes : Bool)
  | applySettings (settings : Settings)
  | onStatus (message : String)
  | onDestroy
  | tick (tick : Link.Tick)

namespace GroundStationService

variable {σ R : Type} [Neg R] [OfScientific R] (service : GroundStationService σ R)

def attachSurface (surface : Option ℕ) (codec : VideoCodec) :
    GroundStationService σ R × List ServiceObs :=
  let attached := { service with surface, pendingCodec := codec }
  match surface with
  | some surface =>
      (attached, if service.running then [.decoder (.start surface codec)] else [])
  | none => (attached, [.decoder .stop])

def acquireWakeLock : GroundStationService σ R × List ServiceObs :=
  match service.wakeLock with
  | some _ => (service, [])
  | none =>
      ({ service with wakeLock := some service.nextLock, nextLock := service.nextLock + 1 },
        [.wakeLock (.grant service.nextLock)])

def releaseWakeLock : GroundStationService σ R × List ServiceObs :=
  ({ service with wakeLock := none },
    service.wakeLock.toList.map fun lock => .wakeLock (.close lock))

/-- The end of `startGroundStation` that succeeds. -/
def launch (native : NativeGroundStation σ R) (settings : Settings) (keyPath : String) :
    GroundStationService σ R × List ServiceObs :=
  let runs := { service with station := some native, running := true }
  let locked := runs.acquireWakeLock
  (locked.1,
    .launched settings keyPath :: locked.2 ++
      (service.surface.toList.map fun surface => .decoder (.start surface settings.codec)) ++
      (if settings.recordVideo then [.recorder (.start settings.codec)] else []) ++
      [.startReturned true])

/-- The end of `startGroundStation` that fails. -/
def giveUp (native : NativeGroundStation σ R) : GroundStationService σ R × List ServiceObs :=
  let error := native.lastError
  let closed := native.close
  ({ service with
      station := none
      status := if error.1 = "" then "could not start the ground station" else error.1 },
    (error.2 ++ closed.2).map .native ++ [.startReturned false])

/-- The three setters, as `startGroundStation` and `applySettings` call them. -/
def giveSettings (native : NativeGroundStation σ R) (settings : Settings) :
    NativeGroundStation σ R × List NativeObs :=
  let routed := native.setMavlinkEndpoints (toMavlinkEndpoints settings)
  let linked := routed.1.setAlink (toAlinkConfig settings)
  let coded := linked.1.setVideoCodec settings.codec
  (coded.1, routed.2 ++ linked.2 ++ coded.2)

def startGroundStation (aggregator : Wfb.Aggregator σ) (settings : Settings) (keyPath : String)
    (answers : Link.StartAnswers) : GroundStationService σ R × List ServiceObs :=
  if service.running then (service, [.startReturned true])
  else
    let created : NativeGroundStation σ R × List NativeObs :=
      NativeGroundStation.create service.nextPointer
    let given := giveSettings created.1 settings
    let started := given.1.start aggregator (toGroundStationConfig settings keyPath) answers
    let told := { service with
      nextPointer := service.nextPointer + 1
      status := started.2.2.2.getLast?.getD service.status }
    let finished := if started.2.2.1 then told.launch started.1 settings keyPath
      else told.giveUp started.1
    (finished.1,
      (created.2 ++ given.2 ++ started.2.1).map .native ++ finished.2)

/-- What `stopGroundStation` does to a station. -/
def stopNative (native : NativeGroundStation σ R) : List NativeObs :=
  let stopped := native.stop
  stopped.2 ++ stopped.1.close.2

def stopGroundStation : GroundStationService σ R × List ServiceObs :=
  let calls := service.station.toList.flatMap stopNative
  let halted : GroundStationService σ R := { service with station := none, running := false }
  let released := halted.releaseWakeLock
  ({ released.1 with status := "stopped" },
    [.decoder .stop, .recorder .stop] ++ calls.map .native ++ .stopped :: released.2)

def setChannel (channel bandwidthMhz : Int32) (tunes : Bool) :
    GroundStationService σ R × List ServiceObs :=
  match service.station with
  | none => (service, [])
  | some native =>
      let bandwidth := Bandwidth.ofMhz (some bandwidthMhz)
      let tuned := native.setChannel channel bandwidth tunes
      ({ service with station := some tuned.1 },
        tuned.2.map .native ++ [.tuned channel bandwidth])

def applySettings (settings : Settings) : GroundStationService σ R × List ServiceObs :=
  match service.station with
  | none => (service, [])
  | some native =>
      let given := giveSettings native settings
      ({ service with station := some given.1 }, given.2.map .native ++ [.applied settings])

variable [Add R] [Sub R] [Mul R] [Div R] [LT R] [DecidableLT R] [LE R] [DecidableLE R] [BEq R]
  [NatCast R] [IntCast R]

/-- A round of the statistics thread, which has the session itself. -/
def tick (aggregator : Wfb.Aggregator σ) (libm : Alink.Libm R) (tick : Link.Tick) :
    GroundStationService σ R :=
  { service with
    station := service.station.map fun native =>
      { native with
        handle := native.handle.map fun handle =>
          (handle.1,
            { handle.2 with link := (handle.2.link.statsRound aggregator libm tick).1 }) } }

end GroundStationService

section Machine

variable {σ R : Type} [Neg R] [OfScientific R] [Add R] [Sub R] [Mul R] [Div R] [LT R]
  [DecidableLT R] [LE R] [DecidableLE R] [BEq R] [NatCast R] [IntCast R]

/-- The service as a machine. -/
def serviceMachine (aggregator : Wfb.Aggregator σ) (libm : Alink.Libm R) :
    Mealy (GroundStationService σ R) ServiceEvent ServiceObs where
  step service
    | .attachSurface surface codec => service.attachSurface surface codec
    | .startGroundStation settings keyPath answers =>
        service.startGroundStation aggregator settings keyPath answers
    | .stopGroundStation => service.stopGroundStation
    | .setChannel channel bandwidthMhz tunes => service.setChannel channel bandwidthMhz tunes
    | .applySettings settings => service.applySettings settings
    | .onStatus message => ({ service with status := message }, [])
    | .onDestroy => service.stopGroundStation
    | .tick tick => (service.tick aggregator libm tick, [])

end Machine

/-! ## What is wanted -/

/-- A station that is wanted: the settings and the key of its start, its tuning, and the settings
that were given last. -/
structure Wanted where
  launched : Settings
  keyPath : String
  channel : Int32
  bandwidth : Bandwidth
  settings : Settings
  deriving DecidableEq, Repr

/-- What an observation changes. -/
def note : Option Wanted → ServiceObs → Option Wanted
  | _, .launched settings keyPath =>
      some ⟨settings, keyPath, settings.channel, settings.bandwidth, settings⟩
  | wanted, .applied settings => wanted.map fun wanted => { wanted with settings }
  | wanted, .tuned channel bandwidth => wanted.map fun wanted => { wanted with channel, bandwidth }
  | _, .stopped => none
  | wanted, _ => wanted

/-- What is wanted behind a run. -/
def wantedIn (trace : List ServiceObs) : Option Wanted := trace.foldl note none

/-- The surface of the decoder's last `start`, none behind a `stop`. Whether the decoder could start
on it is the codec's, and an exception may have ended it since. -/
def startOn : Option ℕ → ServiceObs → Option ℕ
  | _, .decoder (.start surface _) => some surface
  | _, .decoder .stop => none
  | surface, _ => surface

def decoderStartIn (trace : List ServiceObs) : Option ℕ := trace.foldl startOn none

section Works

variable {σ R : Type} [Neg R] [OfScientific R]

/-- The configuration `nativeStart` makes for a start. -/
def Wanted.config (wanted : Wanted) : Link.GsConfig R where
  source := wanted.launched.source.native
  radio := { linkId := wanted.launched.linkId.toUInt32, keyPath := wanted.keyPath }

/-- The session works as wanted. -/
structure Works (session : Session σ R) (wanted : Wanted) : Prop where
  running : session.link.running = true
  source : session.link.source.isSome = true
  config : { session.link.config with alink := {} } = wanted.config
  interval : session.link.config.alink.intervalMs = 100
  udp : session.udp = { videoPort := wanted.launched.udpVideoPort }
  channel : session.channel = wanted.channel
  bandwidth : session.bandwidth = wanted.bandwidth.native
  configured : session.configured =
    (toMavlinkEndpoints wanted.settings).map MavlinkEndpoint.native
  codec : session.codec = wanted.settings.codec.native
  alink : session.link.alink.map Alink.AlinkController.config =
    if wanted.settings.alinkEnabled then some (toAlinkConfig wanted.settings).native else none

/-- The service has a session that works as wanted and a wake lock, or it has neither. -/
def Serves (service : GroundStationService σ R) : Option Wanted → Prop
  | none => service.station = none ∧ service.running = false ∧ service.wakeLock = none
  | some wanted => ∃ pointer session lock,
      service.station = some ⟨some (pointer, session), true⟩ ∧ service.running = true ∧
        service.wakeLock = some lock ∧ Works session wanted

/-! ## Single calls -/

variable {session : Session σ R} {wanted : Wanted}

/-- The switch of the adaptive link makes or drops the controller. -/
theorem alink_setAlinkConfig (station : Link.GroundStation σ R) (config : Alink.AlinkConfig R) :
    (station.setAlinkConfig config).alink.map Alink.AlinkController.config =
      if config.enabled then some config else none := by
  unfold Link.GroundStation.setAlinkConfig
  cases config.enabled with
  | false => rfl
  | true => cases station.alink <;> rfl

/-- A session behind its three setters. -/
def Session.given (session : Session σ R) (settings : Settings) : Session σ R :=
  { session with
    link := session.link.setAlinkConfig (toAlinkConfig settings).native
    configured := (toMavlinkEndpoints settings).map MavlinkEndpoint.native
    codec := settings.codec.native }

/-- **The settings come out on the other side.** -/
theorem giveSettings_some (pointer : ℕ) (session : Session σ R) (isRunning : Bool)
    (settings : Settings) :
    GroundStationService.giveSettings ⟨some (pointer, session), isRunning⟩ settings =
      (⟨some (pointer, session.given settings), isRunning⟩,
        List.replicate 3 (.session (.use pointer))) := by
  simp only [GroundStationService.giveSettings, NativeGroundStation.setMavlinkEndpoints,
    NativeGroundStation.setAlink, NativeGroundStation.setVideoCodec, NativeGroundStation.withHandle,
    configured_setMavlinkEndpoints, Session.nativeSetAlink, Session.nativeSetVideoCodec,
    toCodec_nativeValue]
  rfl

/-- Settings that are given to a session that works are those it works under. -/
theorem Works.given (works : Works session wanted) (settings : Settings) :
    Works (session.given settings) { wanted with settings } where
  running := works.running
  source := works.source
  config := works.config
  interval := rfl
  udp := works.udp
  channel := works.channel
  bandwidth := works.bandwidth
  configured := rfl
  codec := rfl
  alink := alink_setAlinkConfig _ _

/-- A source that is there is tuned. -/
theorem Works.tuned (works : Works session wanted) (channel : Int32) (bandwidth : Bandwidth)
    (tunes : Bool) :
    Works (session.nativeSetChannel channel bandwidth.mhz tunes).1
      { wanted with channel, bandwidth } := by
  have there : ¬ session.link.source.isNone = true := by
    rw [Option.isNone_iff_eq_none]
    intro none
    have source := works.source
    rw [none] at source
    cases source
  rw [Session.nativeSetChannel, if_neg there]
  exact ⟨works.running, works.source, works.config, works.interval, works.udp, rfl,
    toBandwidth_mhz bandwidth, works.configured, works.codec, works.alink⟩

/-- A station that runs behind `Start` has a source. -/
theorem source_start (aggregator : Wfb.Aggregator σ) {station : Link.GroundStation σ R}
    {config : Link.GsConfig R} {answers : Link.StartAnswers} (idle : station.running = false)
    (launches : Link.Launches aggregator config answers) :
    (station.start aggregator config answers).1.source.isSome = true := by
  obtain ⟨linked, same, rfl, -, -⟩ := station.start_eq_makeSource aggregator config answers idle
  obtain ⟨started, keys⟩ := launches
  rw [same, Link.GroundStation.makeSource]
  by_cases udp : linked.config.source = .udp
  · rw [if_pos udp, Link.GroundStation.startSource_of_ok _ answers started]
    rfl
  · obtain ⟨receiver, made⟩ := (Link.makeReceiver_iff aggregator linked.config.radio answers).mpr
      (keys.resolve_left udp)
    rw [if_neg udp, made]
    dsimp only
    rw [Link.GroundStation.startSource_of_ok _ answers started]
    rfl

/-- What `nativeStart` makes of a new session that was given settings. -/
def Session.startedWith (aggregator : Wfb.Aggregator σ) (settings : Settings) (keyPath : String)
    (answers : Link.StartAnswers) : Session σ R × Bool × List String :=
  let config := toGroundStationConfig settings keyPath
  (Session.given ({} : Session σ R) settings).nativeStart aggregator config.source.nativeValue
    config.radio.channel config.radio.bandwidth.mhz config.radio.linkId config.radio.keyPath
    config.udpBindAddress config.udpVideoPort config.videoMirrorHost config.videoMirrorPort answers

/-- **A session that starts works as wanted**, with the settings that it was given before. -/
theorem works_startedWith (aggregator : Wfb.Aggregator σ) (settings : Settings) (keyPath : String)
    (answers : Link.StartAnswers)
    (running : (Session.startedWith (R := R) aggregator settings keyPath answers).2.1 = true) :
    Works (Session.startedWith (R := R) aggregator settings keyPath answers).1
      ⟨settings, keyPath, settings.channel, settings.bandwidth, settings⟩ := by
  have idle : (Session.given ({} : Session σ R) settings).link.running = false := rfl
  have made : (toSource settings.source.nativeValue) = settings.source.native :=
    toSource_nativeValue settings.source
  have launches : Link.Launches aggregator
      { source := toSource settings.source.nativeValue
        radio := { linkId := settings.linkId.toUInt32, keyPath } : Link.GsConfig R } answers := by
    by_contra fails
    have halted := (Session.given ({} : Session σ R) settings).link.start_of_fails aggregator _
      answers idle fails
    exact Bool.noConfusion (halted.symm.trans running)
  obtain ⟨runs, configured, alink⟩ :=
    (Session.given ({} : Session σ R) settings).link.start_of_launches aggregator _ answers idle
      launches
  refine ⟨runs, source_start aggregator idle launches, ?_, ?_, rfl, rfl,
    toBandwidth_mhz settings.bandwidth, rfl, rfl, ?_⟩
  · have changed :=
      congrArg (fun config : Link.GsConfig R => { config with alink := {} }) configured
    refine changed.trans ?_
    rw [made]
    rfl
  · exact congrArg (fun config : Link.GsConfig R => config.alink.intervalMs) configured
  · refine (congrArg (Option.map Alink.AlinkController.config) alink).trans ?_
    exact alink_setAlinkConfig _ _

section Round

variable [Add R] [Sub R] [Mul R] [Div R] [LT R] [DecidableLT R] [LE R] [DecidableLE R] [BEq R]
  [NatCast R] [IntCast R] (aggregator : Wfb.Aggregator σ) (libm : Alink.Libm R)

theorem source_statsRound (station : Link.GroundStation σ R) (tick : Link.Tick) :
    (station.statsRound aggregator libm tick).1.source = station.source := by
  unfold Link.GroundStation.statsRound
  split
  · obtain ⟨receiver, -, taken⟩ := station.takeSnapshot_eq aggregator tick.snapshotMs
    dsimp only
    rw [taken]
    unfold Link.GroundStation.report
    split
    · split <;> rfl
    · rfl
  · rfl

/-- A round of the statistics thread leaves all that alone. -/
theorem Works.round (works : Works session wanted) (tick : Link.Tick) :
    Works { session with link := (session.link.statsRound aggregator libm tick).1 } wanted := by
  obtain ⟨runs, config, alink⟩ := Link.statsRound_keeps aggregator libm session.link tick
  refine ⟨runs.trans works.running, ?_, ?_, ?_, works.udp, works.channel, works.bandwidth,
    works.configured, works.codec, alink.trans works.alink⟩
  · exact (congrArg Option.isSome (source_statsRound aggregator libm session.link tick)).trans
      works.source
  · exact (congrArg (fun config : Link.GsConfig R => { config with alink := {} }) config).trans
      works.config
  · exact (congrArg (fun config : Link.GsConfig R => config.alink.intervalMs) config).trans
      works.interval

end Round

/-! ## Steps -/

def ServiceObs.sessions : ServiceObs → List (Call ℕ)
  | .native (.session call) => [call]
  | _ => []

def ServiceObs.locks : ServiceObs → List (Call ℕ)
  | .wakeLock call => [call]
  | _ => []

namespace GroundStationService

variable (service : GroundStationService σ R)

/-- The sessions the service holds. -/
def sessions : Multiset ℕ := ↑(service.station.bind fun native => native.handle.map Prod.fst).toList

/-- The wake locks it holds. -/
def locks : Multiset ℕ := ↑service.wakeLock.toList

/-- The surface the decoder is told to start on. -/
def decoderStart : Option ℕ := if service.running then service.surface else none

end GroundStationService

/-- What a step does to what is wanted, and to what is held. -/
structure Stepped (service : GroundStationService σ R) (wanted : Option Wanted)
    (stepped : GroundStationService σ R × List ServiceObs) : Prop where
  serves : Serves stepped.1 (stepped.2.foldl note wanted)
  sessions : Moves id service.sessions service.nextPointer
    (stepped.2.flatMap ServiceObs.sessions) stepped.1.sessions stepped.1.nextPointer
  locks : Moves id service.locks service.nextLock (stepped.2.flatMap ServiceObs.locks)
    stepped.1.locks stepped.1.nextLock
  sound : .native .closed ∉ stepped.2
  decoder : stepped.2.foldl startOn service.decoderStart = stepped.1.decoderStart

section Steps

variable {service : GroundStationService σ R} {want : Option Wanted}

/-- A step that leaves the sessions, the locks and the decoder alone. -/
theorem Stepped.quiet {service' : GroundStationService σ R} (serves : Serves service' want)
    (sessions : service'.sessions = service.sessions)
    (nextPointer : service'.nextPointer = service.nextPointer)
    (locks : service'.locks = service.locks) (nextLock : service'.nextLock = service.nextLock)
    (decoder : service'.decoderStart = service.decoderStart) :
    Stepped service want (service', []) := by
  refine ⟨serves, ?_, ?_, List.not_mem_nil, decoder.symm⟩
  · rw [sessions, nextPointer]
    exact .nil _ _ _
  · rw [locks, nextLock]
    exact .nil _ _ _

/-- Without a station nothing is held. -/
theorem Serves.bare (serves : Serves service none) : service.sessions = 0 ∧ service.locks = 0 := by
  obtain ⟨station, -, wakeLock⟩ := serves
  rw [GroundStationService.sessions, GroundStationService.locks, station, wakeLock]
  exact ⟨rfl, rfl⟩

/-- A station and its wake lock are held. -/
theorem Serves.held {wanted : Wanted} (serves : Serves service (some wanted)) :
    ∃ pointer session lock,
      (service.station = some ⟨some (pointer, session), true⟩ ∧ service.running = true ∧
        service.wakeLock = some lock ∧ Works session wanted) ∧
      service.sessions = {pointer} ∧ service.locks = {lock} := by
  obtain ⟨pointer, session, lock, station, running, wakeLock, works⟩ := serves
  refine ⟨pointer, session, lock, ⟨station, running, wakeLock, works⟩, ?_⟩
  rw [GroundStationService.sessions, GroundStationService.locks, station, wakeLock]
  exact ⟨rfl, rfl⟩

theorem moves_use (pointer next : ℕ) :
    Moves id ({pointer} : Multiset ℕ) next [.use pointer] {pointer} next :=
  .use (Multiset.mem_singleton_self pointer) next

theorem attachSurface_stepped (serves : Serves service want) (surface : Option ℕ)
    (codec : VideoCodec) : Stepped service want (service.attachSurface surface codec) := by
  cases surface with
  | none =>
      refine ⟨?_, .nil _ _ _, .nil _ _ _, by simp [GroundStationService.attachSurface], ?_⟩
      · cases want <;> exact serves
      · change none = if service.running = true then none else none
        rw [ite_self]
  | some surface =>
      simp only [GroundStationService.attachSurface]
      split
      · rename_i running
        refine ⟨?_, .nil _ _ _, .nil _ _ _, by simp, ?_⟩
        · cases want <;> exact serves
        · simp [GroundStationService.decoderStart, startOn, running]
      · rename_i halted
        refine ⟨?_, .nil _ _ _, .nil _ _ _, by simp, ?_⟩
        · cases want <;> exact serves
        · simp [GroundStationService.decoderStart, halted]

theorem stopGroundStation_stepped (serves : Serves service want) :
    Stepped service want service.stopGroundStation := by
  cases want with
  | none =>
      obtain ⟨held, locked⟩ := serves.bare
      obtain ⟨station, running, wakeLock⟩ := serves
      have stopped : service.stopGroundStation =
          ({ service with
              station := none, running := false, wakeLock := none, status := "stopped" },
            [.decoder .stop, .recorder .stop, .stopped]) := by
        rw [GroundStationService.stopGroundStation, station]
        simp only [GroundStationService.releaseWakeLock, wakeLock]
        rfl
      rw [stopped]
      refine ⟨⟨rfl, rfl, rfl⟩, ?_, ?_, by simp, rfl⟩
      · rw [held]
        exact .nil _ _ _
      · rw [locked]
        exact .nil _ _ _
  | some wanted =>
      obtain ⟨pointer, session, lock, ⟨station, running, wakeLock, works⟩, held, locked⟩ :=
        serves.held
      have stopped : service.stopGroundStation =
          ({ service with
              station := none, running := false, wakeLock := none, status := "stopped" },
            [.decoder .stop, .recorder .stop, .native (.session (.use pointer)),
              .native (.session (.use pointer)), .native (.session (.close pointer)), .stopped,
              .wakeLock (.close lock)]) := by
        rw [GroundStationService.stopGroundStation, station]
        simp only [GroundStationService.releaseWakeLock, wakeLock]
        rfl
      rw [stopped]
      refine ⟨⟨rfl, rfl, rfl⟩, ?_, ?_, by simp, rfl⟩
      · rw [held]
        exact ((moves_use pointer _).append (moves_use pointer _)).append (.close 0 pointer _)
      · rw [locked]
        exact .close 0 lock _

theorem setChannel_stepped (serves : Serves service want) (channel bandwidthMhz : Int32)
    (tunes : Bool) : Stepped service want (service.setChannel channel bandwidthMhz tunes) := by
  cases want with
  | none =>
      obtain ⟨station, running, wakeLock⟩ := serves
      rw [GroundStationService.setChannel, station]
      exact .quiet ⟨station, running, wakeLock⟩ rfl rfl rfl rfl rfl
  | some wanted =>
      obtain ⟨pointer, session, lock, ⟨station, running, wakeLock, works⟩, held, -⟩ := serves.held
      rw [GroundStationService.setChannel, station]
      refine ⟨⟨pointer, _, lock, rfl, running, wakeLock, works.tuned channel _ tunes⟩, ?_,
        .nil _ _ _, by simp [NativeGroundStation.setChannel, NativeGroundStation.withHandle], rfl⟩
      rw [held]
      exact moves_use pointer _

theorem applySettings_stepped (serves : Serves service want) (settings : Settings) :
    Stepped service want (service.applySettings settings) := by
  cases want with
  | none =>
      obtain ⟨station, running, wakeLock⟩ := serves
      rw [GroundStationService.applySettings, station]
      exact .quiet ⟨station, running, wakeLock⟩ rfl rfl rfl rfl rfl
  | some wanted =>
      obtain ⟨pointer, session, lock, ⟨station, running, wakeLock, works⟩, held, -⟩ := serves.held
      rw [GroundStationService.applySettings, station]
      dsimp only
      rw [giveSettings_some]
      refine ⟨⟨pointer, _, lock, rfl, running, wakeLock, works.given settings⟩, ?_, .nil _ _ _,
        by simp, rfl⟩
      rw [held]
      exact ((moves_use pointer _).append (moves_use pointer _)).append (moves_use pointer _)

/-- The calls of a start up to its answer: the session is made, given the settings and started. -/
def begun (pointer : ℕ) : List ServiceObs :=
  .native (.session (.grant pointer)) :: List.replicate 4 (.native (.session (.use pointer)))

/-- What a start of a service that does not run goes on with. -/
theorem startGroundStation_eq (halted : service.running = false) (aggregator : Wfb.Aggregator σ)
    (settings : Settings) (keyPath : String) (answers : Link.StartAnswers) :
    ∃ (session : Session σ R) (started : Bool) (status : String),
      (started = true →
        Works session ⟨settings, keyPath, settings.channel, settings.bandwidth, settings⟩) ∧
      service.startGroundStation aggregator settings keyPath answers =
        let told := { service with nextPointer := service.nextPointer + 1, status }
        let native := ⟨some (service.nextPointer, session), started⟩
        let finished := if started then told.launch native settings keyPath else told.giveUp native
        (finished.1, begun service.nextPointer ++ finished.2) := by
  refine ⟨_, _, (Session.startedWith (R := R) aggregator settings keyPath
    answers).2.2.getLast?.getD service.status,
    works_startedWith aggregator settings keyPath answers, ?_⟩
  rw [GroundStationService.startGroundStation, if_neg (Bool.eq_false_iff.mp halted),
    NativeGroundStation.create]
  dsimp only
  rw [giveSettings_some]
  rfl

/-- What a start that succeeds does. -/
def launchObs (pointer lock : ℕ) (surface : Option ℕ) (settings : Settings) (keyPath : String) :
    List ServiceObs :=
  begun pointer ++ (.launched settings keyPath :: [.wakeLock (.grant lock)] ++
    (surface.toList.map fun surface => .decoder (.start surface settings.codec)) ++
    (if settings.recordVideo then [.recorder (.start settings.codec)] else []) ++
    [.startReturned true])

theorem launchObs_shares (pointer lock : ℕ) (surface : Option ℕ) (settings : Settings)
    (keyPath : String) :
    (launchObs pointer lock surface settings keyPath).foldl note none =
        some ⟨settings, keyPath, settings.channel, settings.bandwidth, settings⟩ ∧
      (launchObs pointer lock surface settings keyPath).flatMap ServiceObs.sessions =
        .grant pointer :: List.replicate 4 (.use pointer) ∧
      (launchObs pointer lock surface settings keyPath).flatMap ServiceObs.locks = [.grant lock] ∧
      .native .closed ∉ launchObs pointer lock surface settings keyPath ∧
      (launchObs pointer lock surface settings keyPath).foldl startOn none = surface := by
  cases record : settings.recordVideo <;> cases surface <;>
    simp [launchObs, begun, record, note, startOn, ServiceObs.sessions, ServiceObs.locks,
      List.replicate]

/-- A session that was made and used is held. -/
theorem moves_begun (pointer : ℕ) :
    Moves id (0 : Multiset ℕ) pointer (.grant pointer :: List.replicate 4 (.use pointer)) {pointer}
      (pointer + 1) := by
  have granted : Moves id (0 : Multiset ℕ) pointer [.grant pointer] {pointer} (pointer + 1) :=
    .grant 0 rfl
  have used := moves_use pointer (pointer + 1)
  exact granted.append (used.append (used.append (used.append used)))

/-- A session that is started is held with a wake lock. -/
theorem launch_stepped (serves : Serves service none) {session : Session σ R}
    {settings : Settings} {keyPath : String} (status : String)
    (works : Works session ⟨settings, keyPath, settings.channel, settings.bandwidth, settings⟩) :
    let told := { service with nextPointer := service.nextPointer + 1, status }
    let launched := told.launch ⟨some (service.nextPointer, session), true⟩ settings keyPath
    Stepped service none (launched.1, begun service.nextPointer ++ launched.2) := by
  obtain ⟨held, locked⟩ := serves.bare
  obtain ⟨station, running, wakeLock⟩ := serves
  intro told launched
  have same : (launched.1, begun service.nextPointer ++ launched.2) =
      ({ told with
          station := some ⟨some (service.nextPointer, session), true⟩
          running := true
          wakeLock := some service.nextLock
          nextLock := service.nextLock + 1 },
        launchObs service.nextPointer service.nextLock service.surface settings keyPath) := by
    simp only [launched, told, GroundStationService.launch, GroundStationService.acquireWakeLock,
      wakeLock, launchObs]
  obtain ⟨notes, sessions, locks, sound, decoder⟩ :=
    launchObs_shares service.nextPointer service.nextLock service.surface settings keyPath
  have idle : service.decoderStart = none := by simp [GroundStationService.decoderStart, running]
  rw [same]
  refine ⟨?_, ?_, ?_, sound, ?_⟩
  · rw [notes]
    exact ⟨service.nextPointer, session, service.nextLock, rfl, rfl, rfl, works⟩
  · rw [held, sessions]
    exact moves_begun service.nextPointer
  · rw [locked, locks]
    exact .grant 0 rfl
  · rw [idle, decoder]
    rfl

/-- A session that could not be started is destroyed. -/
theorem giveUp_stepped (serves : Serves service none) (session : Session σ R) (status : String)
    (isRunning : Bool) :
    let told := { service with nextPointer := service.nextPointer + 1, status }
    let givenUp := told.giveUp ⟨some (service.nextPointer, session), isRunning⟩
    Stepped service none (givenUp.1, begun service.nextPointer ++ givenUp.2) := by
  obtain ⟨held, locked⟩ := serves.bare
  obtain ⟨station, running, wakeLock⟩ := serves
  intro told givenUp
  have idle : service.decoderStart = none := by simp [GroundStationService.decoderStart, running]
  have used := moves_use service.nextPointer (service.nextPointer + 1)
  refine ⟨⟨rfl, running, wakeLock⟩, ?_, ?_, ?_, ?_⟩
  · rw [held]
    exact (moves_begun service.nextPointer).append
      (used.append (used.append (.close 0 service.nextPointer _)))
  · exact .nil _ _ _
  · simp [givenUp, told, begun, GroundStationService.giveUp, NativeGroundStation.lastError,
      NativeGroundStation.close, List.replicate]
  · rw [idle]
    exact idle.symm

/-- A start makes a session, gives it the settings and starts it. Then it has a wake lock and the
session works, or the session is destroyed. -/
theorem startGroundStation_stepped (serves : Serves service want)
    (aggregator : Wfb.Aggregator σ) (settings : Settings) (keyPath : String)
    (answers : Link.StartAnswers) :
    Stepped service want (service.startGroundStation aggregator settings keyPath answers) := by
  cases want with
  | some wanted =>
      obtain ⟨_, _, _, ⟨_, running, _, _⟩, _, _⟩ := serves.held
      rw [GroundStationService.startGroundStation, if_pos running]
      exact ⟨serves, .nil _ _ _, .nil _ _ _, by simp, rfl⟩
  | none =>
      obtain ⟨session, started, status, works, same⟩ :=
        startGroundStation_eq serves.2.1 aggregator settings keyPath answers
      rw [same]
      cases started with
      | true => exact launch_stepped serves status (works rfl)
      | false => exact giveUp_stepped serves session status false

end Steps

/-! ## Runs -/

variable [Add R] [Sub R] [Mul R] [Div R] [LT R] [DecidableLT R] [LE R] [DecidableLE R] [BEq R]
  [NatCast R] [IntCast R] (aggregator : Wfb.Aggregator σ) (libm : Alink.Libm R)

theorem tick_stepped {service : GroundStationService σ R} {want : Option Wanted}
    (serves : Serves service want) (tick : Link.Tick) :
    Stepped service want (service.tick aggregator libm tick, []) := by
  cases want with
  | none =>
      obtain ⟨station, running, wakeLock⟩ := serves
      have same : service.tick aggregator libm tick = service := by
        rw [GroundStationService.tick, station]
        obtain ⟨_, _, _, _, _, _, _, _⟩ := service
        cases station
        rfl
      rw [same]
      exact .quiet ⟨station, running, wakeLock⟩ rfl rfl rfl rfl rfl
  | some wanted =>
      obtain ⟨pointer, session, lock, ⟨station, running, wakeLock, works⟩, held, -⟩ := serves.held
      refine .quiet ⟨pointer, _, lock, ?_, running, wakeLock, works.round aggregator libm tick⟩ ?_
        rfl rfl rfl rfl
      · rw [GroundStationService.tick, station]
        rfl
      · rw [held, GroundStationService.sessions, GroundStationService.tick, station]
        rfl

/-- **What a call on the service does.** -/
theorem service_stepped {service : GroundStationService σ R} {want : Option Wanted}
    (serves : Serves service want) (event : ServiceEvent) :
    Stepped service want ((serviceMachine aggregator libm).step service event) := by
  cases event with
  | attachSurface surface codec => exact attachSurface_stepped serves surface codec
  | startGroundStation settings keyPath answers =>
      exact startGroundStation_stepped serves aggregator settings keyPath answers
  | stopGroundStation => exact stopGroundStation_stepped serves
  | setChannel channel bandwidthMhz tunes =>
      exact setChannel_stepped serves channel bandwidthMhz tunes
  | applySettings settings => exact applySettings_stepped serves settings
  | onStatus message =>
      refine .quiet ?_ rfl rfl rfl rfl rfl
      cases want <;> exact serves
  | onDestroy => exact stopGroundStation_stepped serves
  | tick tick => exact tick_stepped aggregator libm serves tick

/-- What holds of a run. -/
structure Kept (service : GroundStationService σ R) (trace : List ServiceObs) : Prop where
  serves : Serves service (wantedIn trace)
  sessions : Moves id 0 0 (trace.flatMap ServiceObs.sessions) service.sessions service.nextPointer
  locks : Moves id 0 0 (trace.flatMap ServiceObs.locks) service.locks service.nextLock
  sound : .native .closed ∉ trace
  decoder : decoderStartIn trace = service.decoderStart

theorem kept_run (events : List ServiceEvent) :
    Kept ((serviceMachine aggregator libm).after {} events)
      ((serviceMachine aggregator libm).outputs {} events) := by
  refine Mealy.invariant_of_step Kept
    ⟨⟨rfl, rfl, rfl⟩, .nil _ _ _, .nil _ _ _, List.not_mem_nil, rfl⟩ ?_ events
  rintro service trace event kept
  have stepped := service_stepped aggregator libm kept.serves event
  refine ⟨?_, ?_, ?_, ?_, ?_⟩
  · rw [wantedIn, List.foldl_append]
    exact stepped.serves
  · rw [List.flatMap_append]
    exact kept.sessions.append stepped.sessions
  · rw [List.flatMap_append]
    exact kept.locks.append stepped.locks
  · rw [List.mem_append, not_or]
    exact ⟨kept.sound, stepped.sound⟩
  · rw [decoderStartIn, List.foldl_append, ← decoderStartIn, kept.decoder]
    exact stepped.decoder

/-- **The settings given last are in force.** In every run the service has a station exactly if one
is wanted, and the station works under what was given: the endpoints, the codec and the adaptive
link of the last settings, the source and the key of the start, and the tuning that was asked for
last, which the source may have refused. The decoder's last call is a start on the surface that is
attached, exactly while there is a station and a surface. -/
theorem settings_in_force (events : List ServiceEvent) :
    Serves ((serviceMachine aggregator libm).after {} events)
        (wantedIn ((serviceMachine aggregator libm).outputs {} events)) ∧
      decoderStartIn ((serviceMachine aggregator libm).outputs {} events) =
        if ((serviceMachine aggregator libm).after {} events).running then
          ((serviceMachine aggregator libm).after {} events).surface
        else none := by
  have kept := kept_run aggregator libm events
  exact ⟨kept.serves, kept.decoder⟩

/-- **Sessions and wake locks are given back.** In every run each is given back at most once, and
nothing is called behind that. A session is never started behind its end. When the service does not
run, each that was taken has been given back. -/
theorem service_owns (events : List ServiceEvent) :
    let service := (serviceMachine aggregator libm).after {} events
    let trace := (serviceMachine aggregator libm).outputs {} events
    Safe id (trace.flatMap ServiceObs.sessions) ∧ Safe id (trace.flatMap ServiceObs.locks) ∧
      .native .closed ∉ trace ∧
      (service.running = false →
        (∀ pointer, .grant pointer ∈ trace.flatMap ServiceObs.sessions →
          (trace.flatMap ServiceObs.sessions).count (.close pointer) = 1) ∧
        ∀ lock, .grant lock ∈ trace.flatMap ServiceObs.locks →
          (trace.flatMap ServiceObs.locks).count (.close lock) = 1) := by
  intro service trace
  have kept : Kept service trace := kept_run aggregator libm events
  refine ⟨kept.sessions.safe_self, kept.locks.safe_self, kept.sound, fun halted => ?_⟩
  have serves := kept.serves
  cases want : wantedIn trace with
  | some wanted =>
      rw [want] at serves
      obtain ⟨_, _, _, _, running, _⟩ := serves
      rw [halted] at running
      cases running
  | none =>
      rw [want] at serves
      obtain ⟨sessions, locks⟩ := serves.bare
      refine ⟨fun pointer granted => kept.sessions.dropped granted ?_,
        fun lock granted => kept.locks.dropped granted ?_⟩
      · rw [sessions]
        exact Multiset.notMem_zero pointer
      · rw [locks]
        exact Multiset.notMem_zero lock

end Works

end App

end MobileGs
