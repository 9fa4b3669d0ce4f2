import MobileGs.App.SettingsScreen
import MobileGs.Foundations.Handles
import MobileGs.Link.Configuration
import MobileGs.Rtp.Depacketizer
import MobileGs.Source.DevourerSource
import MobileGs.Source.UdpSource

/-!
# The bridge to the native ground station

`NativeGroundStation` holds a pointer to a native `Session` and hands each call on. The bridge is
narrow: enumerations go over as integers, and a list of endpoints as four parallel arrays. What
comes out on the other side is what went in (`configured_setMavlinkEndpoints`,
`toCodec_nativeValue` and their like).

The session below has what its setters and `Start` write. The router's list, the tuning and the
codec are kept beside the station of the adaptive link, which has the rest. A pointer that is
followed is an observation, and so are the `new` and the `delete`.
-/

set_option autoImplicit false

namespace MobileGs

namespace App

open Handles

/-! ## What the app hands over -/

def SourceKind.nativeValue : SourceKind → Int32
  | .devourer => 0
  | .udp => 1

def VideoCodec.nativeValue : VideoCodec → Int32
  | .auto => 0
  | .h264 => 1
  | .h265 => 2

def MavlinkEndpointKind.nativeValue : MavlinkEndpointKind → Int32
  | .udpOut => 0
  | .udpServer => 1
  | .tcpServer => 2

structure RadioConfig where
  channel : Int32 := 161
  bandwidth : Bandwidth := .bw20
  linkId : Int32 := 7669206
  keyPath : String := ""

structure GroundStationConfig where
  source : SourceKind := .devourer
  radio : RadioConfig := {}
  udpBindAddress : String := "0.0.0.0"
  udpVideoPort : Int32 := 5600
  videoMirrorHost : String := ""
  videoMirrorPort : Int32 := 0

/-- `AlinkConfig` of the app. -/
structure AlinkConfig (R : Type) [OfScientific R] where
  enabled : Bool := false
  host : String := "10.5.0.10"
  port : Int32 := 9999
  intervalMs : Int32 := 100
  snrWeight : R := 0.5
  rssiWeight : R := 0.5
  allowIdr : Bool := true
  allowPenalty : Bool := false
  allowFecIncrease : Bool := false

def toGroundStationConfig (settings : Settings) (keyPath : String) : GroundStationConfig where
  source := settings.source
  radio :=
    { channel := settings.channel
      bandwidth := settings.bandwidth
      linkId := settings.linkId
      keyPath }
  udpVideoPort := settings.udpVideoPort

def toAlinkConfig {R : Type} [OfScientific R] (settings : Settings) : AlinkConfig R where
  enabled := settings.alinkEnabled
  host := settings.alinkHost
  port := settings.alinkPort
  allowIdr := settings.alinkAllowIdr
  allowPenalty := settings.alinkAllowPenalty
  allowFecIncrease := settings.alinkAllowFecIncrease

/-! ## The native side -/

/-- `ToBandwidth`. -/
def toBandwidth (value : Int32) : Source.Devourer.Bandwidth :=
  if value = 5 then .k5
  else if value = 10 then .k10
  else if value = 40 then .k40
  else if value = 80 then .k80
  else .k20

/-- The kind of an endpoint, in `nativeSetMavlinkEndpoints`. -/
def toKind (value : Int32) : Router.EndpointKind :=
  if value = 1 then .udpServer else if value = 2 then .tcpServer else .udpOut

/-- The codec, in `nativeSetVideoCodec`. -/
def toCodec (value : Int32) : Rtp.VideoCodec :=
  if value = 1 then .h264 else if value = 2 then .h265 else .unknown

/-- The source, in `nativeStart`. -/
def toSource (value : Int32) : Link.SourceKind := if value = 1 then .udp else .devourer

/-- `Session`, as far as its setters and `Start` write it. -/
structure Session (σ R : Type) [Neg R] [OfScientific R] where
  link : Link.GroundStation σ R := {}
  channel : Int32 := 161
  bandwidth : Source.Devourer.Bandwidth := .k20
  udp : Source.UdpSourceConfig := {}
  configured : List Router.MavlinkEndpoint := []
  codec : Rtp.VideoCodec := .unknown

namespace Session

variable {σ R : Type} [Neg R] [OfScientific R] (session : Session σ R)

/-- `nativeStart`, with what `Start` answers and what it tells its status callback. -/
def nativeStart (aggregator : Wfb.Aggregator σ) (sourceKind channel bandwidth linkId : Int32)
    (keyPath udpBind : String) (udpPort : Int32) (mirrorHost : String) (mirrorPort : Int32)
    (answers : Link.StartAnswers) : Session σ R × Bool × List String :=
  let config : Link.GsConfig R :=
    { source := toSource sourceKind
      radio := { linkId := linkId.toUInt32, keyPath }
      videoMirrorHost := mirrorHost
      videoMirrorPort := mirrorPort }
  let started := session.link.start aggregator config answers
  let statuses := started.2.filterMap fun obs =>
    match obs with
    | .status text => some text
    | _ => none
  if session.link.running then (session, true, statuses)
  else
    ({ session with
        link := started.1
        channel
        bandwidth := toBandwidth bandwidth
        udp := { bindAddr := udpBind, videoPort := udpPort } },
      started.1.running, statuses)

/-- `nativeStop`. -/
def nativeStop : Session σ R := { session with link := session.link.stop.1 }

/-- `nativeSetChannel`. `tunes` is the answer of the source. -/
def nativeSetChannel (channel bandwidth : Int32) (tunes : Bool) : Session σ R × Bool :=
  if session.link.source.isNone then (session, false)
  else ({ session with channel, bandwidth := toBandwidth bandwidth }, tunes)

/-- `nativeSetVideoCodec`. -/
def nativeSetVideoCodec (codec : Int32) : Session σ R := { session with codec := toCodec codec }

/-- `nativeSetMavlinkEndpoints`: an endpoint for each index of the parallel arrays. -/
def nativeSetMavlinkEndpoints (kinds : List Int32) (hosts : List String) (ports : List Int32)
    (uplinkFlags : List Bool) : Session σ R :=
  { session with
    configured := (List.range kinds.length).map fun i =>
      { kind := toKind (kinds.getD i 0)
        host := hosts.getD i ""
        port := (ports.getD i 0).toInt
        enabled := true
        allowUplink := uplinkFlags.getD i false } }

/-- `nativeSetAlink`. -/
def nativeSetAlink (enabled : Bool) (intervalMs : Int32) (snrWeight rssiWeight : R)
    (allowIdr allowPenalty allowFecIncrease : Bool) : Session σ R :=
  { session with
    link := session.link.setAlinkConfig
      { enabled, intervalMs, snrWeight, rssiWeight, allowIdr, allowPenalty, allowFecIncrease } }

end Session

/-! ## The Kotlin side -/

/-- What the app does to the world outside its fields. A pointer is made, followed or destroyed.
`closed` stands for the exception of a `start` behind `close`. -/
inductive NativeObs where
  | session (call : Call ℕ)
  | closed
  deriving DecidableEq, Repr

/-- `NativeGroundStation`. A handle is the pointer with the session there, and none is 0. -/
structure NativeGroundStation (σ R : Type) [Neg R] [OfScientific R] where
  handle : Option (ℕ × Session σ R)
  isRunning : Bool := false

namespace NativeGroundStation

variable {σ R : Type} [Neg R] [OfScientific R]

/-- `nativeCreate`. -/
def create (pointer : ℕ) : NativeGroundStation σ R × List NativeObs :=
  ({ handle := some (pointer, {}) }, [.session (.grant pointer)])

variable (native : NativeGroundStation σ R)

/-- A call that is handed on unless the handle is 0. -/
def withHandle (call : Session σ R → Session σ R) : NativeGroundStation σ R × List NativeObs :=
  match native.handle with
  | none => (native, [])
  | some (pointer, session) =>
      ({ native with handle := some (pointer, call session) }, [.session (.use pointer)])

/-- `start`, with its answer and the statuses it reports. -/
def start (aggregator : Wfb.Aggregator σ) (config : GroundStationConfig)
    (answers : Link.StartAnswers) :
    NativeGroundStation σ R × List NativeObs × Bool × List String :=
  match native.handle with
  | none => (native, [.closed], false, [])
  | some (pointer, session) =>
      let started := session.nativeStart aggregator config.source.nativeValue
        config.radio.channel config.radio.bandwidth.mhz config.radio.linkId config.radio.keyPath
        config.udpBindAddress config.udpVideoPort config.videoMirrorHost config.videoMirrorPort
        answers
      ({ handle := some (pointer, started.1), isRunning := started.2.1 },
        [.session (.use pointer)], started.2.1, started.2.2)

def stop : NativeGroundStation σ R × List NativeObs :=
  let stopped := native.withHandle Session.nativeStop
  ({ stopped.1 with isRunning := false }, stopped.2)

/-- `lastError`. -/
def lastError : String × List NativeObs :=
  match native.handle with
  | none => ("", [])
  | some (pointer, session) => (session.link.lastError, [.session (.use pointer)])

def setChannel (channel : Int32) (bandwidth : Bandwidth) (tunes : Bool) :
    NativeGroundStation σ R × List NativeObs :=
  native.withHandle fun session => (session.nativeSetChannel channel bandwidth.mhz tunes).1

def setVideoCodec (codec : VideoCodec) : NativeGroundStation σ R × List NativeObs :=
  native.withHandle fun session => session.nativeSetVideoCodec codec.nativeValue

def setMavlinkEndpoints (endpoints : List MavlinkEndpoint) :
    NativeGroundStation σ R × List NativeObs :=
  native.withHandle fun session =>
    session.nativeSetMavlinkEndpoints (endpoints.map fun endpoint => endpoint.kind.nativeValue)
      (endpoints.map MavlinkEndpoint.host) (endpoints.map MavlinkEndpoint.port)
      (endpoints.map MavlinkEndpoint.allowUplink)

def setAlink (config : AlinkConfig R) : NativeGroundStation σ R × List NativeObs :=
  native.withHandle fun session =>
    session.nativeSetAlink config.enabled config.intervalMs config.snrWeight config.rssiWeight
      config.allowIdr config.allowPenalty config.allowFecIncrease

/-- `close`, which destroys the session. Its destructor stops the station. -/
def close : NativeGroundStation σ R × List NativeObs :=
  match native.handle with
  | none => ({ native with isRunning := false }, [])
  | some (pointer, _) => ({ handle := none }, [.session (.use pointer), .session (.close pointer)])

end NativeGroundStation

/-! ## What comes out on the other side -/

def MavlinkEndpointKind.native : MavlinkEndpointKind → Router.EndpointKind
  | .udpOut => .udpOut
  | .udpServer => .udpServer
  | .tcpServer => .tcpServer

/-- The endpoint an entry of the app stands for. -/
def MavlinkEndpoint.native (endpoint : MavlinkEndpoint) : Router.MavlinkEndpoint where
  kind := endpoint.kind.native
  host := endpoint.host
  port := endpoint.port.toInt
  enabled := true
  allowUplink := endpoint.allowUplink

def VideoCodec.native : VideoCodec → Rtp.VideoCodec
  | .auto => .unknown
  | .h264 => .h264
  | .h265 => .h265

def SourceKind.native : SourceKind → Link.SourceKind
  | .devourer => .devourer
  | .udp => .udp

def Bandwidth.native : Bandwidth → Source.Devourer.Bandwidth
  | .bw5 => .k5
  | .bw10 => .k10
  | .bw20 => .k20
  | .bw40 => .k40
  | .bw80 => .k80

/-- The configuration the controller should work under. -/
def AlinkConfig.native {R : Type} [Neg R] [OfScientific R] (config : AlinkConfig R) :
    Alink.AlinkConfig R where
  enabled := config.enabled
  intervalMs := config.intervalMs
  snrWeight := config.snrWeight
  rssiWeight := config.rssiWeight
  allowIdr := config.allowIdr
  allowPenalty := config.allowPenalty
  allowFecIncrease := config.allowFecIncrease

theorem toBandwidth_mhz (bandwidth : Bandwidth) : toBandwidth bandwidth.mhz = bandwidth.native := by
  cases bandwidth <;> decide

theorem toCodec_nativeValue (codec : VideoCodec) : toCodec codec.nativeValue = codec.native := by
  cases codec <;> decide

theorem toSource_nativeValue (source : SourceKind) :
    toSource source.nativeValue = source.native := by
  cases source <;> decide

theorem toKind_nativeValue (kind : MavlinkEndpointKind) :
    toKind kind.nativeValue = kind.native := by
  cases kind <;> decide

/-- **The endpoints survive the parallel arrays.** -/
theorem configured_setMavlinkEndpoints {σ R : Type} [Neg R] [OfScientific R]
    (session : Session σ R) (endpoints : List MavlinkEndpoint) :
    session.nativeSetMavlinkEndpoints (endpoints.map fun endpoint => endpoint.kind.nativeValue)
        (endpoints.map MavlinkEndpoint.host) (endpoints.map MavlinkEndpoint.port)
        (endpoints.map MavlinkEndpoint.allowUplink) =
      { session with configured := endpoints.map MavlinkEndpoint.native } := by
  have same : (session.nativeSetMavlinkEndpoints
      (endpoints.map fun endpoint => endpoint.kind.nativeValue)
      (endpoints.map MavlinkEndpoint.host) (endpoints.map MavlinkEndpoint.port)
      (endpoints.map MavlinkEndpoint.allowUplink)).configured =
        endpoints.map MavlinkEndpoint.native := by
    apply List.ext_getElem
    · simp [Session.nativeSetMavlinkEndpoints]
    · intro i inside inside'
      have within : i < endpoints.length := by simpa using inside'
      simp [Session.nativeSetMavlinkEndpoints, within, toKind_nativeValue, MavlinkEndpoint.native]
  rw [← same]
  rfl

end App

end MobileGs
