import MobileGs.Foundations.Components
import MobileGs.Mavlink.Groups
import MobileGs.Rtp.Depacketizer
import MobileGs.Station.Ports
import MobileGs.Wfb.Demux

/-!
# The receive path

What the ground station hears goes one way. `ProcessFrame` takes a frame apart and hands each
payload that comes out to the callback of its port, on the receive thread and with the receiver's
mutex held: video to the depacketiser, telemetry to the router's downlink and the MSP decoder, the
tunnel to the MSP decoder. The depacketiser's NAL units go to the listener and to the mirror socket.
A UDP source has no receiver, its datagrams are video. The statistics thread takes snapshots, the
application sets the codec, and the router's loop runs beside all that.

A frame is a step, and each payload of it is another, so what the other threads do falls between any
two payloads. While payloads are left the receive thread is in `ProcessFrame`: no other frame comes,
and a snapshot waits. A telemetry payload waits while the loop holds the router's mutex.
-/

set_option autoImplicit false

namespace MobileGs

namespace Station

open Mavlink Msp Router

/-- The members of `GroundStation` that what is heard goes through. `mirror` says whether
`mirror_fd_` is a socket. `pending` are the payloads that the `ProcessFrame` under way has not
handed over. There is no receiver when the source is UDP. -/
structure ReceivePath (σ : Type) where
  receiver : Option (Wfb.WfbReceiver σ)
  depacketizer : Rtp.RtpDepacketizer := { callback := true }
  ports : GroundStation := {}
  mirror : Bool := false
  pending : List (Byte × List Byte) := []

inductive PathEvent where
  | frame (heard : Wfb.Heard)
  | deliver (nowMs : UInt64) (taken : List (Option ℕ))
  | datagram (data : List Byte)
  | snapshot (nowMs : UInt64)
  | setCodec (codec : Rtp.VideoCodec)
  | router (event : Router.Event)

/-- What a run does. A frame is heard and a sink passes payloads on, a payload is delivered, a
datagram comes, a snapshot is taken, the codec is set. Then what the depacketiser does, what is sent
to the mirror, and what happens behind the other ports. -/
inductive PathObs where
  | heard (heard : Wfb.Heard)
  | payload (port : Byte) (data : List Byte)
  | snapshot (snapshot : Wfb.LinkSnapshot)
  | codec (codec : Rtp.VideoCodec)
  | delivered (port : Byte) (data : List Byte)
  | datagram (data : List Byte)
  | rtp (output : Rtp.Output)
  | mirrored (data : List Byte)
  | ports (obs : Obs)

/-- The payload of an observation of the receiver, with its port. -/
def payload? : Wfb.Obs → Option (Byte × List Byte)
  | .payload port data => some (port, data)
  | _ => none

/-- The payload, if it is one of the port. -/
def onPort (port : Byte) (payload : Byte × List Byte) : Option (List Byte) :=
  if payload.1 = port then some payload.2 else none

namespace ReceivePath

variable {σ : Type} (aggregator : Wfb.Aggregator σ) (path : ReceivePath σ)

/-- The receive thread's call of `ProcessFrame`. -/
def frame (heard : Wfb.Heard) : ReceivePath σ × List PathObs :=
  match path.receiver, path.pending with
  | some receiver, [] =>
      let processed := receiver.processFrame aggregator heard.1 heard.2
      let payloads := processed.2.filterMap payload?
      ({ path with receiver := some processed.1, pending := payloads },
        .heard heard :: payloads.map fun payload => .payload payload.1 payload.2)
  | _, _ => (path, [])

/-- The callback of the depacketiser: the listener, then the mirror. -/
def videoNal : Rtp.Output → List PathObs
  | .nal fragmented unit =>
      .rtp (.nal fragmented unit) :: if path.mirror then [.mirrored unit.data] else []
  | output => [.rtp output]

/-- `OnVideoPayload`. -/
def onVideoPayload (data : List Byte) : ReceivePath σ × List PathObs :=
  let pushed := path.depacketizer.push data
  ({ path with depacketizer := pushed.depacketizer }, pushed.outputs.flatMap path.videoNal)

/-- The callbacks that `Start` gives to `AddStream`. -/
def onPayload (port : Byte) (data : List Byte) (nowMs : UInt64) (taken : List (Option ℕ)) :
    ReceivePath σ × List PathObs :=
  if port = Wfb.portVideo then path.onVideoPayload data
  else if port = Wfb.portMavlinkRx then
    let fed := path.ports.onTelemetryPayload data nowMs taken
    ({ path with ports := fed.1 }, fed.2.map .ports)
  else if port = Wfb.portTunnelRx then
    let fed := path.ports.onTunnelPayload data
    ({ path with ports := fed.1 }, fed.2.map .ports)
  else (path, [])

/-- The next payload is handed over. A telemetry payload waits for the router's mutex. -/
def deliver (nowMs : UInt64) (taken : List (Option ℕ)) : ReceivePath σ × List PathObs :=
  match path.pending with
  | [] => (path, [])
  | (port, data) :: rest =>
      if port = Wfb.portMavlinkRx ∧ path.ports.mavlink.locked then (path, [])
      else
        let handed := { path with pending := rest }.onPayload port data nowMs taken
        (handed.1, .delivered port data :: handed.2)

/-- A datagram of the UDP source. -/
def datagram (data : List Byte) : ReceivePath σ × List PathObs :=
  match path.receiver with
  | some _ => (path, [])
  | none =>
      let handed := path.onVideoPayload data
      (handed.1, .datagram data :: handed.2)

/-- The statistics thread's call of `TakeSnapshot`. -/
def snapshot (nowMs : UInt64) : ReceivePath σ × List PathObs :=
  match path.receiver, path.pending with
  | some receiver, [] =>
      let taken := receiver.takeSnapshot aggregator nowMs
      ({ path with receiver := some taken.1 }, [.snapshot taken.2])
  | _, _ => (path, [])

/-- `SetVideoCodec`. -/
def setCodec (codec : Rtp.VideoCodec) : ReceivePath σ × List PathObs :=
  ({ path with depacketizer := { path.depacketizer with codec } }, [.codec codec])

def onRouterEvent (event : Router.Event) : ReceivePath σ × List PathObs :=
  let stepped := path.ports.onRouterEvent event
  ({ path with ports := stepped.1 }, stepped.2.map .ports)

end ReceivePath

/-- The receive path as a machine. -/
def pathMachine {σ : Type} (aggregator : Wfb.Aggregator σ) :
    Mealy (ReceivePath σ) PathEvent PathObs where
  step path
    | .frame heard => path.frame aggregator heard
    | .deliver nowMs taken => path.deliver nowMs taken
    | .datagram data => path.datagram data
    | .snapshot nowMs => path.snapshot aggregator nowMs
    | .setCodec codec => path.setCodec codec
    | .router event => path.onRouterEvent event

/-! ## A sink by itself -/

/-- What a sink is given: a frame of its port, and `clear_stats`. -/
inductive SinkEvent where
  | process (heard : Wfb.Heard)
  | clear

/-- A sink, if there is one, with the payloads it passes on. -/
def sinkMachine {σ : Type} (aggregator : Wfb.Aggregator σ) :
    Mealy (Option (Wfb.Sink σ)) SinkEvent (List Byte) where
  step
    | none, _ => (none, [])
    | some sink, .process heard =>
        let processed :=
          sink.processPacket aggregator (Wfb.WfbReceiver.rxPacket aggregator heard.1 heard.2)
        (some processed.1, processed.2)
    | some sink, .clear =>
        (some { sink with aggregator := aggregator.clearStats sink.aggregator }, [])

/-! ## Views of a run -/

/-- What the sink of a port was given. A snapshot clears the sink of the primary port. -/
def sinkEvent? (linkId : UInt32) (port : Byte) : PathObs → Option SinkEvent
  | .heard heard => if Wfb.Belongs linkId port heard.1 then some (.process heard) else none
  | .snapshot _ => if port = Wfb.portVideo then some .clear else none
  | _ => none

/-- What the sink of a port passed on. -/
def passedOn? (port : Byte) : PathObs → Option (List Byte)
  | .payload port' data => onPort port (port', data)
  | _ => none

/-- What was delivered to the callback of a port. -/
def delivered? (port : Byte) : PathObs → Option (List Byte)
  | .delivered port' data => onPort port (port', data)
  | _ => none

/-- What was delivered to the MSP decoder, of both its ports. -/
def osdDelivered? : PathObs → Option (List Byte)
  | .delivered port data =>
      if port = Wfb.portMavlinkRx ∨ port = Wfb.portTunnelRx then some data else none
  | _ => none

/-- What the depacketiser was given. -/
def videoEvent? : PathObs → Option Rtp.Event
  | .delivered port data => if port = Wfb.portVideo then some (.push data) else none
  | .datagram data => some (.push data)
  | .codec codec => some (.setCodec codec)
  | _ => none

/-- What the depacketiser did. -/
def rtpOutput? : PathObs → Option Rtp.Output
  | .rtp output => some output
  | _ => none

/-- What was sent to the mirror. -/
def mirrored? : PathObs → Option (List Byte)
  | .mirrored data => some data
  | _ => none

/-- What happened behind the telemetry and the tunnel port. -/
def portsObs? : PathObs → Option Obs
  | .ports obs => some obs
  | _ => none

end Station

end MobileGs
