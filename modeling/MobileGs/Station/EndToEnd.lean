import MobileGs.Rtp.Loss
import MobileGs.Station.PortRuns

/-!
# From the antenna to the screen

In every run of the receive path, what each consumer is given is a function of what was heard on its
own ports (`ports_conveyed`): the payloads of a port are those its sink passes on alone, the NAL
units are those of a depacketiser that is given the video alone, and so for the messages, for what
is displayed and for the OSD. Frames of other links and ports, what the router and the statistics
thread do, and how their steps fall between the payloads do not show.

So what holds of the depacketiser holds from the antenna on. When the video sink passes on the
packets of a stream of a known codec as far as they arrive, the listener and the mirror are given
the NAL units of which no packet was lost (`video_survives`).
-/

set_option autoImplicit false

namespace MobileGs

namespace Station

open Mavlink Msp Router ReceivePath

variable {σ : Type} (aggregator : Wfb.Aggregator σ)

/-- The path as `Start` leaves it. There is a radio unless the source is UDP. -/
def startPath (radio : Option Wfb.RadioConfig) (sinks : Byte → Option (Wfb.Sink σ))
    (codec : Rtp.VideoCodec) (mirror : Bool) : ReceivePath σ where
  receiver := radio.map fun radio => { radio, sinks }
  depacketizer := { codec, callback := true }
  mirror := mirror

/-- The link that is listened to. -/
def linkOf (radio : Option Wfb.RadioConfig) : UInt32 := (radio.getD {}).linkId

theorem linked_startPath (radio : Option Wfb.RadioConfig) (sinks : Byte → Option (Wfb.Sink σ))
    (codec : Rtp.VideoCodec) (mirror : Bool) :
    Linked (linkOf radio) (startPath radio sinks codec mirror) := by
  intro receiver receives
  obtain ⟨radio', same, rfl⟩ := Option.map_eq_some_iff.mp receives
  rw [linkOf, same]
  exact ⟨rfl, rfl⟩

/-- **What each consumer is given is a function of what its own ports heard**, in every run. The
payloads of a port are delivered in order and once each, up to those still on their way, and they
are the payloads its sink passes on when it is given the frames of its port alone. The depacketiser
does what it does when it is given the video alone, and the mirror is sent what the listener is
given. The router is given the messages of the telemetry stream and displays what they make of it,
and the OSD is what a decoder makes of the two streams it is given. -/
theorem ports_conveyed (radio : Option Wfb.RadioConfig) (sinks : Byte → Option (Wfb.Sink σ))
    (codec : Rtp.VideoCodec) (mirror : Bool) (events : List PathEvent) :
    let start := startPath radio sinks codec mirror
    let path := (pathMachine aggregator).after start events
    let trace := (pathMachine aggregator).outputs start events
    let telemetry := messagesIn (trace.filterMap (delivered? Wfb.portMavlinkRx)).flatten
    (∀ port, trace.filterMap (delivered? port) ++ path.left port =
      (sinkMachine aggregator).outputs (start.sink port)
        (trace.filterMap (sinkEvent? (linkOf radio) port))) ∧
    trace.filterMap rtpOutput? =
      Rtp.machine.outputs { codec, callback := true } (trace.filterMap videoEvent?) ∧
    trace.filterMap mirrored? =
      (if mirror then (Rtp.nalsIn (trace.filterMap rtpOutput?)).map Rtp.NalUnit.data else []) ∧
    downlinked (trace.filterMap portsObs?) = telemetry ∧
    path.ports.mavlink.telemetry.displayed =
      telemetry.foldl display ({} : TelemetryState).displayed ∧
    osdOutputs (trace.filterMap portsObs?) =
      (MspOsdDecoder.bytewise.run { callback := true }
        (trace.filterMap osdDelivered?).flatten).2 := by
  intro start path trace telemetry
  have linked := linked_startPath radio sinks codec mirror
  obtain ⟨portEvents, run⟩ := @ports_run _ aggregator start events
  have ports : machine.after {} portEvents = path.ports := congrArg Prod.fst run
  have portTrace : machine.outputs {} portEvents = trace.filterMap portsObs? :=
    congrArg Prod.snd run
  have shares : PortShares trace := portShares_run start events
  have parsed := parsed_run portEvents
  rw [ports, portTrace] at parsed
  have displays := displays_run portEvents
  rw [ports, portTrace] at displays
  have downlink : downlinked (trace.filterMap portsObs?) = telemetry := by
    rw [parsed.downlink, shares.telemetry]
  refine ⟨fun port => ?_, ?_, mirrors_run start events, downlink, ?_, ?_⟩
  · have nothing : start.left port = [] := rfl
    have passed := congrArg Prod.snd
      ((sinkComponent aggregator (linkOf radio) port).run linked events)
    have delivered := @delivered_pending _ aggregator start events port
    rw [nothing, List.nil_append] at delivered
    exact delivered.trans passed.symm
  · exact (congrArg Prod.snd ((videoComponent aggregator).run trivial events)).symm
  · rw [← downlink]
    exact displays
  · rw [parsed.outputs, shares.osd]

/-! ## Video -/

/-- Where there is a receiver, a step that leaves the codec alone gives the depacketiser what is
delivered on the video port. -/
theorem videoEvents_step (path : ReceivePath σ) {event : PathEvent}
    (receives : path.receiver.isSome = true) (other : ∀ codec, event ≠ .setCodec codec) :
    ((pathMachine aggregator).step path event).1.receiver.isSome = true ∧
      ((pathMachine aggregator).step path event).2.filterMap videoEvent? =
        (((pathMachine aggregator).step path event).2.filterMap (delivered? Wfb.portVideo)).map
          .push := by
  cases event with
  | frame heard =>
      simp only [pathMachine, frame]
      split
      · refine ⟨rfl, ?_⟩
        rw [List.filterMap_cons_none rfl, List.filterMap_cons_none rfl,
          filterMap_payloads fun _ _ => rfl, filterMap_payloads fun _ _ => rfl]
        rfl
      · exact ⟨receives, rfl⟩
  | deliver nowMs taken =>
      simp only [pathMachine, deliver]
      split
      · exact ⟨receives, rfl⟩
      · rename_i port data rest waiting
        split
        · exact ⟨receives, rfl⟩
        · have behind := Behind.payload { path with pending := rest } port data nowMs taken
          refine ⟨by rw [behind.receiver]; exact receives, ?_⟩
          rw [List.filterMap_cons, List.filterMap_cons,
            filterMap_behind videoEvent?_behind behind.emitted,
            filterMap_behind (delivered?_behind Wfb.portVideo) behind.emitted]
          simp only [videoEvent?, delivered?, onPort]
          by_cases video : port = Wfb.portVideo
          · simp only [if_pos video]
            rfl
          · simp only [if_neg video]
            rfl
  | datagram data =>
      simp only [pathMachine, datagram]
      split
      · exact ⟨receives, rfl⟩
      · rename_i none
        rw [none] at receives
        cases receives
  | snapshot nowMs =>
      simp only [pathMachine, snapshot]
      split
      · exact ⟨rfl, rfl⟩
      · exact ⟨receives, rfl⟩
  | setCodec codec => exact absurd rfl (other codec)
  | router event =>
      refine ⟨receives, ?_⟩
      simp only [pathMachine, onRouterEvent]
      rw [filterMap_ports fun _ => rfl, filterMap_ports fun _ => rfl]
      rfl

/-- Where there is a radio and the codec is left alone, the depacketiser is given the payloads of
the video port. -/
theorem videoEvents_run {path : ReceivePath σ} (receives : path.receiver.isSome = true)
    {events : List PathEvent} (noCodec : ∀ codec, .setCodec codec ∉ events) :
    ((pathMachine aggregator).outputs path events).filterMap videoEvent? =
      (((pathMachine aggregator).outputs path events).filterMap
        (delivered? Wfb.portVideo)).map .push := by
  induction events generalizing path with
  | nil => rfl
  | cons event rest ih =>
      have other : ∀ codec, event ≠ .setCodec codec := by
        rintro codec rfl
        exact noCodec codec List.mem_cons_self
      obtain ⟨still, first⟩ := videoEvents_step aggregator path receives other
      rw [Mealy.outputs_cons, List.filterMap_append, List.filterMap_append, List.map_append, first,
        ih still fun codec later => noCodec codec (List.mem_cons_of_mem _ later)]

/-- The sinks of a fresh receiver. -/
def plainSinks : Byte → Option (Wfb.Sink Wfb.Counters) := fun port =>
  if port = Wfb.portVideo ∨ port = Wfb.portMavlinkRx then
    some { aggregator := {}, callback := true }
  else none

/-- A packet of the stream in a video frame. -/
def videoFrame (sequence : UInt16) (marker : Bool) (payload : List Byte) : PathEvent :=
  .frame ((Wfb.sampleFrame ((Rtp.Dressing.plain 9000 marker).bytes sequence payload)), {})

/-- A telemetry frame of the default link. -/
def telemetryFrame : PathEvent :=
  .frame ([0x08, 0x01, 0, 0, 0xff, 0xff, 0xff, 0xff, 0xff, 0xff, 0x57, 0x42, 0x75, 0x05, 0xd6, 0x10,
    0x57, 0x42, 0x75, 0x05, 0xd6, 0x10, 0, 0, 0xfe, 0x24, 0, 0, 0, 0], {})

/-- Two fragments of a NAL unit, with other frames and a snapshot around them. -/
def fragmentsHeard : List PathEvent :=
  [videoFrame 65535 false [0x7c, 0x85, 0xaa], .router (.start true), .deliver 1 [],
    telemetryFrame, .snapshot 2, .deliver 3 [], .snapshot 4, videoFrame 0 true [0x7c, 0x45, 0xbb],
    telemetryFrame, .deliver 5 []]

end Station

end MobileGs
