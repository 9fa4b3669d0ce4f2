import MobileGs.Msp.Decoder
import MobileGs.Router.Transitions

/-!
# The telemetry and tunnel ports

The ground station hands every telemetry payload to the MAVLink router's downlink and to the
MSP decoder, and every tunnel payload to the MSP decoder. The receiver thread makes these
calls one after the other. The router's own thread and its callers work beside it, so a
run mixes the payloads with router events in any order.

The two parsers see byte streams: what the downlink framer emits is a function of the
telemetry bytes, what the MSP decoder does is a function of the bytes of both ports
(`parsed_run`). Where the payloads were cut and what the router did in between is not
visible.
-/

set_option autoImplicit false

namespace MobileGs

namespace Station

open Mavlink Msp Router

/-- The members of `GroundStation` that payloads reach. -/
structure GroundStation where
  mavlink : MavlinkRouter := { uplink := true }
  osd : MspOsdDecoder := { callback := true }

inductive Event where
  | telemetry (data : List Byte) (nowMs : UInt64) (taken : List (Option ℕ))
  | tunnel (data : List Byte)
  | router (event : Router.Event)

/-- What a run does: a payload goes through, with what the downlink and the decoder do with
it, and what the router does by itself. -/
inductive Obs where
  | telemetry (data : List Byte)
  | tunnel (data : List Byte)
  | fed (obs : Router.Obs)
  | osd (output : Output)
  | routed (obs : Router.Obs)

namespace GroundStation

/-- `OnTelemetryPayload`. The call waits while the poll loop holds the router's mutex. -/
def onTelemetryPayload (station : GroundStation) (data : List Byte) (nowMs : UInt64)
    (taken : List (Option ℕ)) : GroundStation × List Obs :=
  if station.mavlink.locked then (station, [])
  else
    let fed := station.mavlink.feedDownlink data nowMs taken
    let pushed := station.osd.push data
    ({ mavlink := fed.1, osd := pushed.1 },
      .telemetry data :: (fed.2.map .fed ++ pushed.2.map .osd))

/-- `OnTunnelPayload`. -/
def onTunnelPayload (station : GroundStation) (data : List Byte) :
    GroundStation × List Obs :=
  let pushed := station.osd.push data
  ({ station with osd := pushed.1 }, .tunnel data :: pushed.2.map .osd)

/-- An event of the router, other than the downlink calls the station makes itself. -/
def onRouterEvent (station : GroundStation) (event : Router.Event) :
    GroundStation × List Obs :=
  match event with
  | .feedDownlink _ _ _ => (station, [])
  | event =>
      let stepped := Router.machine.step station.mavlink event
      ({ station with mavlink := stepped.1 }, stepped.2.map .routed)

end GroundStation

/-- The station as a machine. -/
def machine : Mealy GroundStation Event Obs where
  step station
    | .telemetry data nowMs taken => station.onTelemetryPayload data nowMs taken
    | .tunnel data => station.onTunnelPayload data
    | .router event => station.onRouterEvent event

/-! ## Streams of a run -/

/-- The telemetry payloads that went through. -/
def telemetryPayloads (trace : List Obs) : List (List Byte) :=
  trace.filterMap fun obs =>
    match obs with
    | .telemetry data => some data
    | _ => none

/-- The payloads of both ports that went through. -/
def osdPayloads (trace : List Obs) : List (List Byte) :=
  trace.filterMap fun obs =>
    match obs with
    | .telemetry data => some data
    | .tunnel data => some data
    | _ => none

/-- The messages the downlink framer emitted. -/
def downlinked (trace : List Obs) : List MavlinkMessage :=
  trace.filterMap fun obs =>
    match obs with
    | .fed (.downlink message) => some message
    | _ => none

/-- What the MSP decoder did. -/
def osdOutputs (trace : List Obs) : List Output :=
  trace.filterMap fun obs =>
    match obs with
    | .osd output => some output
    | _ => none

section Append

variable (first later : List Obs)

theorem telemetryPayloads_append :
    telemetryPayloads (first ++ later) = telemetryPayloads first ++ telemetryPayloads later :=
  List.filterMap_append

theorem osdPayloads_append :
    osdPayloads (first ++ later) = osdPayloads first ++ osdPayloads later :=
  List.filterMap_append

theorem downlinked_append : downlinked (first ++ later) = downlinked first ++ downlinked later :=
  List.filterMap_append

theorem osdOutputs_append : osdOutputs (first ++ later) = osdOutputs first ++ osdOutputs later :=
  List.filterMap_append

end Append

/-- The parsers are where the streams so far put them, and did what the streams ask for. -/
structure Parsed (station : GroundStation) (trace : List Obs) : Prop where
  framer : station.mavlink.downlinkFramer =
    (({ callback := true } : MavlinkFramer).push (telemetryPayloads trace).flatten).1
  downlink : downlinked trace = messagesIn (telemetryPayloads trace).flatten
  decoder : station.osd =
    (MspOsdDecoder.bytewise.run { callback := true } (osdPayloads trace).flatten).1
  outputs : osdOutputs trace =
    (MspOsdDecoder.bytewise.run { callback := true } (osdPayloads trace).flatten).2

/-- A framer that has been given a stream. -/
abbrev framerAfter (stream : List Byte) : MavlinkFramer :=
  (({ callback := true } : MavlinkFramer).push stream).1

theorem framerAfter_push (stream more : List Byte) :
    ((framerAfter stream).push more).1 = framerAfter (stream ++ more) ∧
      ((framerAfter stream).push more).2 = messagesIn (residue stream ++ more) := by
  refine ⟨(push_push _ stream more).1, ?_⟩
  rw [push_emits (by rw [push_callback]), push_buffer]
  rfl

theorem parsed_fresh : Parsed {} [] where
  framer := by
    have nothing : ({ callback := true } : MavlinkFramer).push [] = ({ callback := true }, []) :=
      push_nil rfl
    exact (congrArg Prod.fst nothing).symm
  downlink := rfl
  decoder := rfl
  outputs := rfl

/-- A payload on the downlink is pushed into the framer. -/
theorem feedDownlink_parses {router : MavlinkRouter} {stream : List Byte} (data : List Byte)
    (nowMs : UInt64) (taken : List (Option ℕ)) (free : router.locked = false)
    (framer : router.downlinkFramer = framerAfter stream) :
    (router.feedDownlink data nowMs taken).1.downlinkFramer = framerAfter (stream ++ data) ∧
      downlinked ((router.feedDownlink data nowMs taken).2.map .fed) =
        messagesIn (residue stream ++ data) := by
  obtain ⟨state, emitted⟩ := framerAfter_push stream data
  unfold MavlinkRouter.feedDownlink
  cases data with
  | nil =>
      have nothing : messagesIn (residue stream) = [] := by
        rw [messagesIn, residue, frameScanner.scan_rest]
        rfl
      simp only [List.length_nil, decide_true, Bool.true_or, if_true, List.append_nil, nothing]
      exact ⟨framer, rfl⟩
  | cons first rest =>
      simp only [List.length_cons, Nat.add_eq_zero_iff, Nat.succ_ne_self, free, and_false,
        decide_false, Bool.or_self, Bool.false_eq_true, if_false, framer]
      refine ⟨state, ?_⟩
      rw [List.map_append, downlinked_append, ← emitted]
      have sends : ∀ sends : List ((EndpointRef × Source) × ℕ),
          downlinked ((sends.map fun send =>
            Router.Obs.sent send.1.1 send.1.2 (first :: rest) (taken.getD send.2 none)).map
              .fed) = [] := by
        intro sends
        simp [downlinked, List.filterMap_map]
      rw [sends, List.append_nil]
      simp [downlinked, List.filterMap_map]

/-- A router event other than a downlink call keeps the downlink framer. -/
theorem downlinkFramer_kept {router router' : MavlinkRouter} {event : Router.Event}
    {emitted : List Router.Obs} (step : Transition router event router' emitted)
    (other : ∀ data nowMs taken, event ≠ .feedDownlink data nowMs taken) :
    router'.downlinkFramer = router.downlinkFramer := by
  cases step with
  | feedDownlink data nowMs taken => exact absurd rfl (other data nowMs taken)
  | _ => rfl

theorem routed_silent (emitted : List Router.Obs) :
    telemetryPayloads (emitted.map .routed) = [] ∧ osdPayloads (emitted.map .routed) = [] ∧
      downlinked (emitted.map .routed) = [] ∧ osdOutputs (emitted.map .routed) = [] := by
  simp [telemetryPayloads, osdPayloads, downlinked, osdOutputs, List.filterMap_map]

/-- What a telemetry payload adds to each stream. -/
theorem telemetry_shares (data : List Byte) (fed : List Router.Obs) (outputs : List Output) :
    telemetryPayloads (.telemetry data :: (fed.map .fed ++ outputs.map .osd)) = [data] ∧
      osdPayloads (.telemetry data :: (fed.map .fed ++ outputs.map .osd)) = [data] ∧
      downlinked (.telemetry data :: (fed.map .fed ++ outputs.map .osd)) =
        downlinked (fed.map .fed) ∧
      osdOutputs (.telemetry data :: (fed.map .fed ++ outputs.map .osd)) = outputs := by
  simp [telemetryPayloads, osdPayloads, downlinked, osdOutputs, List.filterMap_map]

/-- What a tunnel payload adds to each stream. -/
theorem tunnel_shares (data : List Byte) (outputs : List Output) :
    telemetryPayloads (.tunnel data :: outputs.map .osd) = [] ∧
      osdPayloads (.tunnel data :: outputs.map .osd) = [data] ∧
      downlinked (.tunnel data :: outputs.map .osd) = [] ∧
      osdOutputs (.tunnel data :: outputs.map .osd) = outputs := by
  simp [telemetryPayloads, osdPayloads, downlinked, osdOutputs, List.filterMap_map]

/-- A telemetry payload goes to both parsers. -/
theorem Parsed.telemetry {station : GroundStation} {trace : List Obs}
    (parsed : Parsed station trace) (data : List Byte) (nowMs : UInt64)
    (taken : List (Option ℕ)) :
    Parsed (station.onTelemetryPayload data nowMs taken).1
      (trace ++ (station.onTelemetryPayload data nowMs taken).2) := by
  unfold GroundStation.onTelemetryPayload
  split
  · rw [List.append_nil]
    exact parsed
  · rename_i free
    obtain ⟨framer, downlink⟩ := feedDownlink_parses data nowMs taken
      (Bool.eq_false_iff.mpr free) parsed.framer
    obtain ⟨telemetry, both, emitted, drawn⟩ := telemetry_shares data
      (station.mavlink.feedDownlink data nowMs taken).2 (station.osd.push data).2
    have decoded := MspOsdDecoder.bytewise.run_append { callback := true }
      (osdPayloads trace).flatten data
    rw [← parsed.decoder, ← parsed.outputs] at decoded
    constructor
    · rw [telemetryPayloads_append, telemetry, List.flatten_append, List.flatten_singleton]
      exact framer
    · rw [telemetryPayloads_append, telemetry, List.flatten_append, List.flatten_singleton,
        downlinked_append, emitted, downlink, parsed.downlink]
      exact (messagesIn_append _ data).symm
    · rw [osdPayloads_append, both, List.flatten_append, List.flatten_singleton, decoded]
      rfl
    · rw [osdPayloads_append, both, List.flatten_append, List.flatten_singleton, decoded,
        osdOutputs_append, drawn]
      rfl

/-- A tunnel payload goes to the MSP decoder. -/
theorem Parsed.tunnel {station : GroundStation} {trace : List Obs}
    (parsed : Parsed station trace) (data : List Byte) :
    Parsed (station.onTunnelPayload data).1 (trace ++ (station.onTunnelPayload data).2) := by
  obtain ⟨telemetry, both, emitted, drawn⟩ := tunnel_shares data (station.osd.push data).2
  have decoded := MspOsdDecoder.bytewise.run_append { callback := true }
    (osdPayloads trace).flatten data
  rw [← parsed.decoder, ← parsed.outputs] at decoded
  unfold GroundStation.onTunnelPayload
  constructor
  · rw [telemetryPayloads_append, telemetry, List.append_nil]
    exact parsed.framer
  · rw [telemetryPayloads_append, telemetry, List.append_nil, downlinked_append, emitted,
      List.append_nil]
    exact parsed.downlink
  · rw [osdPayloads_append, both, List.flatten_append, List.flatten_singleton, decoded]
    rfl
  · rw [osdPayloads_append, both, List.flatten_append, List.flatten_singleton, decoded,
      osdOutputs_append, drawn]
    rfl

/-- What the router does by itself leaves the parsers alone. -/
theorem Parsed.routed {station : GroundStation} {trace : List Obs}
    (parsed : Parsed station trace) (event : Router.Event) :
    Parsed (station.onRouterEvent event).1 (trace ++ (station.onRouterEvent event).2) := by
  unfold GroundStation.onRouterEvent
  split
  · rw [List.append_nil]
    exact parsed
  · rename_i other
    obtain ⟨telemetry, both, downlink, outputs⟩ :=
      routed_silent (Router.machine.step station.mavlink event).2
    constructor
    · rw [telemetryPayloads_append, telemetry, List.append_nil]
      exact (downlinkFramer_kept (machine_step station.mavlink event) other).trans parsed.framer
    · rw [telemetryPayloads_append, telemetry, List.append_nil, downlinked_append, downlink,
        List.append_nil]
      exact parsed.downlink
    · rw [osdPayloads_append, both, List.append_nil]
      exact parsed.decoder
    · rw [osdPayloads_append, both, List.append_nil, osdOutputs_append, outputs, List.append_nil]
      exact parsed.outputs

/-- **In every run the parsers see the streams of their ports.** -/
theorem parsed_run (events : List Event) :
    Parsed (machine.after {} events) (machine.outputs {} events) :=
  Mealy.invariant_of_step _ parsed_fresh
    (fun _ _ event parsed =>
      match event with
      | .telemetry data nowMs taken => parsed.telemetry data nowMs taken
      | .tunnel data => parsed.tunnel data
      | .router event => parsed.routed event) events

end Station

end MobileGs
