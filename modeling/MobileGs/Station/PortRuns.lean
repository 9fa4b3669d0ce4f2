import MobileGs.Station.Conveyance

/-!
# The telemetry and the tunnel port of the receive path

What happens behind the two ports in a run of the receive path is a run of the station there
(`ports_run`), and the payloads of that run are those that were delivered (`portShares_run`). What
is displayed is what the messages of the downlink made of it, one after the other
(`displays_run`).
-/

set_option autoImplicit false

namespace MobileGs

namespace Station

open Mavlink Msp Router ReceivePath

variable {σ : Type} {aggregator : Wfb.Aggregator σ}

/-! ## Runs behind the ports -/

theorem ports_videoNal (path : ReceivePath σ) (outputs : List Rtp.Output) :
    (outputs.flatMap path.videoNal).filterMap portsObs? = [] := by
  refine List.filterMap_eq_nil_iff.mpr fun obs among => ?_
  obtain ⟨output, -, given⟩ := List.mem_flatMap.mp among
  cases output with
  | heard packet =>
      obtain rfl := List.mem_singleton.mp given
      rfl
  | nal fragmented unit =>
      rcases List.mem_cons.mp given with rfl | given
      · rfl
      · split at given
        · obtain rfl := List.mem_singleton.mp given
          rfl
        · cases given

theorem portsObs_ports (emitted : List Obs) :
    (emitted.map PathObs.ports).filterMap portsObs? = emitted := by
  rw [List.filterMap_map]
  exact List.filterMap_some

/-- What a step does behind the two ports is nothing, or a step of the station there. -/
theorem ports_step (path : ReceivePath σ) (event : PathEvent) :
    ∃ events, machine.run path.ports events =
      (((pathMachine aggregator).step path event).1.ports,
        ((pathMachine aggregator).step path event).2.filterMap portsObs?) := by
  have idle : ∀ {path' : ReceivePath σ} {emitted : List PathObs}, path'.ports = path.ports →
      emitted.filterMap portsObs? = [] →
        ∃ events, machine.run path.ports events = (path'.ports, emitted.filterMap portsObs?) := by
    intro path' emitted ports silent
    exact ⟨[], by rw [ports, silent]; rfl⟩
  cases event with
  | frame heard =>
      simp only [pathMachine, frame]
      split
      · exact idle rfl (by rw [List.filterMap_cons_none rfl, filterMap_payloads fun _ _ => rfl])
      · exact idle rfl rfl
  | deliver nowMs taken =>
      simp only [pathMachine, deliver]
      split
      · exact idle rfl rfl
      · rename_i port data rest waiting
        split
        · exact idle rfl rfl
        · rw [List.filterMap_cons_none rfl]
          unfold onPayload
          split
          · exact idle rfl (ports_videoNal _ _)
          · split
            · refine ⟨[.telemetry data nowMs taken], ?_⟩
              rw [Mealy.run_singleton, portsObs_ports]
              rfl
            · split
              · refine ⟨[.tunnel data], ?_⟩
                rw [Mealy.run_singleton, portsObs_ports]
                rfl
              · exact idle rfl rfl
  | datagram data =>
      simp only [pathMachine, datagram]
      split
      · exact idle rfl rfl
      · exact idle rfl (by rw [List.filterMap_cons_none rfl]; exact ports_videoNal _ _)
  | snapshot nowMs =>
      simp only [pathMachine, snapshot]
      split
      · exact idle rfl rfl
      · exact idle rfl rfl
  | setCodec codec => exact idle rfl rfl
  | router event =>
      refine ⟨[.router event], ?_⟩
      rw [Mealy.run_singleton]
      simp only [pathMachine, onRouterEvent, portsObs_ports]
      rfl

/-- **What happens behind the two ports in a run is a run of the station there.** -/
theorem ports_run (path : ReceivePath σ) (events : List PathEvent) :
    ∃ portEvents, machine.run path.ports portEvents =
      (((pathMachine aggregator).after path events).ports,
        ((pathMachine aggregator).outputs path events).filterMap portsObs?) := by
  refine (pathMachine aggregator).invariant_of_step
    (fun path' trace => ∃ portEvents, machine.run path.ports portEvents =
      (path'.ports, trace.filterMap portsObs?)) ⟨[], rfl⟩ ?_ events
  rintro path' trace event ⟨before, run⟩
  obtain ⟨more, step⟩ := @ports_step _ aggregator path' event
  refine ⟨before ++ more, ?_⟩
  rw [machine.run_append, run, step, List.filterMap_append]

/-! ## What is displayed -/

/-- What is displayed is what the messages of the downlink made of it. -/
def Displays (station : GroundStation) (trace : List Obs) : Prop :=
  station.mavlink.telemetry.displayed =
    (downlinked trace).foldl display ({} : TelemetryState).displayed

theorem Displays.silent {station station' : GroundStation} {trace emitted : List Obs}
    (displays : Displays station trace)
    (same : station'.mavlink.telemetry = station.mavlink.telemetry)
    (silent : downlinked emitted = []) : Displays station' (trace ++ emitted) := by
  rw [Displays, downlinked_append, silent, List.append_nil, same]
  exact displays

/-- A router event other than a downlink call keeps the telemetry. -/
theorem telemetry_kept {router router' : MavlinkRouter} {event : Router.Event}
    {emitted : List Router.Obs} (step : Transition router event router' emitted)
    (other : ∀ data nowMs taken, event ≠ .feedDownlink data nowMs taken) :
    router'.telemetry = router.telemetry := by
  cases step with
  | feedDownlink data nowMs taken => exact absurd rfl (other data nowMs taken)
  | _ => rfl

/-- A payload on the downlink is displayed message by message. -/
theorem feedDownlink_displays (router : MavlinkRouter) (data : List Byte) (nowMs : UInt64)
    (taken : List (Option ℕ)) :
    (router.feedDownlink data nowMs taken).1.telemetry.displayed =
      (downlinked ((router.feedDownlink data nowMs taken).2.map .fed)).foldl display
        router.telemetry.displayed := by
  unfold MavlinkRouter.feedDownlink
  split
  · rfl
  · have fold := displayed_consumeAll router.telemetry
      ((router.downlinkFramer.push data).2.map fun message => (nowMs, message))
    rw [consumeAll, List.foldl_map, List.map_map] at fold
    have messages : downlinked
        (((router.downlinkFramer.push data).2.map Router.Obs.downlink).map .fed) =
          (router.downlinkFramer.push data).2 := by
      simp [downlinked, List.filterMap_map]
    have sends : ∀ sends : List ((EndpointRef × Source) × ℕ),
        downlinked ((sends.map fun send =>
          Router.Obs.sent send.1.1 send.1.2 data (taken.getD send.2 none)).map .fed) = [] := by
      intro sends
      simp [downlinked, List.filterMap_map]
    rw [List.map_append, downlinked_append, messages, sends, List.append_nil, fold]
    congr 1
    exact List.map_id _

theorem displays_run (events : List Event) :
    Displays (machine.after {} events) (machine.outputs {} events) := by
  have fresh : Displays {} [] := by
    rw [Displays]
    rfl
  refine machine.invariant_of_step Displays fresh ?_ events
  intro station trace event displays
  cases event with
  | telemetry data nowMs taken =>
      simp only [machine, GroundStation.onTelemetryPayload]
      split
      · exact displays.silent rfl rfl
      · obtain ⟨-, -, emitted, -⟩ := telemetry_shares data
          (station.mavlink.feedDownlink data nowMs taken).2 (station.osd.push data).2
        rw [Displays, downlinked_append, emitted, List.foldl_append, ← displays]
        exact feedDownlink_displays station.mavlink data nowMs taken
  | tunnel data =>
      obtain ⟨-, -, emitted, -⟩ := tunnel_shares data (station.osd.push data).2
      exact displays.silent rfl emitted
  | router event =>
      simp only [machine, GroundStation.onRouterEvent]
      split
      · exact displays.silent rfl rfl
      · rename_i other
        obtain ⟨-, -, downlink, -⟩ :=
          routed_silent (Router.machine.step station.mavlink event).2
        exact displays.silent
          (telemetry_kept (machine_step station.mavlink event) other) downlink

/-! ## The payloads -/

/-- The payloads of the two ports are those that were delivered. -/
structure PortShares (emitted : List PathObs) : Prop where
  telemetry : telemetryPayloads (emitted.filterMap portsObs?) =
    emitted.filterMap (delivered? Wfb.portMavlinkRx)
  osd : osdPayloads (emitted.filterMap portsObs?) = emitted.filterMap osdDelivered?

theorem PortShares.append {emitted more : List PathObs} (first : PortShares emitted)
    (later : PortShares more) : PortShares (emitted ++ more) := by
  constructor
  · rw [List.filterMap_append, List.filterMap_append, telemetryPayloads_append, first.telemetry,
      later.telemetry]
  · rw [List.filterMap_append, List.filterMap_append, osdPayloads_append, first.osd, later.osd]

/-- Where nothing is delivered and nothing happens behind the ports. -/
theorem PortShares.idle {emitted : List PathObs} (ports : emitted.filterMap portsObs? = [])
    (delivered : emitted.filterMap (delivered? Wfb.portMavlinkRx) = [])
    (osd : emitted.filterMap osdDelivered? = []) : PortShares emitted := by
  constructor
  · rw [ports, delivered]
    rfl
  · rw [ports, osd]
    rfl

theorem osdDelivered?_behind (obs : PathObs) (behind : obs.Behind) : osdDelivered? obs = none := by
  cases obs with
  | rtp => rfl
  | mirrored => rfl
  | ports => rfl
  | _ => exact behind.elim

/-- Video is given to neither parser. -/
theorem PortShares.video (path : ReceivePath σ) (data : List Byte) :
    PortShares (path.onVideoPayload data).2 :=
  .idle (ports_videoNal path _)
    (filterMap_behind (delivered?_behind Wfb.portMavlinkRx) (Behind.video path data).emitted)
    (filterMap_behind osdDelivered?_behind (Behind.video path data).emitted)

/-- A payload that is delivered. -/
theorem PortShares.payload (path : ReceivePath σ) (port : Byte) (data : List Byte)
    (nowMs : UInt64) (taken : List (Option ℕ))
    (free : ¬ (port = Wfb.portMavlinkRx ∧ path.ports.mavlink.locked = true)) :
    PortShares (.delivered port data :: (path.onPayload port data nowMs taken).2) := by
  have behind := (Behind.payload path port data nowMs taken).emitted
  have blind := filterMap_behind (delivered?_behind Wfb.portMavlinkRx) behind
  have blindOsd := filterMap_behind osdDelivered?_behind behind
  have given : [PathObs.delivered port data].filterMap (delivered? Wfb.portMavlinkRx) =
      if port = Wfb.portMavlinkRx then [data] else [] := by
    simp only [List.filterMap_cons, List.filterMap_nil, delivered?, onPort]
    split <;> simp_all
  have givenOsd : [PathObs.delivered port data].filterMap osdDelivered? =
      if port = Wfb.portMavlinkRx ∨ port = Wfb.portTunnelRx then [data] else [] := by
    simp only [List.filterMap_cons, List.filterMap_nil, osdDelivered?]
    split <;> simp_all
  have apart : Wfb.portVideo ≠ Wfb.portMavlinkRx ∧ Wfb.portVideo ≠ Wfb.portTunnelRx ∧
      Wfb.portTunnelRx ≠ Wfb.portMavlinkRx := by decide
  rw [← List.singleton_append]
  constructor
  · rw [List.filterMap_append, List.filterMap_append, blind, given, List.append_nil,
      List.filterMap_cons_none rfl, List.filterMap_nil, List.nil_append]
    unfold onPayload
    split
    · rename_i video
      rw [if_neg (video ▸ apart.1), onVideoPayload, ports_videoNal]
      rfl
    · split
      · rename_i telemetry
        have unlocked : path.ports.mavlink.locked = false := by
          by_contra locked
          exact free ⟨telemetry, by simpa using locked⟩
        rw [portsObs_ports, GroundStation.onTelemetryPayload, unlocked]
        exact (telemetry_shares data _ _).1
      · split
        · rw [portsObs_ports]
          exact (tunnel_shares data _).1
        · rfl
  · rw [List.filterMap_append, List.filterMap_append, blindOsd, givenOsd, List.append_nil,
      List.filterMap_cons_none rfl, List.filterMap_nil, List.nil_append]
    unfold onPayload
    split
    · rename_i video
      rw [if_neg (video ▸ not_or.mpr ⟨apart.1, apart.2.1⟩), onVideoPayload, ports_videoNal]
      rfl
    · split
      · rename_i telemetry
        have unlocked : path.ports.mavlink.locked = false := by
          by_contra locked
          exact free ⟨telemetry, by simpa using locked⟩
        have either : port = Wfb.portMavlinkRx ∨ port = Wfb.portTunnelRx := .inl telemetry
        rw [portsObs_ports, GroundStation.onTelemetryPayload, unlocked, if_pos either]
        exact (telemetry_shares data _ _).2.1
      · rename_i notTelemetry
        split
        · rename_i tunnel
          have either : port = Wfb.portMavlinkRx ∨ port = Wfb.portTunnelRx := .inr tunnel
          rw [portsObs_ports, if_pos either]
          exact (tunnel_shares data _).2.1
        · rename_i notTunnel
          rw [if_neg (not_or.mpr ⟨notTelemetry, notTunnel⟩)]
          rfl

theorem portShares_step (path : ReceivePath σ) (event : PathEvent) :
    PortShares ((pathMachine aggregator).step path event).2 := by
  cases event with
  | frame heard =>
      simp only [pathMachine, frame]
      split
      · refine .idle ?_ ?_ ?_
        · rw [List.filterMap_cons_none rfl, filterMap_payloads fun _ _ => rfl]
        · rw [List.filterMap_cons_none rfl, filterMap_payloads fun _ _ => rfl]
        · rw [List.filterMap_cons_none rfl, filterMap_payloads fun _ _ => rfl]
      · exact .idle rfl rfl rfl
  | deliver nowMs taken =>
      simp only [pathMachine, deliver]
      split
      · exact .idle rfl rfl rfl
      · rename_i port data rest waiting
        split
        · exact .idle rfl rfl rfl
        · rename_i free
          exact .payload { path with pending := rest } port data nowMs taken free
  | datagram data =>
      simp only [pathMachine, datagram]
      split
      · exact .idle rfl rfl rfl
      · have first : PortShares [.datagram data] := .idle rfl rfl rfl
        exact first.append (.video path data)
  | snapshot nowMs =>
      simp only [pathMachine, snapshot]
      split
      · exact .idle rfl rfl rfl
      · exact .idle rfl rfl rfl
  | setCodec codec => exact .idle rfl rfl rfl
  | router event =>
      have blind := @filterMap_ports _ (delivered? Wfb.portMavlinkRx) fun _ => rfl
      have blindOsd := @filterMap_ports _ osdDelivered? fun _ => rfl
      simp only [pathMachine, onRouterEvent]
      constructor
      · rw [blind, portsObs_ports]
        unfold GroundStation.onRouterEvent
        split
        · rfl
        · exact (routed_silent _).1
      · rw [blindOsd, portsObs_ports]
        unfold GroundStation.onRouterEvent
        split
        · rfl
        · exact (routed_silent _).2.1

theorem portShares_run (path : ReceivePath σ) (events : List PathEvent) :
    PortShares ((pathMachine aggregator).outputs path events) := by
  refine (pathMachine aggregator).invariant_of_step (fun _ trace => PortShares trace)
    (.idle rfl rfl rfl) ?_ events
  intro path' trace event shares
  exact shares.append (portShares_step path' event)

end Station

end MobileGs
