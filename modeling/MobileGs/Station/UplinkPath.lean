import MobileGs.Link.Uplink
import MobileGs.Router.UplinkFrames
import MobileGs.Station.ReceivePath

/-!
# From the ground to the air unit

Two threads send to the air unit. The router's thread passes on the frames of the ground control
stations, and the statistics thread the messages of the adaptive link, each on a radio port of its
own. `SendUplink` puts the channel id of its port in front.

In a receiver of the same link on the other side the aggregator of a port is handed what was sent on
it, in order and unchanged, apart from what is lost on the air (`uplink_survives`). It is handed no
other frames, and a MAVLink parser finds in them the frames that were passed on. What the aggregator
makes of them is not told here. The link id has to fit into 24 bits.
-/

set_option autoImplicit false

namespace MobileGs

namespace Station

open Mavlink Router

/-- The members of `GroundStation` that go into the uplink. -/
structure UplinkPath (σ R : Type) [Neg R] [OfScientific R] where
  mavlink : MavlinkRouter := fresh
  link : Link.GroundStation σ R := {}

inductive UplinkEvent (R : Type) [Neg R] [OfScientific R] where
  | router (event : Router.Event)
  | link (event : Link.Event R)

inductive UplinkObs (R : Type) where
  | routed (obs : Router.Obs)
  | linked (obs : Link.Obs R)

namespace UplinkPath

variable {σ R : Type} [Neg R] [OfScientific R] (path : UplinkPath σ R)

/-- What the router does, with the uplink callback that `Start` gives it. -/
def onRouterObs (obs : Router.Obs) : List (UplinkObs R) :=
  .routed obs ::
    match obs with
    | .uplink _ _ frame => (path.link.sendUplink Wfb.portMavlinkTx frame).map .linked
    | _ => []

def onRouterEvent (event : Router.Event) : UplinkPath σ R × List (UplinkObs R) :=
  let stepped := Router.machine.step path.mavlink event
  ({ path with mavlink := stepped.1 }, stepped.2.flatMap path.onRouterObs)

variable [Add R] [Sub R] [Mul R] [Div R] [LT R] [DecidableLT R] [LE R] [DecidableLE R] [BEq R]
  [NatCast R] [IntCast R] (aggregator : Wfb.Aggregator σ) (libm : Alink.Libm R)

/-- An event of the station, other than the callback's call, which the router makes. -/
def onLinkEvent (event : Link.Event R) : UplinkPath σ R × List (UplinkObs R) :=
  match event with
  | .uplink _ => (path, [])
  | event =>
      let stepped := (Link.machine aggregator libm).step path.link event
      ({ path with link := stepped.1 }, stepped.2.map .linked)

end UplinkPath

section Machine

variable {σ R : Type} [Neg R] [OfScientific R] [Add R] [Sub R] [Mul R] [Div R] [LT R]
  [DecidableLT R] [LE R] [DecidableLE R] [BEq R] [NatCast R] [IntCast R]

/-- The uplink path as a machine. -/
def uplinkMachine (aggregator : Wfb.Aggregator σ) (libm : Alink.Libm R) :
    Mealy (UplinkPath σ R) (UplinkEvent R) (UplinkObs R) where
  step path
    | .router event => path.onRouterEvent event
    | .link event => path.onLinkEvent aggregator libm event

end Machine

/-! ## Views of a run -/

variable {R : Type}

/-- What the router did. -/
def routed? : UplinkObs R → Option Router.Obs
  | .routed obs => some obs
  | .linked _ => none

/-- The frames the router passed on. -/
def uplinked? : UplinkObs R → Option (List Byte)
  | .routed (.uplink _ _ frame) => some frame
  | _ => none

theorem eq_of_uplinked {obs : UplinkObs R} {frame : List Byte}
    (uplinked : uplinked? obs = some frame) :
    ∃ ref source, obs = .routed (.uplink ref source frame) := by
  unfold uplinked? at uplinked
  split at uplinked
  · rename_i ref source passed
    rw [Option.some.inj uplinked]
    exact ⟨ref, source, rfl⟩
  · cases uplinked

/-- The messages of the adaptive link. -/
def alinked? : UplinkObs R → Option (List Byte)
  | .linked (.updated _ result) => some (Alink.frame result.message)
  | _ => none

/-- What the source was given to transmit. -/
def transmitted? : UplinkObs R → Option (List Byte)
  | .linked (.transmitted frame) => some frame
  | _ => none

/-- What `SendUplink` was called with. -/
def asked? : UplinkObs R → Option (Byte × List Byte)
  | .routed (.uplink _ _ frame) => some (Wfb.portMavlinkTx, frame)
  | .linked (.updated _ result) => some (Wfb.portTunnelTx, Alink.frame result.message)
  | _ => none

/-- What is asked for a port. -/
def askedOn (port : Byte) (asked : List (Byte × List Byte)) : List (List Byte) :=
  asked.filterMap (onPort port)

theorem routed_linked (emitted : List (Link.Obs R)) :
    (emitted.map .linked).filterMap (routed? : UplinkObs R → Option Router.Obs) = [] := by
  refine List.filterMap_eq_nil_iff.mpr fun obs among => ?_
  obtain ⟨linked, -, rfl⟩ := List.mem_map.mp among
  rfl

/-- What is asked for the two ports of the uplink. -/
theorem askedOn_mavlinkTx (trace : List (UplinkObs R)) :
    askedOn Wfb.portMavlinkTx (trace.filterMap asked?) = trace.filterMap uplinked? := by
  rw [askedOn, List.filterMap_filterMap]
  refine List.filterMap_congr fun obs _ => ?_
  cases obs with
  | routed obs => cases obs <;> rfl
  | linked obs => cases obs <;> rfl

theorem askedOn_tunnelTx (trace : List (UplinkObs R)) :
    askedOn Wfb.portTunnelTx (trace.filterMap asked?) = trace.filterMap alinked? := by
  rw [askedOn, List.filterMap_filterMap]
  refine List.filterMap_congr fun obs _ => ?_
  cases obs with
  | routed obs => cases obs <;> rfl
  | linked obs => cases obs <;> rfl

/-! ## A session -/

/-- The frame of a request. -/
def framed (linkId : UInt32) (request : Byte × List Byte) : List Byte :=
  Link.uplinkFrame linkId request.1 request.2

/-- Each request is transmitted. -/
def Transmits (linkId : UInt32) (emitted : List (UplinkObs R)) : Prop :=
  emitted.filterMap transmitted? = (emitted.filterMap asked?).map (framed linkId)

theorem Transmits.idle {linkId : UInt32} {emitted : List (UplinkObs R)}
    (idle : ∀ obs ∈ emitted, transmitted? obs = none ∧ asked? obs = none) :
    Transmits linkId emitted := by
  rw [Transmits, List.filterMap_eq_nil_iff.mpr fun obs among => (idle obs among).1,
    List.filterMap_eq_nil_iff.mpr fun obs among => (idle obs among).2]
  rfl

theorem Transmits.append {linkId : UInt32} {emitted more : List (UplinkObs R)}
    (first : Transmits linkId emitted) (later : Transmits linkId more) :
    Transmits linkId (emitted ++ more) := by
  rw [Transmits, List.filterMap_append, List.filterMap_append, List.map_append, first, later]

theorem Transmits.flatMap {α : Type} {linkId : UInt32} {emit : α → List (UplinkObs R)}
    (each : ∀ item, Transmits linkId (emit item)) (items : List α) :
    Transmits linkId (items.flatMap emit) := by
  induction items with
  | nil => rfl
  | cons item rest ih => exact (each item).append ih

section Session

variable {σ : Type} [Neg R] [OfScientific R]

/-- The station runs on a link, with an adapter. -/
structure InSession (linkId : UInt32) (station : Link.GroundStation σ R) : Prop where
  running : station.running = true
  opened : station.source.isSome = true
  devourer : station.config.source = .devourer
  link : station.config.radio.linkId = linkId

variable {linkId : UInt32} {station : Link.GroundStation σ R}

theorem InSession.sendUplink (session : InSession linkId station) (port : Byte)
    (data : List Byte) :
    station.sendUplink port data = [.transmitted (framed linkId (port, data))] := by
  rw [Link.GroundStation.sendUplink, if_neg, session.link]
  · rfl
  · rintro (closed | other)
    · have opened := session.opened
      rw [Option.isNone_iff_eq_none.mp closed] at opened
      cases opened
    · exact other session.devourer

/-- The router's requests are transmitted. -/
theorem transmits_onRouterObs {path : UplinkPath σ R} (session : InSession linkId path.link)
    (obs : Router.Obs) : Transmits linkId (path.onRouterObs obs) := by
  cases obs with
  | uplink ref source frame =>
      simp only [UplinkPath.onRouterObs, session.sendUplink]
      rfl
  | _ => rfl

theorem routed_onRouterObs (path : UplinkPath σ R) (emitted : List Router.Obs) :
    (emitted.flatMap path.onRouterObs).filterMap routed? = emitted := by
  induction emitted with
  | nil => rfl
  | cons obs rest ih =>
      have first : (path.onRouterObs obs).filterMap routed? = [obs] := by
        cases obs with
        | uplink ref source frame =>
            simp only [UplinkPath.onRouterObs, Link.GroundStation.sendUplink]
            split <;> rfl
        | _ => rfl
      rw [List.flatMap_cons, List.filterMap_append, first, ih]
      rfl

variable [Add R] [Sub R] [Mul R] [Div R] [LT R] [DecidableLT R] [LE R] [DecidableLE R] [BEq R]
  [NatCast R] [IntCast R] (aggregator : Wfb.Aggregator σ) (libm : Alink.Libm R)

/-- The controller's message is transmitted. -/
theorem transmits_report (session : InSession linkId station) (snapshot : Wfb.LinkSnapshot)
    (tick : Link.Tick) :
    InSession linkId (station.report libm snapshot tick).1 ∧
      Transmits linkId ((station.report libm snapshot tick).2.map .linked) := by
  unfold Link.GroundStation.report
  split
  · dsimp only
    split
    · rw [session.sendUplink]
      exact ⟨⟨session.running, session.opened, session.devourer, session.link⟩, rfl⟩
    · exact ⟨session, rfl⟩
  · exact ⟨session, rfl⟩

/-- A session goes on until it is stopped, and transmits what it is asked to. -/
theorem InSession.step (session : InSession linkId station) {event : Link.Event R}
    (goesOn : event ≠ .stop) (called : ∀ data, event ≠ .uplink data) :
    InSession linkId ((Link.machine aggregator libm).step station event).1 ∧
      Transmits linkId (((Link.machine aggregator libm).step station event).2.map .linked) := by
  cases event with
  | start config answers =>
      simp only [Link.machine, Link.GroundStation.start, if_pos session.running]
      exact ⟨session, rfl⟩
  | stop => exact absurd rfl goesOn
  | setAlinkConfig config =>
      exact ⟨⟨session.running, session.opened, session.devourer, session.link⟩, rfl⟩
  | frame data frameMeta =>
      simp only [Link.machine, Link.GroundStation.processFrame]
      split
      · refine ⟨⟨session.running, session.opened, session.devourer, session.link⟩, .idle ?_⟩
        intro obs among
        rw [List.map_map] at among
        obtain ⟨wfb, -, rfl⟩ := List.mem_map.mp among
        exact ⟨rfl, rfl⟩
      · exact ⟨session, rfl⟩
  | tick tick =>
      simp only [Link.machine, Link.GroundStation.statsRound, if_pos session.running]
      obtain ⟨receiver, -, taken⟩ := station.takeSnapshot_eq aggregator tick.snapshotMs
      have still : InSession linkId (station.takeSnapshot aggregator tick.snapshotMs).1 := by
        rw [taken]
        exact ⟨session.running, session.opened, session.devourer, session.link⟩
      exact transmits_report libm still _ tick
  | uplink data => exact absurd rfl (called data)

/-- A step of a session. -/
theorem inSession_step {path : UplinkPath σ R} (session : InSession linkId path.link)
    {event : UplinkEvent R} (goesOn : event ≠ .link .stop) :
    InSession linkId ((uplinkMachine aggregator libm).step path event).1.link ∧
      Transmits linkId ((uplinkMachine aggregator libm).step path event).2 := by
  cases event with
  | router event =>
      exact ⟨session, .flatMap (transmits_onRouterObs session) _⟩
  | link event =>
      simp only [uplinkMachine, UplinkPath.onLinkEvent]
      split
      · exact ⟨session, rfl⟩
      · rename_i called
        refine session.step aggregator libm ?_ called
        rintro rfl
        exact goesOn rfl

/-- **A session transmits what it is asked to**, in order and once each. -/
theorem transmits_run {path : UplinkPath σ R} (session : InSession linkId path.link)
    {events : List (UplinkEvent R)} (goesOn : .link .stop ∉ events) :
    Transmits linkId ((uplinkMachine aggregator libm).outputs path events) := by
  induction events generalizing path with
  | nil => rfl
  | cons event rest ih =>
      have here : event ≠ .link .stop := by
        rintro rfl
        exact goesOn List.mem_cons_self
      obtain ⟨still, first⟩ := inSession_step aggregator libm session here
      rw [Mealy.outputs_cons]
      exact first.append (ih still fun later => goesOn (List.mem_cons_of_mem _ later))

/-- What the router does is a run of the router. -/
theorem routed_run (path : UplinkPath σ R) (events : List (UplinkEvent R)) :
    ∃ routerEvents, Router.machine.run path.mavlink routerEvents =
      (((uplinkMachine aggregator libm).after path events).mavlink,
        ((uplinkMachine aggregator libm).outputs path events).filterMap routed?) := by
  refine (uplinkMachine aggregator libm).invariant_of_step
    (fun path' trace => ∃ routerEvents, Router.machine.run path.mavlink routerEvents =
      (path'.mavlink, trace.filterMap routed?)) ⟨[], rfl⟩ ?_ events
  rintro path' trace event ⟨before, run⟩
  cases event with
  | router event =>
      refine ⟨before ++ [event], ?_⟩
      simp only [uplinkMachine, UplinkPath.onRouterEvent]
      rw [Router.machine.run_append, run, Router.machine.run_singleton, List.filterMap_append,
        routed_onRouterObs]
  | link event =>
      refine ⟨before, ?_⟩
      simp only [uplinkMachine, UplinkPath.onLinkEvent]
      split
      · rw [List.append_nil, run]
      · rw [List.filterMap_append, routed_linked, List.append_nil, run]

end Session

/-! ## The other side -/

/-- What is heard on the other side: the frames that arrive, each with an FCS, and frames of other
links. -/
inductive Airs (linkId : UInt32) : List (List Byte) → List Wfb.Heard → Prop where
  | nil : Airs linkId [] []
  | arrives {frame fcs : List Byte} {frames : List (List Byte)} {heard : List Wfb.Heard}
      (size : fcs.length = 4) (frameMeta : Wfb.FrameMeta) (rest : Airs linkId frames heard) :
      Airs linkId (frame :: frames) ((frame ++ fcs, frameMeta) :: heard)
  | foreign {other : Wfb.Heard} {frames : List (List Byte)} {heard : List Wfb.Heard}
      (foreign : ∀ port, ¬ Wfb.Belongs linkId port other.1) (rest : Airs linkId frames heard) :
      Airs linkId frames (other :: heard)

/-- A port hears what was asked for it. -/
theorem Airs.heard_eq {linkId : UInt32} (narrow : linkId.toNat < 2 ^ 24)
    {requests : List (Byte × List Byte)} {heard : List Wfb.Heard}
    (airs : Airs linkId (requests.map (framed linkId)) heard) (port : Byte) :
    (Wfb.ownFrames linkId port heard).map (fun heard => Wfb.stripped heard.1) =
      askedOn port requests := by
  generalize frames_eq : requests.map (framed linkId) = frames at airs
  induction airs generalizing requests with
  | nil =>
      rw [List.map_eq_nil_iff.mp frames_eq]
      rfl
  | @arrives frame fcs frames heard size frameMeta _ ih =>
      obtain ⟨request, requests, rfl, rfl, rfl⟩ := List.map_eq_cons_iff.mp frames_eq
      have belongs := @Link.belongs_uplinkFrame linkId request.1 request.2 fcs size linkId port
      rw [Nat.mod_eq_of_lt narrow, and_iff_right rfl] at belongs
      rw [Wfb.ownFrames_cons, askedOn, List.filterMap_cons, onPort]
      simp only [framed, belongs]
      split
      · rw [List.map_cons, ih rfl, Link.stripped_uplinkFrame size]
        rfl
      · exact ih rfl
  | foreign foreign _ ih =>
      rw [Wfb.ownFrames_cons, if_neg (foreign port)]
      exact ih frames_eq

/-- The payloads the aggregator of a port is handed. -/
def receivedOn {τ : Type} (aggregator : Wfb.Aggregator τ) (receiver : Wfb.WfbReceiver τ)
    (port : Byte) (heard : List Wfb.Heard) : List (List Byte) :=
  (((Wfb.processFrames aggregator).outputs receiver heard).filterMap
    (Wfb.Obs.handedTo port)).map Wfb.RxPacket.payload

/-- What is received is what was sent, in order and unchanged, apart from what is lost. -/
structure Reaches (lossless : Prop) (sent received : List (List Byte)) : Prop where
  inOrder : received.Sublist sent
  all : lossless → received = sent

section Reaches

variable {linkId : UInt32} {trace : List (UplinkObs R)} {arrived : List (List Byte)}
  {heard : List Wfb.Heard} {τ : Type} {aggregator : Wfb.Aggregator τ}
  {receiver : Wfb.WfbReceiver τ}

/-- What is asked for a port reaches the sink of the port on the other side. -/
theorem reaches (transmits : Transmits linkId trace) (narrow : linkId.toNat < 2 ^ 24)
    (link : receiver.radio.linkId = linkId)
    (arrives : arrived.Sublist (trace.filterMap transmitted?)) (airs : Airs linkId arrived heard)
    {port : Byte} (registered : (receiver.sinks port).isSome = true) :
    Reaches (arrived = trace.filterMap transmitted?) (askedOn port (trace.filterMap asked?))
      (receivedOn aggregator receiver port heard) := by
  have received : receivedOn aggregator receiver port heard =
      (Wfb.ownFrames linkId port heard).map fun heard => Wfb.stripped heard.1 := by
    rw [receivedOn, Wfb.handed_processFrames, if_pos registered, List.map_map, link]
    exact List.map_congr_left fun heard _ => Wfb.payload_rxPacket aggregator heard.1 heard.2
  rw [received]
  constructor
  · rw [transmits] at arrives
    obtain ⟨requests, some, rfl⟩ := List.sublist_map_iff.mp arrives
    rw [airs.heard_eq narrow]
    exact some.filterMap _
  · rintro rfl
    rw [transmits] at airs
    exact airs.heard_eq narrow port

end Reaches

/-- A frame the router passes on in a run is a whole frame. -/
theorem exists_uplinked (events : List Router.Event) {ref : EndpointRef} {source : Source}
    {frame : List Byte} (among : .uplink ref source frame ∈ Router.machine.outputs fresh events) :
    ∃ whole : MavlinkFrame, whole.bytes = frame := by
  obtain ⟨pieces, rest, -, same, whole⟩ := exists_pieces events ref
  have passed := mem_uplinkedBy among
  rw [same] at passed
  exact whole frame passed

section Survives

variable {σ : Type} [Neg R] [OfScientific R] [Add R] [Sub R] [Mul R] [Div R] [LT R]
  [DecidableLT R] [LE R] [DecidableLE R] [BEq R] [NatCast R] [IntCast R]
  (aggregator : Wfb.Aggregator σ) (libm : Alink.Libm R)

/-- What the router passes on are whole frames. -/
theorem exists_frames (before events : List (UplinkEvent R)) {received : List (List Byte)}
    (passed : received.Sublist (((uplinkMachine aggregator libm).outputs
      ((uplinkMachine aggregator libm).after {} before) events).filterMap uplinked?)) :
    ∃ frames : List MavlinkFrame, received = frames.map MavlinkFrame.bytes := by
  obtain ⟨routerEvents, run⟩ := routed_run aggregator libm {} (before ++ events)
  have same : Router.machine.outputs fresh routerEvents =
      ((uplinkMachine aggregator libm).outputs {} (before ++ events)).filterMap routed? :=
    congrArg Prod.snd run
  have whole : received ∈ Set.range (List.map MavlinkFrame.bytes) := by
    rw [Set.range_list_map]
    intro frame among
    obtain ⟨obs, inTrace, uplinked⟩ := List.mem_filterMap.mp (passed.subset among)
    obtain ⟨ref, source, rfl⟩ := eq_of_uplinked uplinked
    have routed : .uplink ref source frame ∈ Router.machine.outputs fresh routerEvents := by
      rw [same, Mealy.outputs_append]
      exact List.mem_filterMap.mpr ⟨_, List.mem_append_right _ inTrace, rfl⟩
    exact exists_uplinked routerEvents routed
  obtain ⟨frames, rfl⟩ := whole
  exact ⟨frames, rfl⟩

/-- **What is sent to the air unit reaches it**, in every session of a station, on a link whose id
fits into 24 bits. In a receiver of the link the aggregators are handed the frames of the ground
control stations and the messages of the adaptive link, each on its port, in order and unchanged,
apart from what is lost on the air, and nothing else. A MAVLink parser finds exactly these frames in
what the aggregator is handed. -/
theorem uplink_survives (before events : List (UplinkEvent R)) {linkId : UInt32}
    (session : InSession linkId ((uplinkMachine aggregator libm).after {} before).link)
    (goesOn : .link .stop ∉ events) (narrow : linkId.toNat < 2 ^ 24) {τ : Type}
    (air : Wfb.Aggregator τ) (receiver : Wfb.WfbReceiver τ)
    (link : receiver.radio.linkId = linkId)
    (mavlink : (receiver.sinks Wfb.portMavlinkTx).isSome = true)
    (tunnel : (receiver.sinks Wfb.portTunnelTx).isSome = true)
    {arrived : List (List Byte)} {heard : List Wfb.Heard}
    (arrives : arrived.Sublist (((uplinkMachine aggregator libm).outputs
      ((uplinkMachine aggregator libm).after {} before) events).filterMap transmitted?))
    (airs : Airs linkId arrived heard) :
    let trace := (uplinkMachine aggregator libm).outputs
      ((uplinkMachine aggregator libm).after {} before) events
    let received := receivedOn air receiver Wfb.portMavlinkTx heard
    Reaches (arrived = trace.filterMap transmitted?) (trace.filterMap uplinked?) received ∧
      Reaches (arrived = trace.filterMap transmitted?) (trace.filterMap alinked?)
        (receivedOn air receiver Wfb.portTunnelTx heard) ∧
      (messagesIn received.flatten).map MavlinkMessage.data = received := by
  intro trace received
  have transmits := transmits_run aggregator libm session goesOn
  have commands : Reaches (arrived = trace.filterMap transmitted?) (trace.filterMap uplinked?)
      received := by
    rw [← askedOn_mavlinkTx]
    exact reaches transmits narrow link arrives airs mavlink
  refine ⟨commands, ?_, ?_⟩
  · rw [← askedOn_tunnelTx]
    exact reaches transmits narrow link arrives airs tunnel
  · obtain ⟨frames, whole⟩ := exists_frames aggregator libm before events commands.inOrder
    rw [whole, ← List.flatMap_def, MavlinkFrame.messagesIn_stream, List.map_map]
    rfl

/-- Nothing of the C library is asked for. -/
def idleLibm : Alink.Libm ℚ where
  pow base _ := base
  lround _ := 0
  toInt _ := 0

/-- A station with an adapter and a UDP server that allows uplink, about to read from it. -/
def serving : List (UplinkEvent ℚ) :=
  [.link (.start {} {}),
    .router (.setEndpoints [{ kind := .udpServer, host := "", allowUplink := true }]),
    .router (.start true), .router .loopTest,
    .router (.loopRebuild [{ socket := some 5, bind := true }]), .router .loopCollect,
    .router (.loopPoll .ready), .router .loopLock]

/-- A heartbeat without a payload comes in. -/
def commanded : List (UplinkEvent ℚ) :=
  [.router (.loopSlot
    { pollin := true, received := some [0xfe, 0, 0, 1, 1, 0, 7, 8], sender := ⟨1, 9⟩ })]

/-- A receiver of the default link in the air. -/
def airReceiver : Wfb.WfbReceiver Wfb.Counters where
  radio := {}
  sinks := fun port =>
    if port = Wfb.portMavlinkTx ∨ port = Wfb.portTunnelTx then
      some { aggregator := {}, callback := true }
    else none

/-- The heartbeat is heard behind a frame that is too short for any link. -/
theorem uplink_survives_heartbeat :
    receivedOn Wfb.plainAggregator airReceiver Wfb.portMavlinkTx
        [([], {}), (Link.uplinkFrame 7669206 Wfb.portMavlinkTx [0xfe, 0, 0, 1, 1, 0, 7, 8] ++
          [0, 0, 0, 0], {})] = [[0xfe, 0, 0, 1, 1, 0, 7, 8]] := by
  have airs : Airs 7669206
      [Link.uplinkFrame 7669206 Wfb.portMavlinkTx [0xfe, 0, 0, 1, 1, 0, 7, 8]]
      [([], {}), (Link.uplinkFrame 7669206 Wfb.portMavlinkTx [0xfe, 0, 0, 1, 1, 0, 7, 8] ++
        [0, 0, 0, 0], {})] :=
    .foreign (fun _ belongs => absurd belongs.long (by decide)) (.arrives rfl {} .nil)
  have goesOn : .link .stop ∉ commanded :=
    List.not_mem_cons_of_ne_of_not_mem nofun List.not_mem_nil
  have session : InSession 7669206
      ((uplinkMachine Wfb.plainAggregator idleLibm).after {} serving).link :=
    ⟨by decide +kernel, by decide +kernel, by decide +kernel, by decide +kernel⟩
  exact (uplink_survives Wfb.plainAggregator idleLibm serving commanded session goesOn (by decide)
    Wfb.plainAggregator airReceiver rfl rfl rfl (.refl _) airs).1.all rfl

end Survives

end Station

end MobileGs
