import MobileGs.Station.ReceivePath

/-!
# What the receive path conveys

In every run of the receive path, the sink of each port passes on what it would pass on alone with
the frames of its port (`sinkComponent`), its payloads are delivered in order and once each
(`delivered_pending`), the depacketiser does with the video payloads what it would do alone
(`videoComponent`), and the mirror is sent what the listener is given (`mirrors_run`).
-/

set_option autoImplicit false

namespace MobileGs

namespace Station

open Mavlink Msp Router

variable {σ : Type} {aggregator : Wfb.Aggregator σ}

/-! ## What stands behind a callback -/

/-- What happens behind the callbacks. -/
def PathObs.Behind : PathObs → Prop
  | .rtp _ => True
  | .mirrored _ => True
  | .ports _ => True
  | _ => False

/-- A view that sees nothing of it. -/
theorem filterMap_behind {β : Type} {view : PathObs → Option β}
    (blind : ∀ obs : PathObs, obs.Behind → view obs = none) {emitted : List PathObs}
    (behind : ∀ obs ∈ emitted, obs.Behind) : emitted.filterMap view = [] :=
  List.filterMap_eq_nil_iff.mpr fun obs among => blind obs (behind obs among)

theorem filterMap_ports {β : Type} {view : PathObs → Option β}
    (blind : ∀ obs, view (.ports obs) = none) (emitted : List Obs) :
    (emitted.map PathObs.ports).filterMap view = [] := by
  rw [List.filterMap_map]
  exact List.filterMap_eq_nil_iff.mpr fun obs _ => blind obs

theorem filterMap_payloads {β : Type} {view : PathObs → Option β}
    (blind : ∀ port data, view (.payload port data) = none)
    (payloads : List (Byte × List Byte)) :
    (payloads.map fun payload => PathObs.payload payload.1 payload.2).filterMap view = [] := by
  rw [List.filterMap_map]
  exact List.filterMap_eq_nil_iff.mpr fun payload _ => blind payload.1 payload.2

theorem sinkEvent?_behind (linkId : UInt32) (port : Byte) (obs : PathObs) (behind : obs.Behind) :
    sinkEvent? linkId port obs = none := by
  cases obs with
  | rtp => rfl
  | mirrored => rfl
  | ports => rfl
  | _ => exact behind.elim

theorem passedOn?_behind (port : Byte) (obs : PathObs) (behind : obs.Behind) :
    passedOn? port obs = none := by
  cases obs with
  | rtp => rfl
  | mirrored => rfl
  | ports => rfl
  | _ => exact behind.elim

theorem delivered?_behind (port : Byte) (obs : PathObs) (behind : obs.Behind) :
    delivered? port obs = none := by
  cases obs with
  | rtp => rfl
  | mirrored => rfl
  | ports => rfl
  | _ => exact behind.elim

theorem videoEvent?_behind (obs : PathObs) (behind : obs.Behind) : videoEvent? obs = none := by
  cases obs with
  | rtp => rfl
  | mirrored => rfl
  | ports => rfl
  | _ => exact behind.elim

namespace ReceivePath

/-- What a callback leaves alone, and that what it emits stands behind it. -/
structure Behind (path path' : ReceivePath σ) (emitted : List PathObs) : Prop where
  receiver : path'.receiver = path.receiver
  mirror : path'.mirror = path.mirror
  pending : path'.pending = path.pending
  emitted : ∀ obs ∈ emitted, obs.Behind

theorem Behind.ports (path : ReceivePath σ) (ports : GroundStation) (emitted : List Obs) :
    Behind path { path with ports } (emitted.map .ports) := by
  refine ⟨rfl, rfl, rfl, fun obs among => ?_⟩
  obtain ⟨_, -, rfl⟩ := List.mem_map.mp among
  trivial

theorem Behind.video (path : ReceivePath σ) (data : List Byte) :
    Behind path (path.onVideoPayload data).1 (path.onVideoPayload data).2 := by
  refine ⟨rfl, rfl, rfl, fun obs among => ?_⟩
  obtain ⟨output, -, given⟩ := List.mem_flatMap.mp among
  cases output with
  | heard packet =>
      obtain rfl := List.mem_singleton.mp given
      trivial
  | nal fragmented unit =>
      rcases List.mem_cons.mp given with rfl | given
      · trivial
      · split at given
        · obtain rfl := List.mem_singleton.mp given
          trivial
        · cases given

theorem Behind.payload (path : ReceivePath σ) (port : Byte) (data : List Byte) (nowMs : UInt64)
    (taken : List (Option ℕ)) :
    Behind path (path.onPayload port data nowMs taken).1
      (path.onPayload port data nowMs taken).2 := by
  unfold onPayload
  split
  · exact .video path data
  · split
    · exact .ports path _ _
    · split
      · exact .ports path _ _
      · exact ⟨rfl, rfl, rfl, fun _ none => (by cases none)⟩

end ReceivePath

open ReceivePath

/-! ## The sinks -/

/-- The link of a path. -/
def Linked (linkId : UInt32) (path : ReceivePath σ) : Prop :=
  ∀ receiver, path.receiver = some receiver →
    receiver.radio.linkId = linkId ∧ receiver.primaryPort = Wfb.portVideo

/-- The sink of a port, if there is one. -/
def ReceivePath.sink (path : ReceivePath σ) (port : Byte) : Option (Wfb.Sink σ) :=
  path.receiver.bind fun receiver => receiver.sinks port

/-- The payloads a sink passes on, as those of its port. -/
theorem filterMap_onPort (port port' : Byte) (packet : Wfb.RxPacket)
    (payloads : List (List Byte)) :
    ((.handed port' packet :: payloads.map (.payload port')).filterMap payload?).filterMap
        (onPort port) = if port' = port then payloads else [] := by
  have all : (.handed port' packet :: payloads.map (.payload port')).filterMap payload? =
      payloads.map fun data => (port', data) := by
    have each : ∀ data : List Byte, payload? (.payload port' data) = some (port', data) :=
      fun _ => rfl
    rw [List.filterMap_cons_none rfl, List.filterMap_map]
    simp only [Function.comp_def, each, List.filterMap_eq_map']
  rw [all, List.filterMap_map]
  simp only [Function.comp_def, onPort]
  split
  · exact List.filterMap_some
  · exact List.filterMap_eq_nil_iff.mpr fun _ _ => rfl

/-- The payloads that one frame makes the sink of a port pass on. -/
theorem payloads_processFrame (receiver : Wfb.WfbReceiver σ) (heard : Wfb.Heard) (port : Byte) :
    ((receiver.processFrame aggregator heard.1 heard.2).2.filterMap payload?).filterMap
        (onPort port) =
      if Wfb.Belongs receiver.radio.linkId port heard.1 then
        ((sinkMachine aggregator).step (receiver.sinks port) (.process heard)).2
      else [] := by
  by_cases foreign : ∀ port', ¬ Wfb.Belongs receiver.radio.linkId port' heard.1
  · rw [receiver.processFrame_of_foreign aggregator foreign, if_neg (foreign port)]
    rfl
  · obtain ⟨port', notNot⟩ := not_forall.mp foreign
    have belongs := not_not.mp notNot
    by_cases same : port' = port
    · subst same
      rw [if_pos belongs]
      cases registered : receiver.sinks port' with
      | none =>
          rw [receiver.processFrame_of_unregistered aggregator belongs registered]
          rfl
      | some sink =>
          rw [receiver.processFrame_of_registered aggregator belongs registered,
            filterMap_onPort, if_pos rfl]
          rfl
    · rw [if_neg fun belongs' => same (belongs.port_unique belongs')]
      cases registered : receiver.sinks port' with
      | none =>
          rw [receiver.processFrame_of_unregistered aggregator belongs registered]
          rfl
      | some sink =>
          rw [receiver.processFrame_of_registered aggregator belongs registered,
            filterMap_onPort, if_neg same]

/-- A call of `ProcessFrame` gives the sinks of its port the frame. -/
theorem sink_frame {linkId : UInt32} {path : ReceivePath σ} (linked : Linked linkId path)
    (heard : Wfb.Heard) (port : Byte) :
    (sinkMachine aggregator).run (path.sink port)
        ((path.frame aggregator heard).2.filterMap (sinkEvent? linkId port)) =
      ((path.frame aggregator heard).1.sink port,
        (path.frame aggregator heard).2.filterMap (passedOn? port)) := by
  unfold frame
  split
  · rename_i receiver receives nothing
    have step := Wfb.frameStep_processFrame aggregator receiver heard
    have payloads := @payloads_processFrame _ aggregator receiver heard port
    have link := (linked receiver receives).1
    have unseen := @filterMap_payloads _ (sinkEvent? linkId port) fun _ _ => rfl
    have passed : ∀ payloads : List (Byte × List Byte),
        (PathObs.heard heard :: payloads.map fun payload =>
          PathObs.payload payload.1 payload.2).filterMap (passedOn? port) =
          payloads.filterMap (onPort port) := by
      intro payloads
      rw [List.filterMap_cons_none rfl, List.filterMap_map]
      rfl
    have sinks : path.sink port = receiver.sinks port := by
      rw [ReceivePath.sink, receives]
      rfl
    rw [passed, payloads, sinks]
    simp only [ReceivePath.sink, Option.bind_some, step.sinks, link]
    by_cases belongs : Wfb.Belongs linkId port heard.1
    · have given : sinkEvent? linkId port (.heard heard) = some (.process heard) :=
        if_pos belongs
      rw [List.filterMap_cons_some given, unseen, Mealy.run_singleton, if_pos belongs,
        if_pos belongs]
      cases receiver.sinks port <;> rfl
    · have given : sinkEvent? linkId port (.heard heard) = none := if_neg belongs
      rw [List.filterMap_cons_none given, unseen, if_neg belongs, if_neg belongs]
      rfl
  · rfl

/-- A snapshot clears the sink of the primary port. -/
theorem sink_snapshot {linkId : UInt32} {path : ReceivePath σ} (linked : Linked linkId path)
    (nowMs : UInt64) (port : Byte) :
    (sinkMachine aggregator).run (path.sink port)
        ((path.snapshot aggregator nowMs).2.filterMap (sinkEvent? linkId port)) =
      ((path.snapshot aggregator nowMs).1.sink port,
        (path.snapshot aggregator nowMs).2.filterMap (passedOn? port)) := by
  unfold snapshot
  split
  · rename_i receiver receives nothing
    have primary := (linked receiver receives).2
    have sinks : path.sink port = receiver.sinks port := by
      rw [ReceivePath.sink, receives]
      rfl
    have silent : [PathObs.snapshot (receiver.takeSnapshot aggregator nowMs).2].filterMap
        (passedOn? port) = [] := rfl
    rw [silent, sinks]
    simp only [ReceivePath.sink, Option.bind_some, Wfb.WfbReceiver.takeSnapshot,
      Wfb.WfbReceiver.resetSignal, Wfb.WfbReceiver.clearStats, primary]
    by_cases video : port = Wfb.portVideo
    · have given : ∀ taken, sinkEvent? linkId port (.snapshot taken) = some .clear :=
        fun _ => if_pos video
      rw [List.filterMap_cons_some (given _), List.filterMap_nil, Mealy.run_singleton, video,
        Function.update_self]
      cases receiver.sinks Wfb.portVideo <;> rfl
    · have given : ∀ taken, sinkEvent? linkId port (.snapshot taken) = none :=
        fun _ => if_neg video
      rw [List.filterMap_cons_none (given _), Function.update_of_ne video]
      rfl
  · rfl

/-- The other steps leave the receiver alone, and show nothing of it. -/
theorem sink_onward {path path' : ReceivePath σ} {emitted : List PathObs}
    (receiver : path'.receiver = path.receiver) (linkId : UInt32) (port : Byte)
    (given : emitted.filterMap (sinkEvent? linkId port) = [])
    (passed : emitted.filterMap (passedOn? port) = []) :
    (sinkMachine aggregator).run (path.sink port)
        (emitted.filterMap (sinkEvent? linkId port)) =
      (path'.sink port, emitted.filterMap (passedOn? port)) := by
  rw [given, passed, ReceivePath.sink, ReceivePath.sink, receiver]
  rfl

theorem sink_deliver (linkId : UInt32) (path : ReceivePath σ) (nowMs : UInt64)
    (taken : List (Option ℕ)) (port : Byte) :
    (sinkMachine aggregator).run (path.sink port)
        ((path.deliver nowMs taken).2.filterMap (sinkEvent? linkId port)) =
      ((path.deliver nowMs taken).1.sink port,
        (path.deliver nowMs taken).2.filterMap (passedOn? port)) := by
  unfold deliver
  split
  · rfl
  · rename_i port' data rest waiting
    split
    · rfl
    · have behind := Behind.payload { path with pending := rest } port' data nowMs taken
      refine sink_onward behind.receiver linkId port ?_ ?_
      · rw [List.filterMap_cons_none rfl]
        exact filterMap_behind (sinkEvent?_behind linkId port) behind.emitted
      · rw [List.filterMap_cons_none rfl]
        exact filterMap_behind (passedOn?_behind port) behind.emitted

theorem sink_datagram (linkId : UInt32) (path : ReceivePath σ) (data : List Byte) (port : Byte) :
    (sinkMachine aggregator).run (path.sink port)
        ((path.datagram data).2.filterMap (sinkEvent? linkId port)) =
      ((path.datagram data).1.sink port,
        (path.datagram data).2.filterMap (passedOn? port)) := by
  unfold datagram
  split
  · rfl
  · have behind := Behind.video path data
    refine sink_onward behind.receiver linkId port ?_ ?_
    · rw [List.filterMap_cons_none rfl]
      exact filterMap_behind (sinkEvent?_behind linkId port) behind.emitted
    · rw [List.filterMap_cons_none rfl]
      exact filterMap_behind (passedOn?_behind port) behind.emitted

theorem Linked.step {linkId : UInt32} {path : ReceivePath σ} (linked : Linked linkId path)
    (event : PathEvent) : Linked linkId ((pathMachine aggregator).step path event).1 := by
  cases event with
  | frame heard =>
      simp only [pathMachine, frame]
      split
      · rename_i receiver receives _
        rintro _ same
        obtain rfl := Option.some.inj same
        have step := Wfb.frameStep_processFrame aggregator receiver heard
        rw [step.radio, step.primaryPort]
        exact linked receiver receives
      · exact linked
  | deliver nowMs taken =>
      simp only [pathMachine, deliver]
      split
      · exact linked
      · split
        · exact linked
        · rw [Linked, (Behind.payload _ _ _ nowMs taken).receiver]
          exact linked
  | datagram data =>
      simp only [pathMachine, datagram]
      split
      · exact linked
      · rw [Linked, (Behind.video path data).receiver]
        exact linked
  | snapshot nowMs =>
      simp only [pathMachine, snapshot]
      split
      · rename_i receiver receives _
        rintro _ same
        obtain rfl := Option.some.inj same
        exact linked receiver receives
      · exact linked
  | setCodec codec => exact linked
  | router event => exact linked

/-- **The sink of a port is a component of the receive path.** -/
def sinkComponent (aggregator : Wfb.Aggregator σ) (linkId : UInt32) (port : Byte) :
    (pathMachine aggregator).Component (Linked linkId) (sinkMachine aggregator) where
  state path := path.sink port
  given := sinkEvent? linkId port
  emitted := passedOn? port
  keeps _ event linked := linked.step event
  follows path event linked :=
    match event with
    | .frame heard => sink_frame linked heard port
    | .deliver nowMs taken => sink_deliver linkId path nowMs taken port
    | .datagram data => sink_datagram linkId path data port
    | .snapshot nowMs => sink_snapshot linked nowMs port
    | .setCodec _ => rfl
    | .router event =>
        have behind := Behind.ports path (path.ports.onRouterEvent event).1
          (path.ports.onRouterEvent event).2
        sink_onward behind.receiver linkId port
          (filterMap_behind (sinkEvent?_behind linkId port) behind.emitted)
          (filterMap_behind (passedOn?_behind port) behind.emitted)

/-! ## The depacketiser -/

/-- What the depacketiser emits, behind the callbacks. -/
theorem rtpOutputs_videoNal (path : ReceivePath σ) (outputs : List Rtp.Output) :
    (outputs.flatMap path.videoNal).filterMap rtpOutput? = outputs := by
  induction outputs with
  | nil => rfl
  | cons output rest ih =>
      rw [List.flatMap_cons, List.filterMap_append, ih]
      have first : (path.videoNal output).filterMap rtpOutput? = [output] := by
        cases output with
        | heard packet => rfl
        | nal fragmented unit =>
            rw [videoNal]
            split <;> rfl
      rw [first]
      rfl

theorem video_push (path : ReceivePath σ) (data : List Byte) {given : PathObs}
    (pushes : videoEvent? given = some (.push data)) (silent : rtpOutput? given = none) :
    Rtp.machine.run path.depacketizer
        ((given :: (path.onVideoPayload data).2).filterMap videoEvent?) =
      ((path.onVideoPayload data).1.depacketizer,
        (given :: (path.onVideoPayload data).2).filterMap rtpOutput?) := by
  rw [List.filterMap_cons_some pushes, List.filterMap_cons_none silent,
    filterMap_behind videoEvent?_behind (Behind.video path data).emitted, Mealy.run_singleton,
    onVideoPayload, rtpOutputs_videoNal]
  rfl

/-- The steps that give the depacketiser nothing. -/
theorem video_idle {path path' : ReceivePath σ} {emitted : List PathObs}
    (still : path'.depacketizer = path.depacketizer)
    (given : emitted.filterMap videoEvent? = []) (silent : emitted.filterMap rtpOutput? = []) :
    Rtp.machine.run path.depacketizer (emitted.filterMap videoEvent?) =
      (path'.depacketizer, emitted.filterMap rtpOutput?) := by
  rw [given, silent, still]
  rfl

theorem video_deliver (path : ReceivePath σ) (nowMs : UInt64) (taken : List (Option ℕ)) :
    Rtp.machine.run path.depacketizer
        ((path.deliver nowMs taken).2.filterMap videoEvent?) =
      ((path.deliver nowMs taken).1.depacketizer,
        (path.deliver nowMs taken).2.filterMap rtpOutput?) := by
  unfold deliver
  split
  · rfl
  · rename_i port data rest waiting
    split
    · rfl
    · unfold onPayload
      by_cases video : port = Wfb.portVideo
      · rw [if_pos video]
        exact video_push { path with pending := rest } data (if_pos video) rfl
      · have given : videoEvent? (.delivered port data) = none := if_neg video
        rw [if_neg video]
        split
        · exact video_idle rfl
            (by rw [List.filterMap_cons_none given, filterMap_ports fun _ => rfl])
            (by rw [List.filterMap_cons_none rfl, filterMap_ports fun _ => rfl])
        · split
          · exact video_idle rfl
              (by rw [List.filterMap_cons_none given, filterMap_ports fun _ => rfl])
              (by rw [List.filterMap_cons_none rfl, filterMap_ports fun _ => rfl])
          · exact video_idle rfl (List.filterMap_cons_none given) rfl

/-- **The depacketiser is a component of the receive path.** -/
def videoComponent (aggregator : Wfb.Aggregator σ) :
    (pathMachine aggregator).Component (fun _ => True) Rtp.machine where
  state path := path.depacketizer
  given := videoEvent?
  emitted := rtpOutput?
  keeps _ _ _ := trivial
  follows path event _ := by
    cases event with
    | frame heard =>
        simp only [pathMachine, frame]
        split
        · exact video_idle rfl
            (by rw [List.filterMap_cons_none rfl, filterMap_payloads fun _ _ => rfl])
            (by rw [List.filterMap_cons_none rfl, filterMap_payloads fun _ _ => rfl])
        · rfl
    | deliver nowMs taken => exact video_deliver path nowMs taken
    | datagram data =>
        simp only [pathMachine, datagram]
        split
        · rfl
        · exact video_push path data rfl rfl
    | snapshot nowMs =>
        simp only [pathMachine, snapshot]
        split <;> rfl
    | setCodec codec => rfl
    | router event =>
        exact video_idle rfl (filterMap_ports (fun _ => rfl) _) (filterMap_ports (fun _ => rfl) _)

/-! ## The payloads on their way -/

/-- The payloads of a port that `ProcessFrame` has not handed over. -/
def ReceivePath.left (path : ReceivePath σ) (port : Byte) : List (List Byte) :=
  path.pending.filterMap (onPort port)

/-- What is delivered was left, and what is left was passed on. -/
theorem delivered_step (path : ReceivePath σ) (event : PathEvent) (port : Byte) :
    ((pathMachine aggregator).step path event).2.filterMap (delivered? port) ++
        ((pathMachine aggregator).step path event).1.left port =
      path.left port ++
        ((pathMachine aggregator).step path event).2.filterMap (passedOn? port) := by
  have idle : ∀ {path' : ReceivePath σ} {emitted : List PathObs}, path'.pending = path.pending →
      emitted.filterMap (delivered? port) = [] → emitted.filterMap (passedOn? port) = [] →
        emitted.filterMap (delivered? port) ++ path'.left port =
          path.left port ++ emitted.filterMap (passedOn? port) := by
    intro path' emitted pending delivered passed
    rw [delivered, passed, ReceivePath.left, ReceivePath.left, pending, List.append_nil]
    rfl
  cases event with
  | frame heard =>
      simp only [pathMachine, frame]
      split
      · rename_i receiver receives nothing
        have before : path.left port = [] := by
          rw [ReceivePath.left, nothing]
          rfl
        rw [before, List.filterMap_cons_none rfl, List.filterMap_cons_none rfl,
          filterMap_payloads fun _ _ => rfl, List.filterMap_map]
        rfl
      · exact idle rfl rfl rfl
  | deliver nowMs taken =>
      simp only [pathMachine, deliver]
      split
      · exact idle rfl rfl rfl
      · rename_i port' data rest waiting
        split
        · exact idle rfl rfl rfl
        · have behind := Behind.payload { path with pending := rest } port' data nowMs taken
          have first : path.left port =
              [((port', data) : Byte × List Byte)].filterMap (onPort port) ++
                rest.filterMap (onPort port) := by
            rw [ReceivePath.left, waiting, ← List.filterMap_append]
            rfl
          have given : [PathObs.delivered port' data].filterMap (delivered? port) =
              [((port', data) : Byte × List Byte)].filterMap (onPort port) := by
            rw [List.filterMap_cons, List.filterMap_cons]
            rfl
          rw [← List.singleton_append, List.filterMap_append, List.filterMap_append, given,
            filterMap_behind (delivered?_behind port) behind.emitted,
            filterMap_behind (passedOn?_behind port) behind.emitted, first, ReceivePath.left,
            behind.pending]
          simp [passedOn?]
  | datagram data =>
      simp only [pathMachine, datagram]
      split
      · exact idle rfl rfl rfl
      · have behind := Behind.video path data
        refine idle behind.pending ?_ ?_
        · rw [List.filterMap_cons_none rfl]
          exact filterMap_behind (delivered?_behind port) behind.emitted
        · rw [List.filterMap_cons_none rfl]
          exact filterMap_behind (passedOn?_behind port) behind.emitted
  | snapshot nowMs =>
      simp only [pathMachine, snapshot]
      split
      · exact idle rfl rfl rfl
      · exact idle rfl rfl rfl
  | setCodec codec => exact idle rfl rfl rfl
  | router event =>
      exact idle rfl (filterMap_ports (fun _ => rfl) _) (filterMap_ports (fun _ => rfl) _)

/-- **The payloads of a port are delivered in order and once each.** -/
theorem delivered_pending (path : ReceivePath σ) (events : List PathEvent) (port : Byte) :
    ((pathMachine aggregator).outputs path events).filterMap (delivered? port) ++
        ((pathMachine aggregator).after path events).left port =
      path.left port ++
        ((pathMachine aggregator).outputs path events).filterMap (passedOn? port) := by
  refine (pathMachine aggregator).invariant_of_step
    (fun path' trace => trace.filterMap (delivered? port) ++ path'.left port =
      path.left port ++ trace.filterMap (passedOn? port)) (List.append_nil _).symm ?_ events
  intro path' trace event before
  rw [List.filterMap_append, List.filterMap_append, List.append_assoc,
    delivered_step path' event port, ← List.append_assoc, before, List.append_assoc]

/-! ## The mirror -/

/-- What is sent to the mirror is what the listener is given, if there is a mirror. -/
def Mirrors (mirror : Bool) (emitted : List PathObs) : Prop :=
  emitted.filterMap mirrored? =
    if mirror then (Rtp.nalsIn (emitted.filterMap rtpOutput?)).map Rtp.NalUnit.data else []

theorem Mirrors.append {mirror : Bool} {emitted more : List PathObs}
    (first : Mirrors mirror emitted) (later : Mirrors mirror more) :
    Mirrors mirror (emitted ++ more) := by
  rw [Mirrors, List.filterMap_append, List.filterMap_append, first, later, Rtp.nalsIn_append]
  split
  · exact List.map_append.symm
  · rfl

/-- Where neither is given anything. -/
theorem Mirrors.idle {mirror : Bool} {emitted : List PathObs}
    (mirrored : emitted.filterMap mirrored? = []) (silent : emitted.filterMap rtpOutput? = []) :
    Mirrors mirror emitted := by
  rw [Mirrors, mirrored, silent]
  split <;> rfl

theorem Mirrors.video (path : ReceivePath σ) (outputs : List Rtp.Output) :
    Mirrors path.mirror (outputs.flatMap path.videoNal) := by
  induction outputs with
  | nil => exact .idle rfl rfl
  | cons output rest ih =>
      rw [List.flatMap_cons]
      refine Mirrors.append ?_ ih
      cases output with
      | heard packet =>
          rw [Mirrors]
          split <;> rfl
      | nal fragmented unit =>
          rw [Mirrors, videoNal]
          split <;> rfl

theorem Mirrors.payload (path : ReceivePath σ) (port : Byte) (data : List Byte) (nowMs : UInt64)
    (taken : List (Option ℕ)) : Mirrors path.mirror (path.onPayload port data nowMs taken).2 := by
  have ports : ∀ emitted : List Obs, Mirrors path.mirror (emitted.map .ports) := fun emitted =>
    .idle (filterMap_ports (fun _ => rfl) emitted) (filterMap_ports (fun _ => rfl) emitted)
  unfold onPayload
  split
  · exact .video path _
  · split
    · exact ports _
    · split
      · exact ports _
      · exact .idle rfl rfl

theorem mirrors_step (path : ReceivePath σ) (event : PathEvent) :
    ((pathMachine aggregator).step path event).1.mirror = path.mirror ∧
      Mirrors path.mirror ((pathMachine aggregator).step path event).2 := by
  cases event with
  | frame heard =>
      simp only [pathMachine, frame]
      split
      · refine ⟨rfl, .idle ?_ ?_⟩
        · rw [List.filterMap_cons_none rfl, filterMap_payloads fun _ _ => rfl]
        · rw [List.filterMap_cons_none rfl, filterMap_payloads fun _ _ => rfl]
      · exact ⟨rfl, .idle rfl rfl⟩
  | deliver nowMs taken =>
      simp only [pathMachine, deliver]
      split
      · exact ⟨rfl, .idle rfl rfl⟩
      · rename_i port data rest waiting
        split
        · exact ⟨rfl, .idle rfl rfl⟩
        · have behind := Behind.payload { path with pending := rest } port data nowMs taken
          have handed := Mirrors.payload { path with pending := rest } port data nowMs taken
          have first : Mirrors path.mirror [.delivered port data] := .idle rfl rfl
          exact ⟨behind.mirror, first.append handed⟩
  | datagram data =>
      simp only [pathMachine, datagram]
      split
      · exact ⟨rfl, .idle rfl rfl⟩
      · have first : Mirrors path.mirror [.datagram data] := .idle rfl rfl
        exact ⟨rfl, first.append (.video path _)⟩
  | snapshot nowMs =>
      simp only [pathMachine, snapshot]
      split
      · exact ⟨rfl, .idle rfl rfl⟩
      · exact ⟨rfl, .idle rfl rfl⟩
  | setCodec codec => exact ⟨rfl, .idle rfl rfl⟩
  | router event =>
      exact ⟨rfl, .idle (filterMap_ports (fun _ => rfl) _) (filterMap_ports (fun _ => rfl) _)⟩

theorem mirrors_run (path : ReceivePath σ) (events : List PathEvent) :
    Mirrors path.mirror ((pathMachine aggregator).outputs path events) := by
  have along := (pathMachine aggregator).invariant_of_step
    (fun path' trace => path'.mirror = path.mirror ∧ Mirrors path.mirror trace)
    ⟨rfl, .idle rfl rfl⟩ ?_ events
  · exact along.2
  · rintro path' trace event ⟨same, mirrors⟩
    obtain ⟨still, more⟩ := @mirrors_step _ aggregator path' event
    rw [same] at still more
    exact ⟨still, mirrors.append more⟩

end Station

end MobileGs
