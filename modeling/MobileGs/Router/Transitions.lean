import MobileGs.Router.Model

/-!
# What the router does in one step

`Transition` lists the effects a step can have, each with its guards, and `machine_step`
says that every step of the machine has one of them. Invariants of the router are proved
by cases on it.

Most of what a run shows are calls to the system. A trace function that reads none of
them is unchanged by `background` observations.

Every endpoint object has its own identity, and what was received before an object was
built was received by another one (`Numbered`).
-/

set_option autoImplicit false

namespace MobileGs

namespace Router

open Mavlink

/-! ## Effects of a step -/

/-- The effects a step can have. -/
inductive Transition (router : MavlinkRouter) : Event → MavlinkRouter → List Obs → Prop where
  | stay (event : Event) : Transition router event router []
  | setEndpoints (endpoints : List MavlinkEndpoint) (free : router.locked = false) :
      Transition router (.setEndpoints endpoints)
        { router with configured := endpoints, endpointsDirty := true }
        [.configured endpoints]
  | answer (pipe success : Bool) :
      Transition router (.start pipe) router [.startReturned success]
  | start (idle : router.stopping = false) (halted : router.running = false) :
      Transition router (.start true) { router with running := true, loop := .head }
        [.started, .startReturned true]
  | stopRequest (running : router.running = true) :
      Transition router .stopRequest { router with running := false, stopping := true } []
  | stopJoin (stopping : router.stopping = true) (ended : router.loop = .returned) :
      Transition router .stopJoin
        { router with endpoints := [], stopping := false, loop := .stopped }
        (router.endpoints.flatMap destroyEndpoint)
  | feedDownlink (data : List Byte) (nowMs : UInt64) (taken : List (Option ℕ))
      (downlinkBytes : ℕ) (downlinkFramer : MavlinkFramer) (telemetry : TelemetryState) :
      Transition router (.feedDownlink data nowMs taken)
        { router with downlinkBytes, downlinkFramer, telemetry }
        (router.feedDownlink data nowMs taken).2
  | move (event : Event) (loop : LoopPoint) (alive : router.loop ≠ .stopped) :
      Transition router event { router with loop } []
  | skipRebuild (calls : List SocketCalls) (turn : router.loop = .rebuild)
      (clean : router.endpointsDirty = false) :
      Transition router (.loopRebuild calls) { router with loop := .collect } [.rebuilt calls]
  | rebuild (calls : List SocketCalls) (turn : router.loop = .rebuild)
      (dirty : router.endpointsDirty = true) :
      Transition router (.loopRebuild calls)
        { router with
          endpointsDirty := false
          endpoints :=
            (openEndpoints router.nextId router.nextSerial router.configured calls).1
          nextId := router.nextId + router.configured.length
          nextSerial := router.nextSerial + router.configured.length
          loop := .collect }
        (.rebuilt calls :: (router.endpoints.flatMap destroyEndpoint ++
          (openEndpoints router.nextId router.nextSerial router.configured calls).2))
  | collect (turn : router.loop = .collect) :
      Transition router .loopCollect
        { router with loop := .poll (router.endpoints.flatMap MavlinkRouter.slotsOf) }
        [.polled ((router.endpoints.flatMap MavlinkRouter.slotsOf).map Slot.socket)]
  | accept (answer : SlotAnswer) (slot : Slot) (rest : List Slot) (toClose : List ℕ)
      (endpoint : Endpoint) (fd : ℕ) (walking : router.loop = .walk (slot :: rest) toClose)
      (found : router.present slot = some endpoint)
      (accepts : MavlinkRouter.slotAction endpoint slot answer = .accept fd) :
      Transition router (.loopSlot answer)
        { router with
          endpoints := MavlinkRouter.update router.endpoints
            { endpoint with clients := endpoint.clients ++ [⟨fd, router.nextSerial⟩] }
          nextSerial := router.nextSerial + 1
          loop := .walk rest toClose }
        [.accepted endpoint.ref ⟨fd, router.nextSerial⟩]
  | handle (answer : SlotAnswer) (slot : Slot) (rest : List Slot) (toClose : List ℕ)
      (endpoint handled : Endpoint) (source : Source) (data : List Byte)
      (passed : List (List Byte)) (walking : router.loop = .walk (slot :: rest) toClose)
      (found : router.present slot = some endpoint)
      (handles : MavlinkRouter.slotAction endpoint slot answer = .handle source data)
      (result : MavlinkRouter.handleEndpointData router.uplink
        (MavlinkRouter.learnPeer endpoint source) data = (handled, passed)) :
      Transition router (.loopSlot answer)
        { router with
          endpoints := MavlinkRouter.update router.endpoints handled
          uplinkBytes := router.uplinkBytes + (passed.map List.length).sum
          loop := .walk rest toClose }
        (.received endpoint.ref source data :: passed.map (.uplink endpoint.ref source))
  | closeClients (toClose : List ℕ) (walked : router.loop = .walk [] toClose) :
      Transition router .loopClose
        { router with
          endpoints := (MavlinkRouter.closeClients router.endpoints toClose).1
          loop := .head }
        (MavlinkRouter.closeClients router.endpoints toClose).2

/-- The walk at one descriptor has the effect of the action taken there. -/
theorem loopSlot_transition (router : MavlinkRouter) (answer : SlotAnswer) :
    Transition router (.loopSlot answer) (router.loopSlot answer).1
      (router.loopSlot answer).2 := by
  unfold MavlinkRouter.loopSlot
  split
  · rename_i slot rest toClose walking
    have alive : router.loop ≠ .stopped := by rw [walking]; exact LoopPoint.noConfusion
    split
    · exact .move _ _ alive
    · rename_i endpoint found
      cases acts : MavlinkRouter.slotAction endpoint slot answer with
      | ignore => exact .move _ _ alive
      | close => exact .move _ _ alive
      | accept fd => exact .accept answer slot rest toClose endpoint fd walking found acts
      | handle source data =>
          exact .handle answer slot rest toClose endpoint _ source data _ walking found acts rfl
  · exact .stay _

/-- **Every step of the machine is a transition.** -/
theorem machine_step (router : MavlinkRouter) (event : Event) :
    Transition router event (machine.step router event).1 (machine.step router event).2 := by
  cases event with
  | setEndpoints endpoints =>
      simp only [machine, MavlinkRouter.setEndpoints]
      split
      · exact .stay _
      · rename_i free
        exact .setEndpoints endpoints (Bool.eq_false_iff.mpr free)
  | start pipe =>
      simp only [machine, MavlinkRouter.start]
      split
      · exact .stay _
      · rename_i idle
        split
        · exact .answer pipe true
        · rename_i halted
          cases pipe with
          | false => exact .answer false false
          | true => exact .start (Bool.eq_false_iff.mpr idle) (Bool.eq_false_iff.mpr halted)
  | stopRequest =>
      simp only [machine, MavlinkRouter.stopRequest]
      split
      · rename_i running
        exact .stopRequest running
      · exact .stay _
  | stopJoin =>
      simp only [machine, MavlinkRouter.stopJoin]
      split
      · rename_i ends
        simp only [Bool.and_eq_true, decide_eq_true_eq] at ends
        exact .stopJoin ends.1 ends.2
      · exact .stay _
  | feedDownlink data nowMs taken =>
      have effect := @Transition.feedDownlink router data nowMs taken
        (router.feedDownlink data nowMs taken).1.downlinkBytes
        (router.feedDownlink data nowMs taken).1.downlinkFramer
        (router.feedDownlink data nowMs taken).1.telemetry
      have same : (router.feedDownlink data nowMs taken).1 =
          { router with
            downlinkBytes := (router.feedDownlink data nowMs taken).1.downlinkBytes
            downlinkFramer := (router.feedDownlink data nowMs taken).1.downlinkFramer
            telemetry := (router.feedDownlink data nowMs taken).1.telemetry } := by
        unfold MavlinkRouter.feedDownlink
        split <;> rfl
      rw [← same] at effect
      exact effect
  | loopTest =>
      simp only [machine, MavlinkRouter.loopTest]
      split
      · rename_i turn
        exact .move _ _ (by rw [turn]; exact LoopPoint.noConfusion)
      · exact .stay _
  | loopRebuild calls =>
      simp only [machine, MavlinkRouter.loopRebuild, MavlinkRouter.rebuildEndpoints]
      split
      · rename_i turn
        cases flag : router.endpointsDirty with
        | false => exact .skipRebuild calls turn flag
        | true => exact .rebuild calls turn flag
      · exact .stay _
  | loopCollect =>
      simp only [machine, MavlinkRouter.loopCollect]
      split
      · rename_i turn
        exact .collect turn
      · exact .stay _
  | loopPoll result =>
      simp only [machine, MavlinkRouter.loopPoll]
      split
      · rename_i slots turn
        exact .move _ _ (by rw [turn]; exact LoopPoint.noConfusion)
      · exact .stay _
  | loopLock =>
      simp only [machine, MavlinkRouter.loopLock]
      split
      · rename_i slots turn
        exact .move _ _ (by rw [turn]; exact LoopPoint.noConfusion)
      · exact .stay _
  | loopSlot answer => exact loopSlot_transition router answer
  | loopClose =>
      simp only [machine, MavlinkRouter.loopClose]
      split
      · rename_i toClose walked
        exact .closeClients toClose walked
      · exact .stay _

/-- The loop exists only while the router runs or waits to stop. -/
theorem MavlinkRouter.stopping_of_alive {router : MavlinkRouter}
    (stopped : router.running = false → router.stopping = false → router.loop = .stopped)
    (alive : router.loop ≠ .stopped) (halted : router.running = false) :
    router.stopping = true := by
  cases stopping : router.stopping with
  | true => rfl
  | false => exact absurd (stopped halted stopping) alive

/-- The uplink callback stays as it is. -/
theorem Transition.uplink {router router' : MavlinkRouter} {event : Event} {emitted : List Obs}
    (step : Transition router event router' emitted) : router'.uplink = router.uplink := by
  cases step <;> rfl

/-- What a step is about to receive, and the endpoint and source it comes from. -/
def delivery (router : MavlinkRouter) : Event → Option (Endpoint × Source × List Byte)
  | .loopSlot answer =>
      match router.loop with
      | .walk (slot :: _) _ =>
          match router.present slot with
          | none => none
          | some endpoint =>
              match MavlinkRouter.slotAction endpoint slot answer with
              | .handle source data => some (endpoint, source, data)
              | _ => none
      | _ => none
  | _ => none

theorem delivery_handle {router : MavlinkRouter} {answer : SlotAnswer} {slot : Slot}
    {rest : List Slot} {toClose : List ℕ} {endpoint : Endpoint} {source : Source}
    {data : List Byte} (walking : router.loop = .walk (slot :: rest) toClose)
    (found : router.present slot = some endpoint)
    (handles : MavlinkRouter.slotAction endpoint slot answer = .handle source data) :
    delivery router (.loopSlot answer) = some (endpoint, source, data) := by
  simp only [delivery, walking, found, handles]

/-! ## Observations no statement reads -/

/-- Calls to the system, the downlink and answers to callers. -/
def Obs.background : Obs → Bool
  | .configured _ => false
  | .started => false
  | .rebuilt _ => false
  | .received _ _ _ => false
  | .uplink _ _ _ => false
  | _ => true

/-- Opening and closing sockets. -/
def Obs.onSockets : Obs → Bool
  | .opened _ => true
  | .closed _ => true
  | _ => false

theorem Obs.background_of_onSockets {obs : Obs} (sockets : obs.onSockets = true) :
    obs.background = true := by
  cases obs with
  | opened => rfl
  | closed => rfl
  | _ => cases sockets

theorem sockets_destroy (endpoints : List Endpoint) :
    ∀ obs ∈ endpoints.flatMap destroyEndpoint, obs.onSockets = true := by
  intro obs member
  obtain ⟨endpoint, -, destroyed⟩ := List.mem_flatMap.mp member
  obtain ⟨socket, -, rfl⟩ := List.mem_map.mp destroyed
  rfl

theorem sockets_opening (serial : ℕ) (calls : SocketCalls) (opened : Option Endpoint) :
    ∀ obs ∈ openingObs serial calls opened, obs.onSockets = true := by
  intro obs member
  unfold openingObs at member
  split at member
  · cases member
  · rcases List.mem_cons.mp member with rfl | member
    · rfl
    · split at member
      · rw [List.mem_singleton.mp member]
        rfl
      · cases member

theorem sockets_openEndpoints (id serial : ℕ) (configured : List MavlinkEndpoint)
    (calls : List SocketCalls) :
    ∀ obs ∈ (openEndpoints id serial configured calls).2, obs.onSockets = true := by
  induction configured generalizing id serial calls with
  | nil => intro obs member; cases member
  | cons config rest ih =>
      intro obs member
      simp only [openEndpoints] at member
      split at member
      · rcases List.mem_append.mp member with member | member
        · exact sockets_opening _ _ _ obs member
        · exact ih _ _ _ obs member
      · exact ih _ _ _ obs member

/-- What a rebuild shows beyond itself. -/
theorem sockets_rebuild (router : MavlinkRouter) (calls : List SocketCalls) :
    ∀ obs ∈ router.endpoints.flatMap destroyEndpoint ++
      (openEndpoints router.nextId router.nextSerial router.configured calls).2,
      obs.onSockets = true := by
  intro obs member
  rcases List.mem_append.mp member with member | member
  · exact sockets_destroy _ obs member
  · exact sockets_openEndpoints _ _ _ _ obs member

theorem sockets_closeClient (fd : ℕ) (endpoints : List Endpoint) :
    ∀ obs ∈ (MavlinkRouter.closeClient fd endpoints).2, obs.onSockets = true := by
  induction endpoints with
  | nil => intro obs member; cases member
  | cons endpoint rest ih =>
      intro obs member
      simp only [MavlinkRouter.closeClient] at member
      split at member
      · rw [List.mem_singleton.mp member]
        rfl
      · exact ih obs member

theorem sockets_closeClients (toClose : List ℕ) (endpoints : List Endpoint) :
    ∀ obs ∈ (MavlinkRouter.closeClients endpoints toClose).2, obs.onSockets = true := by
  induction toClose generalizing endpoints with
  | nil => intro obs member; cases member
  | cons fd rest ih =>
      intro obs member
      simp only [MavlinkRouter.closeClients] at member
      rcases List.mem_append.mp member with member | member
      · exact sockets_closeClient fd endpoints obs member
      · exact ih _ obs member

theorem background_destroy (endpoints : List Endpoint) :
    ∀ obs ∈ endpoints.flatMap destroyEndpoint, obs.background = true :=
  fun obs member => Obs.background_of_onSockets (sockets_destroy endpoints obs member)

theorem background_rebuild (router : MavlinkRouter) (calls : List SocketCalls) :
    ∀ obs ∈ router.endpoints.flatMap destroyEndpoint ++
      (openEndpoints router.nextId router.nextSerial router.configured calls).2,
      obs.background = true :=
  fun obs member => Obs.background_of_onSockets (sockets_rebuild router calls obs member)

theorem background_closeClients (toClose : List ℕ) (endpoints : List Endpoint) :
    ∀ obs ∈ (MavlinkRouter.closeClients endpoints toClose).2, obs.background = true :=
  fun obs member => Obs.background_of_onSockets (sockets_closeClients toClose endpoints obs member)

theorem background_feedDownlink (router : MavlinkRouter) (data : List Byte) (nowMs : UInt64)
    (taken : List (Option ℕ)) :
    ∀ obs ∈ (router.feedDownlink data nowMs taken).2, obs.background = true := by
  intro obs member
  unfold MavlinkRouter.feedDownlink at member
  split at member
  · cases member
  · rcases List.mem_append.mp member with member | member
    · obtain ⟨message, -, rfl⟩ := List.mem_map.mp member
      rfl
    · obtain ⟨send, -, rfl⟩ := List.mem_map.mp member
      rfl

/-! ## Sends -/

/-- Where `FeedDownlink` sends, in order. -/
def MavlinkRouter.sends (router : MavlinkRouter) : List (EndpointRef × Source) :=
  router.endpoints.flatMap fun endpoint =>
    (MavlinkRouter.destinations endpoint).map fun destination => (endpoint.ref, destination)

/-- A step that sends is a call of `FeedDownlink`, and leaves the endpoints alone. -/
theorem Transition.sent {router router' : MavlinkRouter} {event : Event} {emitted : List Obs}
    (step : Transition router event router' emitted) {ref : EndpointRef} {destination : Source}
    {data : List Byte} {taken : Option ℕ} (member : .sent ref destination data taken ∈ emitted) :
    router'.endpoints = router.endpoints ∧ (ref, destination) ∈ router.sends ∧
      ∃ nowMs answers, event = .feedDownlink data nowMs answers := by
  cases step with
  | stay => cases member
  | setEndpoints => simp at member
  | answer => simp at member
  | start => simp at member
  | stopRequest => cases member
  | stopJoin => exact Bool.noConfusion (sockets_destroy _ _ member)
  | feedDownlink bytes nowMs answers =>
      unfold MavlinkRouter.feedDownlink at member
      split at member
      · cases member
      · rcases List.mem_append.mp member with member | member
        · obtain ⟨message, -, impossible⟩ := List.mem_map.mp member
          cases impossible
        · obtain ⟨⟨send, index⟩, among, same⟩ := List.mem_map.mp member
          cases same
          exact ⟨rfl, List.fst_mem_of_mem_zipIdx among, nowMs, answers, rfl⟩
  | move => cases member
  | skipRebuild => simp at member
  | rebuild calls =>
      rcases List.mem_cons.mp member with member | member
      · cases member
      · exact Bool.noConfusion (sockets_rebuild router calls _ member)
  | collect => simp at member
  | accept => simp at member
  | handle => simp at member
  | closeClients toClose => exact Bool.noConfusion (sockets_closeClients _ _ _ member)

/-! ## Changing one endpoint object -/

/-- What the replacement keeps of the objects with its identity, the list keeps. -/
theorem map_update {β : Type} (f : Endpoint → β) {endpoints : List Endpoint}
    {endpoint : Endpoint}
    (keeps : ∀ other ∈ endpoints, other.id = endpoint.id → f endpoint = f other) :
    (MavlinkRouter.update endpoints endpoint).map f = endpoints.map f := by
  unfold MavlinkRouter.update
  rw [List.map_map]
  apply List.map_congr_left
  intro other member
  by_cases same : other.id = endpoint.id
  · rw [Function.comp_apply, if_pos same, keeps other member same]
  · rw [Function.comp_apply, if_neg same]

theorem map_id_update (endpoints : List Endpoint) (endpoint : Endpoint) :
    (MavlinkRouter.update endpoints endpoint).map Endpoint.id = endpoints.map Endpoint.id :=
  map_update Endpoint.id fun _ _ same => same.symm

theorem mem_update {endpoints : List Endpoint} {endpoint other : Endpoint}
    (member : other ∈ MavlinkRouter.update endpoints endpoint) :
    other = endpoint ∨ other ∈ endpoints ∧ other.id ≠ endpoint.id := by
  obtain ⟨original, origin, rfl⟩ := List.mem_map.mp member
  by_cases same : original.id = endpoint.id
  · exact .inl (if_pos same)
  · rw [if_neg same]
    exact .inr ⟨origin, same⟩

theorem present_mem {router : MavlinkRouter} {slot : Slot} {endpoint : Endpoint}
    (found : router.present slot = some endpoint) : endpoint ∈ router.endpoints :=
  List.mem_of_find?_eq_some found

theorem present_id {router : MavlinkRouter} {slot : Slot} {endpoint : Endpoint}
    (found : router.present slot = some endpoint) : endpoint.id = slot.endpoint := by
  have held := List.find?_some found
  exact of_decide_eq_true held

/-- Two objects of a list with distinct identities that have the same one are equal. -/
theorem eq_of_id_eq {endpoints : List Endpoint} (distinct : (endpoints.map Endpoint.id).Nodup)
    {endpoint other : Endpoint} (member : endpoint ∈ endpoints) (member' : other ∈ endpoints)
    (same : other.id = endpoint.id) : other = endpoint :=
  List.inj_on_of_nodup_map distinct member' member same

/-- Closing clients keeps whatever does not depend on the clients. -/
theorem map_closeClient {β : Type} (f : Endpoint → β)
    (ignores : ∀ endpoint clients, f { endpoint with clients } = f endpoint) (fd : ℕ)
    (endpoints : List Endpoint) :
    (MavlinkRouter.closeClient fd endpoints).1.map f = endpoints.map f := by
  induction endpoints with
  | nil => rfl
  | cons endpoint rest ih =>
      simp only [MavlinkRouter.closeClient]
      split
      · simp only [List.map_cons, ignores]
      · simp only [List.map_cons, ih]

theorem map_closeClients {β : Type} (f : Endpoint → β)
    (ignores : ∀ endpoint clients, f { endpoint with clients } = f endpoint) (toClose : List ℕ)
    (endpoints : List Endpoint) :
    (MavlinkRouter.closeClients endpoints toClose).1.map f = endpoints.map f := by
  induction toClose generalizing endpoints with
  | nil => rfl
  | cons fd rest ih =>
      simp only [MavlinkRouter.closeClients]
      rw [ih, map_closeClient f ignores]

/-- A datagram changes the peer of an endpoint at most. -/
theorem learnPeer_keeps {β : Type} (f : Endpoint → β)
    (ignores : ∀ endpoint peer havePeer, f { endpoint with peer, havePeer } = f endpoint)
    (endpoint : Endpoint) (source : Source) :
    f (MavlinkRouter.learnPeer endpoint source) = f endpoint := by
  unfold MavlinkRouter.learnPeer
  split
  · exact ignores _ _ _
  · rfl

@[simp] theorem learnPeer_id (endpoint : Endpoint) (source : Source) :
    (MavlinkRouter.learnPeer endpoint source).id = endpoint.id :=
  learnPeer_keeps Endpoint.id (fun _ _ _ => rfl) endpoint source

@[simp] theorem learnPeer_config (endpoint : Endpoint) (source : Source) :
    (MavlinkRouter.learnPeer endpoint source).config = endpoint.config :=
  learnPeer_keeps Endpoint.config (fun _ _ _ => rfl) endpoint source

@[simp] theorem learnPeer_framer (endpoint : Endpoint) (source : Source) :
    (MavlinkRouter.learnPeer endpoint source).framer = endpoint.framer :=
  learnPeer_keeps Endpoint.framer (fun _ _ _ => rfl) endpoint source

/-- Where uplink is not allowed, nothing is passed on. -/
theorem handled_forbidden {uplink : Bool} {endpoint handled : Endpoint} {source : Source}
    {data : List Byte} {passed : List (List Byte)}
    (result : MavlinkRouter.handleEndpointData uplink
      (MavlinkRouter.learnPeer endpoint source) data = (handled, passed))
    (forbidden : endpoint.config.allowUplink = false) : passed = [] := by
  rw [MavlinkRouter.handleEndpointData, learnPeer_config, forbidden] at result
  exact (Prod.mk.inj result).2.symm

/-- Where uplink is allowed, the frames that end in the data are passed on. -/
theorem handled_allowed {endpoint handled : Endpoint} {source : Source} {data : List Byte}
    {passed : List (List Byte)}
    (result : MavlinkRouter.handleEndpointData true
      (MavlinkRouter.learnPeer endpoint source) data = (handled, passed))
    (allowed : endpoint.config.allowUplink = true) :
    handled.framer.buffer = residue (endpoint.framer.buffer ++ data) ∧
      passed = (messagesIn (endpoint.framer.buffer ++ data)).map MavlinkMessage.data := by
  rw [MavlinkRouter.handleEndpointData, learnPeer_config, learnPeer_framer, allowed,
    if_neg (by decide)] at result
  obtain ⟨rfl, rfl⟩ := Prod.mk.inj result
  refine ⟨push_buffer _ _, ?_⟩
  rw [push_emits rfl]
  rfl

/-- Handling data changes the framer of an endpoint at most. -/
theorem handled_unframed {β : Type} (f : Endpoint → β)
    (ignores : ∀ endpoint framer, f { endpoint with framer } = f endpoint) {uplink : Bool}
    {endpoint handled : Endpoint} {data : List Byte} {passed : List (List Byte)}
    (result : MavlinkRouter.handleEndpointData uplink endpoint data = (handled, passed)) :
    f handled = f endpoint := by
  unfold MavlinkRouter.handleEndpointData at result
  split at result
  · rw [← (Prod.mk.inj result).1]
  · rw [← (Prod.mk.inj result).1]
    exact ignores _ _

/-- Handling data changes neither the identity nor the configuration of the endpoint. -/
theorem handled_ref {uplink : Bool} {endpoint handled : Endpoint} {source : Source}
    {data : List Byte} {passed : List (List Byte)}
    (result : MavlinkRouter.handleEndpointData uplink
      (MavlinkRouter.learnPeer endpoint source) data = (handled, passed)) :
    handled.ref = endpoint.ref :=
  (handled_unframed Endpoint.ref (fun _ _ => rfl) result).trans
    (learnPeer_keeps Endpoint.ref (fun _ _ _ => rfl) endpoint source)

/-! ## Identities -/

/-- Live endpoint objects have distinct identities, handed out before, and everything
received went to an identity handed out before. -/
structure Numbered (router : MavlinkRouter) (trace : List Obs) : Prop where
  distinct : (router.endpoints.map Endpoint.id).Nodup
  known : ∀ id ∈ router.endpoints.map Endpoint.id, id < router.nextId
  past : ∀ ref source data, Obs.received ref source data ∈ trace → ref.id < router.nextId

theorem openEndpoint_id {id serial : ℕ} {config : MavlinkEndpoint} {calls : SocketCalls}
    {endpoint : Endpoint} (opened : openEndpoint id serial config calls = some endpoint) :
    endpoint.id = id ∧ endpoint.config = config ∧ endpoint.framer = {} := by
  unfold openEndpoint at opened
  grind

/-- The objects one rebuild makes are numbered in order from the first identity. -/
theorem openEndpoints_id (id serial : ℕ) (configured : List MavlinkEndpoint)
    (calls : List SocketCalls) :
    ((openEndpoints id serial configured calls).1.map Endpoint.id).Nodup ∧
      ∀ endpoint ∈ (openEndpoints id serial configured calls).1,
        id ≤ endpoint.id ∧ endpoint.id < id + configured.length := by
  induction configured generalizing id serial calls with
  | nil => exact ⟨List.nodup_nil, fun _ member => by cases member⟩
  | cons config rest ih =>
      obtain ⟨distinct, bounds⟩ := ih (id + 1) (serial + 1) calls.tail
      have later : ∀ endpoint ∈ (openEndpoints (id + 1) (serial + 1) rest calls.tail).1,
          id < endpoint.id ∧ endpoint.id < id + (config :: rest).length := by
        intro endpoint member
        have := bounds endpoint member
        rw [List.length_cons]
        omega
      simp only [openEndpoints]
      split
      · cases opened : openEndpoint id serial config (calls.headD {}) with
        | none =>
            refine ⟨distinct, ?_⟩
            intro endpoint member
            have := later endpoint member
            omega
        | some first =>
            obtain ⟨first_id, -, -⟩ := openEndpoint_id opened
            simp only [Option.toList_some, List.singleton_append, List.map_cons,
              List.nodup_cons]
            refine ⟨⟨?_, distinct⟩, ?_⟩
            · intro member
              obtain ⟨other, member, same⟩ := List.mem_map.mp member
              have := later other member
              omega
            · intro endpoint member
              rcases List.mem_cons.mp member with rfl | member
              · rw [first_id, List.length_cons]
                omega
              · have := later endpoint member
                omega
      · refine ⟨distinct, ?_⟩
        intro endpoint member
        have := later endpoint member
        omega

/-- What holds of every object an entry becomes holds of the objects of a rebuild. -/
theorem forall_openEndpoints {holds : Endpoint → Prop}
    (opens : ∀ id serial config calls endpoint,
      openEndpoint id serial config calls = some endpoint → holds endpoint)
    {id serial : ℕ} {configured : List MavlinkEndpoint} {calls : List SocketCalls}
    {endpoint : Endpoint} (member : endpoint ∈ (openEndpoints id serial configured calls).1) :
    holds endpoint := by
  induction configured generalizing id serial calls with
  | nil => cases member
  | cons config rest ih =>
      simp only [openEndpoints] at member
      split at member
      · rcases List.mem_append.mp member with first | later
        · exact opens _ _ _ _ _ (Option.mem_toList.mp first)
        · exact ih later
      · exact ih member

/-- The objects one rebuild makes have fresh framers. -/
theorem openEndpoints_framer {id serial : ℕ} {configured : List MavlinkEndpoint}
    {calls : List SocketCalls} {endpoint : Endpoint}
    (member : endpoint ∈ (openEndpoints id serial configured calls).1) :
    endpoint.framer = {} :=
  forall_openEndpoints (fun _ _ _ _ _ opened => (openEndpoint_id opened).2.2) member

/-- A step that keeps the objects' identities and receives nothing keeps the numbering. -/
theorem Numbered.frame {router router' : MavlinkRouter} {trace emitted : List Obs}
    (numbered : Numbered router trace)
    (same : router'.endpoints.map Endpoint.id = router.endpoints.map Endpoint.id)
    (counter : router'.nextId = router.nextId)
    (silent : ∀ ref source data, Obs.received ref source data ∉ emitted) :
    Numbered router' (trace ++ emitted) where
  distinct := by rw [same]; exact numbered.distinct
  known := by rw [same, counter]; exact numbered.known
  past := by
    intro ref source data member
    rw [counter]
    rcases List.mem_append.mp member with member | member
    · exact numbered.past ref source data member
    · exact absurd member (silent ref source data)

theorem silent_of_background {emitted : List Obs}
    (background : ∀ obs ∈ emitted, obs.background = true) (ref : EndpointRef)
    (source : Source) (data : List Byte) : Obs.received ref source data ∉ emitted :=
  fun member => Bool.noConfusion (background _ member)

/-- Every step keeps the numbering. -/
theorem Numbered.keeps {router router' : MavlinkRouter} {event : Event}
    {trace emitted : List Obs} (numbered : Numbered router trace)
    (step : Transition router event router' emitted) : Numbered router' (trace ++ emitted) := by
  cases step with
  | stay => exact numbered.frame rfl rfl (fun _ _ _ => List.not_mem_nil)
  | setEndpoints => exact numbered.frame rfl rfl (fun _ _ _ => by simp)
  | answer => exact numbered.frame rfl rfl (fun _ _ _ => by simp)
  | start => exact numbered.frame rfl rfl (fun _ _ _ => by simp)
  | stopRequest => exact numbered.frame rfl rfl (fun _ _ _ => List.not_mem_nil)
  | stopJoin =>
      have silent := silent_of_background (background_destroy router.endpoints)
      refine ⟨List.nodup_nil, fun _ member => absurd member List.not_mem_nil, ?_⟩
      intro ref source data member
      rcases List.mem_append.mp member with member | member
      · exact numbered.past ref source data member
      · exact absurd member (silent ref source data)
  | feedDownlink data nowMs taken =>
      exact numbered.frame rfl rfl
        (silent_of_background (background_feedDownlink router data nowMs taken))
  | move => exact numbered.frame rfl rfl (fun _ _ _ => List.not_mem_nil)
  | skipRebuild => exact numbered.frame rfl rfl (fun _ _ _ => by simp)
  | rebuild calls =>
      obtain ⟨distinct, bounds⟩ :=
        openEndpoints_id router.nextId router.nextSerial router.configured calls
      refine ⟨distinct, ?_, ?_⟩
      · intro id member
        obtain ⟨endpoint, opened, rfl⟩ := List.mem_map.mp member
        exact (bounds endpoint opened).2
      · intro ref source data member
        refine Nat.lt_of_lt_of_le ?_ (Nat.le_add_right _ _)
        rcases List.mem_append.mp member with member | member
        · exact numbered.past ref source data member
        · rcases List.mem_cons.mp member with member | member
          · cases member
          · exact absurd member (silent_of_background (background_rebuild router calls) _ _ _)
  | collect => exact numbered.frame rfl rfl (fun _ _ _ => by simp)
  | accept => exact numbered.frame (map_id_update _ _) rfl (fun _ _ _ => by simp)
  | handle answer slot rest toClose endpoint handled source data passed walking found =>
      refine ⟨?_, ?_, ?_⟩
      · rw [map_id_update]
        exact numbered.distinct
      · rw [map_id_update]
        exact numbered.known
      · intro ref origin bytes member
        rcases List.mem_append.mp member with member | member
        · exact numbered.past ref origin bytes member
        · rcases List.mem_cons.mp member with member | member
          · cases member
            exact numbered.known _ (List.mem_map_of_mem (present_mem found))
          · obtain ⟨frame, -, impossible⟩ := List.mem_map.mp member
            cases impossible
  | closeClients toClose =>
      exact numbered.frame (map_closeClients Endpoint.id (fun _ _ => rfl) _ _) rfl
        (silent_of_background (background_closeClients _ _))

/-- Replacing an object that is present keeps what the replacement keeps. -/
theorem Numbered.map_update {β : Type} (f : Endpoint → β) {router : MavlinkRouter}
    {trace : List Obs} (numbered : Numbered router trace) {slot : Slot}
    {endpoint replacement : Endpoint} (found : router.present slot = some endpoint)
    (same : replacement.id = endpoint.id) (keeps : f replacement = f endpoint) :
    (MavlinkRouter.update router.endpoints replacement).map f = router.endpoints.map f := by
  apply Router.map_update f
  intro other member identity
  rw [eq_of_id_eq numbered.distinct (present_mem found) member (identity.trans same), keeps]

/-- Handling data keeps what does not depend on the framer and the peer. -/
theorem Numbered.map_handled {β : Type} (f : Endpoint → β) {router : MavlinkRouter}
    {trace : List Obs} (numbered : Numbered router trace) {slot : Slot}
    {endpoint handled : Endpoint} {uplink : Bool} {source : Source} {data : List Byte}
    {passed : List (List Byte)} (found : router.present slot = some endpoint)
    (result : MavlinkRouter.handleEndpointData uplink
      (MavlinkRouter.learnPeer endpoint source) data = (handled, passed))
    (unframed : ∀ endpoint framer, f { endpoint with framer } = f endpoint)
    (keeps : ∀ endpoint peer havePeer, f { endpoint with peer, havePeer } = f endpoint) :
    (MavlinkRouter.update router.endpoints handled).map f = router.endpoints.map f :=
  numbered.map_update f found (congrArg EndpointRef.id (handled_ref result))
    ((handled_unframed f unframed result).trans (learnPeer_keeps f keeps endpoint source))

theorem numbered_fresh : Numbered fresh [] where
  distinct := List.nodup_nil
  known := fun _ member => by cases member
  past := fun _ _ _ member => by cases member

/-! ## The data endpoints hold -/

/-- What a step does to the data of the endpoints. A rebuild starts afresh, a delivery is handled
by one endpoint, and every other step changes clients at most. -/
inductive DataStep (router : MavlinkRouter) (event : Event) (router' : MavlinkRouter)
    (emitted : List Obs) : Prop where
  | rest
      (live : ∀ {β : Type} (f : Endpoint → β),
        (∀ endpoint clients, f { endpoint with clients } = f endpoint) →
          ∀ held ∈ router'.endpoints.map f, held ∈ router.endpoints.map f)
      (bytes : router'.uplinkBytes = router.uplinkBytes)
      (unheard : ∀ ref source data, Obs.received ref source data ∉ emitted)
      (silent : ∀ ref source frame, Obs.uplink ref source frame ∉ emitted)
  | rebuild (calls : List SocketCalls) (is : event = .loopRebuild calls)
      (turn : router.loop = .rebuild) (dirty : router.endpointsDirty = true)
      (endpoints : router'.endpoints =
        (openEndpoints router.nextId router.nextSerial router.configured calls).1)
      (bytes : router'.uplinkBytes = router.uplinkBytes)
      (unheard : ∀ ref source data, Obs.received ref source data ∉ emitted)
      (silent : ∀ ref source frame, Obs.uplink ref source frame ∉ emitted)
  | handle (endpoint handled : Endpoint) (source : Source) (data : List Byte)
      (passed : List (List Byte)) (member : endpoint ∈ router.endpoints)
      (delivered : delivery router event = some (endpoint, source, data))
      (result : MavlinkRouter.handleEndpointData router.uplink
        (MavlinkRouter.learnPeer endpoint source) data = (handled, passed))
      (endpoints : router'.endpoints = MavlinkRouter.update router.endpoints handled)
      (bytes : router'.uplinkBytes = router.uplinkBytes + (passed.map List.length).sum)
      (shows : emitted =
        .received endpoint.ref source data :: passed.map (.uplink endpoint.ref source))

/-- A step that keeps all but the clients, and whose observations are background. -/
theorem DataStep.background {router router' : MavlinkRouter} {event : Event}
    {emitted : List Obs}
    (live : ∀ {β : Type} (f : Endpoint → β),
      (∀ endpoint clients, f { endpoint with clients } = f endpoint) →
        router'.endpoints.map f = router.endpoints.map f)
    (bytes : router'.uplinkBytes = router.uplinkBytes)
    (background : ∀ obs ∈ emitted, obs.background = true) :
    DataStep router event router' emitted :=
  .rest (fun f ignores _ member => live f ignores ▸ member) bytes
    (fun _ _ _ member => Bool.noConfusion (background _ member))
    (fun _ _ _ member => Bool.noConfusion (background _ member))

theorem Numbered.data {router router' : MavlinkRouter} {event : Event}
    {trace emitted : List Obs} (numbered : Numbered router trace)
    (step : Transition router event router' emitted) :
    DataStep router event router' emitted := by
  cases step with
  | stay => exact .background (fun _ _ => rfl) rfl (fun _ member => by cases member)
  | setEndpoints => exact .rest (fun _ _ _ member => member) rfl (by simp) (by simp)
  | answer => exact .background (fun _ _ => rfl) rfl (by simp [Obs.background])
  | start => exact .rest (fun _ _ _ member => member) rfl (by simp) (by simp)
  | stopRequest => exact .background (fun _ _ => rfl) rfl (fun _ member => by cases member)
  | stopJoin =>
      have background := background_destroy router.endpoints
      exact .rest (fun _ _ _ member => by cases member) rfl
        (fun _ _ _ member => Bool.noConfusion (background _ member))
        (fun _ _ _ member => Bool.noConfusion (background _ member))
  | feedDownlink data nowMs taken =>
      exact .background (fun _ _ => rfl) rfl (background_feedDownlink router data nowMs taken)
  | move => exact .background (fun _ _ => rfl) rfl (fun _ member => by cases member)
  | skipRebuild => exact .rest (fun _ _ _ member => member) rfl (by simp) (by simp)
  | rebuild calls turn dirty =>
      have background := background_rebuild router calls
      refine .rebuild calls rfl turn dirty rfl rfl ?_ ?_
      · intro _ _ _ member
        rcases List.mem_cons.mp member with member | member
        · cases member
        · exact Bool.noConfusion (background _ member)
      · intro _ _ _ member
        rcases List.mem_cons.mp member with member | member
        · cases member
        · exact Bool.noConfusion (background _ member)
  | collect => exact .background (fun _ _ => rfl) rfl (by simp [Obs.background])
  | accept answer slot rest toClose endpoint fd walking found =>
      refine .background (fun f ignores => ?_) rfl (by simp [Obs.background])
      exact numbered.map_update f found rfl (ignores endpoint _)
  | handle answer slot rest toClose endpoint handled source data passed walking found handles
      result =>
      exact .handle endpoint handled source data passed (present_mem found)
        (delivery_handle walking found handles) result rfl rfl rfl
  | closeClients toClose =>
      exact .background (fun f ignores => map_closeClients f ignores _ _) rfl
        (background_closeClients _ _)

end Router

end MobileGs
