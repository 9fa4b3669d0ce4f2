import MobileGs.Router.EndpointStreams

/-!
# Every call of the uplink callback

An endpoint that does not allow uplink reads its descriptors and drops what it reads. What
it reads can only change whom a UDP server takes for its peer, and no uplink call depends on
that: a step of the router shows the same calls when the peers of such endpoints are blotted
out (`step_blurred`). So two runs that differ in what such endpoints read make the same calls.

Together with the streams of the endpoints this says what the uplink callback is called with in
any run (`uplink_calls`).
-/

set_option autoImplicit false

namespace MobileGs

namespace Router

open Mavlink

/-! ## Routers up to the peers of endpoints without uplink -/

/-- An endpoint that does not allow uplink, without its peer. -/
def Endpoint.blurred (endpoint : Endpoint) : Endpoint :=
  if endpoint.config.allowUplink then endpoint
  else { endpoint with peer := ⟨0, 0⟩, havePeer := false }

def MavlinkRouter.blurred (router : MavlinkRouter) : MavlinkRouter :=
  { router with endpoints := router.endpoints.map Endpoint.blurred }

@[simp] theorem Endpoint.blurred_id (endpoint : Endpoint) :
    endpoint.blurred.id = endpoint.id := by
  unfold Endpoint.blurred
  split <;> rfl

@[simp] theorem Endpoint.blurred_config (endpoint : Endpoint) :
    endpoint.blurred.config = endpoint.config := by
  unfold Endpoint.blurred
  split <;> rfl

@[simp] theorem Endpoint.blurred_socket (endpoint : Endpoint) :
    endpoint.blurred.socket = endpoint.socket := by
  unfold Endpoint.blurred
  split <;> rfl

@[simp] theorem Endpoint.blurred_clients (endpoint : Endpoint) :
    endpoint.blurred.clients = endpoint.clients := by
  unfold Endpoint.blurred
  split <;> rfl

theorem Endpoint.blurred_allowed {endpoint : Endpoint}
    (allowed : endpoint.config.allowUplink = true) : endpoint.blurred = endpoint :=
  if_pos allowed

theorem Endpoint.blurred_setClients (endpoint : Endpoint) (clients : List Socket) :
    { endpoint with clients }.blurred = { endpoint.blurred with clients } := by
  unfold Endpoint.blurred
  dsimp only
  split <;> rfl

@[simp] theorem Endpoint.blurred_blurred (endpoint : Endpoint) :
    endpoint.blurred.blurred = endpoint.blurred := by
  cases allowed : endpoint.config.allowUplink with
  | true => rw [blurred_allowed allowed, blurred_allowed allowed]
  | false => simp [blurred, allowed]

@[simp] theorem map_blurred_blurred (endpoints : List Endpoint) :
    (endpoints.map Endpoint.blurred).map Endpoint.blurred = endpoints.map Endpoint.blurred := by
  rw [List.map_map]
  exact List.map_congr_left fun endpoint _ => endpoint.blurred_blurred

@[simp] theorem slotsOf_blurred (endpoint : Endpoint) :
    MavlinkRouter.slotsOf endpoint.blurred = MavlinkRouter.slotsOf endpoint := by
  simp only [MavlinkRouter.slotsOf, Endpoint.blurred_id, Endpoint.blurred_socket,
    Endpoint.blurred_clients]

@[simp] theorem slotAction_blurred (endpoint : Endpoint) (slot : Slot) (answer : SlotAnswer) :
    MavlinkRouter.slotAction endpoint.blurred slot answer =
      MavlinkRouter.slotAction endpoint slot answer := by
  simp only [MavlinkRouter.slotAction, Endpoint.blurred_config]

theorem present_blurred (router : MavlinkRouter) (slot : Slot) :
    router.blurred.present slot = (router.present slot).map Endpoint.blurred := by
  simp only [MavlinkRouter.present, MavlinkRouter.blurred, List.find?_map, Function.comp_def,
    Endpoint.blurred_id]

theorem map_update_blurred (endpoints : List Endpoint) (endpoint : Endpoint) :
    (MavlinkRouter.update endpoints endpoint).map Endpoint.blurred =
      MavlinkRouter.update (endpoints.map Endpoint.blurred) endpoint.blurred := by
  simp only [MavlinkRouter.update, List.map_map, Function.comp_def, Endpoint.blurred_id]
  apply List.map_congr_left
  intro other _
  split <;> rfl

theorem closeClient_blurred (fd : ℕ) (endpoints : List Endpoint) :
    MavlinkRouter.closeClient fd (endpoints.map Endpoint.blurred) =
      ((MavlinkRouter.closeClient fd endpoints).1.map Endpoint.blurred,
        (MavlinkRouter.closeClient fd endpoints).2) := by
  induction endpoints with
  | nil => rfl
  | cons endpoint rest ih =>
      simp only [List.map_cons, MavlinkRouter.closeClient, Endpoint.blurred_clients, ih]
      split
      · rename_i client _
        rw [List.map_cons, Endpoint.blurred_setClients endpoint (endpoint.clients.erase client)]
      · rfl

theorem closeClients_blurred (toClose : List ℕ) (endpoints : List Endpoint) :
    MavlinkRouter.closeClients (endpoints.map Endpoint.blurred) toClose =
      ((MavlinkRouter.closeClients endpoints toClose).1.map Endpoint.blurred,
        (MavlinkRouter.closeClients endpoints toClose).2) := by
  induction toClose generalizing endpoints with
  | nil => rfl
  | cons fd rest ih =>
      simp only [MavlinkRouter.closeClients, closeClient_blurred, ih]

/-! ## Steps -/

theorem uplinkCalls_background {emitted : List Obs}
    (background : ∀ obs ∈ emitted, obs.background = true) : uplinkCalls emitted = [] :=
  uplinkCalls_silent fun _ _ _ member => Bool.noConfusion (background _ member)

theorem uplinkCalls_rebuild (router : MavlinkRouter) (calls : List SocketCalls) :
    uplinkCalls (.rebuilt calls :: (router.endpoints.flatMap destroyEndpoint ++
      (openEndpoints router.nextId router.nextSerial router.configured calls).2)) = [] := by
  have background := uplinkCalls_background (background_rebuild router calls)
  exact background

/-- Two results that are the same up to blurring and show the same calls. -/
structure Blurs (first second : MavlinkRouter × List Obs) : Prop where
  state : first.1.blurred = second.1.blurred
  calls : uplinkCalls first.2 = uplinkCalls second.2

/-- What an endpoint without uplink learns is blotted out. -/
theorem learnPeer_blurred {endpoint : Endpoint} (forbidden : endpoint.config.allowUplink = false)
    (source : Source) : (MavlinkRouter.learnPeer endpoint source).blurred = endpoint.blurred := by
  unfold MavlinkRouter.learnPeer
  split
  · simp [Endpoint.blurred, forbidden]
  · rfl

theorem handleEndpointData_forbidden {endpoint : Endpoint}
    (forbidden : endpoint.config.allowUplink = false) (uplink : Bool) (source : Source)
    (data : List Byte) :
    MavlinkRouter.handleEndpointData uplink (MavlinkRouter.learnPeer endpoint source) data =
      (MavlinkRouter.learnPeer endpoint source, []) := by
  rw [MavlinkRouter.handleEndpointData, learnPeer_config, forbidden]
  rfl

theorem act_blurred (router : MavlinkRouter) (endpoint : Endpoint) (slot : Slot)
    (toClose : List ℕ) (rest : List Slot) (action : MavlinkRouter.SlotAction) :
    Blurs (router.blurred.act endpoint.blurred slot toClose rest action)
      (router.act endpoint slot toClose rest action) := by
  cases action with
  | ignore => exact ⟨by simp [MavlinkRouter.act, MavlinkRouter.blurred], rfl⟩
  | close => exact ⟨by simp [MavlinkRouter.act, MavlinkRouter.blurred], rfl⟩
  | accept fd =>
      refine ⟨?_, rfl⟩
      simp only [MavlinkRouter.act, MavlinkRouter.blurred, map_update_blurred,
        map_blurred_blurred, Endpoint.blurred_setClients, Endpoint.blurred_blurred,
        Endpoint.blurred_clients]
  | handle source data =>
      cases allowed : endpoint.config.allowUplink with
      | true =>
          rw [Endpoint.blurred_allowed allowed]
          refine ⟨?_, rfl⟩
          simp only [MavlinkRouter.act, MavlinkRouter.blurred, map_update_blurred,
            map_blurred_blurred]
      | false =>
          have forbidden : endpoint.blurred.config.allowUplink = false := by
            rw [Endpoint.blurred_config]
            exact allowed
          constructor
          · simp only [MavlinkRouter.act, MavlinkRouter.blurred, map_update_blurred,
              map_blurred_blurred, handleEndpointData_forbidden allowed,
              handleEndpointData_forbidden forbidden, learnPeer_blurred allowed,
              learnPeer_blurred forbidden, Endpoint.blurred_blurred]
          · simp only [MavlinkRouter.act, handleEndpointData_forbidden allowed,
              handleEndpointData_forbidden forbidden]
            rfl

theorem loopSlot_blurred (router : MavlinkRouter) (answer : SlotAnswer) :
    Blurs (router.blurred.loopSlot answer) (router.loopSlot answer) := by
  have same : Blurs (router.blurred, []) (router, []) :=
    ⟨by simp [MavlinkRouter.blurred], rfl⟩
  cases loop : router.loop with
  | walk slots toClose =>
      have loop' : router.blurred.loop = .walk slots toClose := loop
      cases slots with
      | nil =>
          simp only [MavlinkRouter.loopSlot, loop, loop']
          exact same
      | cons slot rest =>
          simp only [MavlinkRouter.loopSlot, loop, loop', present_blurred]
          cases router.present slot with
          | none => exact ⟨by simp [MavlinkRouter.blurred], rfl⟩
          | some endpoint =>
              simp only [Option.map_some, slotAction_blurred]
              exact act_blurred router endpoint slot toClose rest _
  | _ =>
      have loops : router.blurred.loop = router.loop := rfl
      simp only [MavlinkRouter.loopSlot, loop, loops]
      exact same

/-- A step that leaves the endpoints alone. -/
theorem blurs_of_eq {router router' : MavlinkRouter} (same : router = router'.blurred)
    (obs : List Obs) : Blurs (router, obs) (router', obs) :=
  ⟨by rw [same]; simp [MavlinkRouter.blurred], rfl⟩

/-- **No uplink call depends on the peer of an endpoint without uplink.** -/
theorem step_blurred (router : MavlinkRouter) (event : Event) :
    Blurs (machine.step router.blurred event) (machine.step router event) := by
  have locked : router.blurred.locked = router.locked := rfl
  have loops : router.blurred.loop = router.loop := rfl
  cases event with
  | setEndpoints endpoints =>
      simp only [machine, MavlinkRouter.setEndpoints, locked]
      split <;> exact blurs_of_eq (by rfl) _
  | start pipe =>
      simp only [machine, MavlinkRouter.start, MavlinkRouter.blurred]
      repeat' split
      all_goals exact blurs_of_eq (by rfl) _
  | stopRequest =>
      simp only [machine, MavlinkRouter.stopRequest, MavlinkRouter.blurred]
      split <;> exact blurs_of_eq (by rfl) _
  | stopJoin =>
      simp only [machine, MavlinkRouter.stopJoin]
      by_cases ends : (router.stopping && router.loop = .returned) = true
      · have ends' : (router.blurred.stopping && router.blurred.loop = .returned) = true := ends
        rw [if_pos ends, if_pos ends']
        refine ⟨rfl, ?_⟩
        rw [uplinkCalls_background (background_destroy _),
          uplinkCalls_background (background_destroy _)]
      · have ends' : ¬ (router.blurred.stopping && router.blurred.loop = .returned) = true := ends
        rw [if_neg ends, if_neg ends']
        exact blurs_of_eq (by rfl) _
  | feedDownlink data nowMs taken =>
      constructor
      · simp only [machine, MavlinkRouter.feedDownlink, locked]
        split <;> simp [MavlinkRouter.blurred]
      · simp only [machine]
        rw [uplinkCalls_background (background_feedDownlink _ _ _ _),
          uplinkCalls_background (background_feedDownlink _ _ _ _)]
  | loopTest =>
      simp only [machine, MavlinkRouter.loopTest, MavlinkRouter.blurred]
      split <;> exact blurs_of_eq (by rfl) _
  | loopRebuild calls =>
      cases loop : router.loop with
      | rebuild =>
          cases dirty : router.endpointsDirty with
          | false =>
              simp only [machine, MavlinkRouter.loopRebuild, MavlinkRouter.rebuildEndpoints,
                MavlinkRouter.blurred, loop, dirty, Bool.not_false, if_true]
              exact blurs_of_eq (by rfl) _
          | true =>
              simp only [machine, MavlinkRouter.loopRebuild, MavlinkRouter.rebuildEndpoints,
                MavlinkRouter.blurred, loop, dirty, Bool.not_true, if_true]
              refine ⟨rfl, ?_⟩
              have before := uplinkCalls_rebuild router calls
              exact (uplinkCalls_rebuild router.blurred calls).trans before.symm
      | _ =>
          simp only [machine, MavlinkRouter.loopRebuild, loops, loop]
          exact blurs_of_eq (by rfl) _
  | loopCollect =>
      simp only [machine, MavlinkRouter.loopCollect, MavlinkRouter.blurred, List.flatMap_map,
        slotsOf_blurred]
      split <;> exact blurs_of_eq (by rfl) _
  | loopPoll result =>
      simp only [machine, MavlinkRouter.loopPoll, MavlinkRouter.blurred]
      split <;> exact blurs_of_eq (by rfl) _
  | loopLock =>
      simp only [machine, MavlinkRouter.loopLock, MavlinkRouter.blurred]
      split <;> exact blurs_of_eq (by rfl) _
  | loopSlot answer => exact loopSlot_blurred router answer
  | loopClose =>
      cases loop : router.loop with
      | walk slots toClose =>
          cases slots with
          | nil =>
              simp only [machine, MavlinkRouter.loopClose, MavlinkRouter.blurred, loop,
                closeClients_blurred]
              exact blurs_of_eq (by rfl) _
          | cons slot rest =>
              simp only [machine, MavlinkRouter.loopClose, loops, loop]
              exact blurs_of_eq (by rfl) _
      | _ =>
          simp only [machine, MavlinkRouter.loopClose, loops, loop]
          exact blurs_of_eq (by rfl) _

/-! ## Data of endpoints without uplink -/

/-- Reading nothing, or some data. -/
def MavlinkRouter.SlotAction.reads : MavlinkRouter.SlotAction → Bool
  | .ignore => true
  | .handle _ _ => true
  | _ => false

/-- Two answers for the descriptor of an endpoint without uplink that differ in the data read
there. -/
def DataChanged (router : MavlinkRouter) (answer answer' : SlotAnswer) : Prop :=
  ∃ slot rest toClose endpoint,
    router.loop = .walk (slot :: rest) toClose ∧ router.present slot = some endpoint ∧
    endpoint.config.allowUplink = false ∧
    (MavlinkRouter.slotAction endpoint slot answer).reads = true ∧
    (MavlinkRouter.slotAction endpoint slot answer').reads = true

/-- Two events that differ at most in data that an endpoint without uplink reads. -/
def AlikeForUplink (router : MavlinkRouter) (event event' : Event) : Prop :=
  event' = event ∨ ∃ answer answer',
    event = .loopSlot answer ∧ event' = .loopSlot answer' ∧ DataChanged router answer answer'

/-- Whatever an endpoint without uplink reads, the walk goes on and makes no call. -/
theorem loopSlot_forbidden {router : MavlinkRouter} {slot : Slot} {rest : List Slot}
    {toClose : List ℕ} {endpoint : Endpoint} (walking : router.loop = .walk (slot :: rest) toClose)
    (distinct : (router.endpoints.map Endpoint.id).Nodup)
    (found : router.present slot = some endpoint)
    (forbidden : endpoint.config.allowUplink = false) (answer : SlotAnswer)
    (reads : (MavlinkRouter.slotAction endpoint slot answer).reads = true) :
    Blurs (router.loopSlot answer) ({ router with loop := .walk rest toClose }, []) := by
  simp only [MavlinkRouter.loopSlot, walking, found]
  cases action : MavlinkRouter.slotAction endpoint slot answer with
  | ignore => exact ⟨rfl, rfl⟩
  | close =>
      rw [action] at reads
      cases reads
  | accept fd =>
      rw [action] at reads
      cases reads
  | handle source data =>
      simp only [MavlinkRouter.act, handleEndpointData_forbidden forbidden]
      refine ⟨?_, rfl⟩
      have kept : (MavlinkRouter.update router.endpoints
          (MavlinkRouter.learnPeer endpoint source)).map Endpoint.blurred =
            router.endpoints.map Endpoint.blurred := by
        apply map_update
        intro other member same
        rw [eq_of_id_eq distinct (present_mem found) member (same.trans (learnPeer_id _ _)),
          learnPeer_blurred forbidden]
      simp only [MavlinkRouter.blurred, kept, List.map_nil, List.sum_nil, Nat.add_zero]

theorem Blurs.trans {first second third : MavlinkRouter × List Obs} (blurs : Blurs first second)
    (blurs' : Blurs second third) : Blurs first third :=
  ⟨blurs.state.trans blurs'.state, blurs.calls.trans blurs'.calls⟩

theorem Blurs.symm {first second : MavlinkRouter × List Obs} (blurs : Blurs first second) :
    Blurs second first :=
  ⟨blurs.state.symm, blurs.calls.symm⟩

/-- Steps on alike events show the same calls. -/
theorem step_alike {router router' : MavlinkRouter} {event event' : Event}
    (distinct : (router.endpoints.map Endpoint.id).Nodup)
    (same : router.blurred = router'.blurred) (alike : AlikeForUplink router event event') :
    Blurs (machine.step router event) (machine.step router' event') := by
  have onEvent : Blurs (machine.step router event') (machine.step router' event') := by
    have first := (step_blurred router event').symm
    rw [same] at first
    exact first.trans (step_blurred router' event')
  rcases alike with rfl | ⟨answer, answer', rfl, rfl, changed⟩
  · exact onEvent
  · obtain ⟨slot, rest, toClose, endpoint, walking, found, forbidden, reads, reads'⟩ := changed
    have first := loopSlot_forbidden walking distinct found forbidden answer reads
    have second := loopSlot_forbidden walking distinct found forbidden answer' reads'
    exact (first.trans second.symm).trans onEvent

/-- **What an endpoint without uplink reads changes no uplink call.** -/
theorem uplinkCalls_alike {events events' : List Event}
    (alike : machine.AlikeAlong AlikeForUplink fresh events events') :
    uplinkCalls (machine.outputs fresh events) = uplinkCalls (machine.outputs fresh events') := by
  refine (Mealy.unwinding Obs.uplinkCall?
    (fun router router' => (∃ trace, Numbered router trace) ∧ router.blurred = router'.blurred)
    ?_ ⟨⟨[], numbered_fresh⟩, rfl⟩ alike).2
  intro router router' event event' ⟨⟨trace, numbered⟩, same⟩ alike
  have blurs := step_alike numbered.distinct same alike
  exact ⟨⟨⟨_, numbered.keeps (machine_step router event)⟩, blurs.state⟩, blurs.calls⟩

/-! ## Runs -/

/-- **What the uplink callback is called with in any run.** Every call carries one whole frame,
for an endpoint that allows uplink. The frames of one endpoint are pieces of what it received, in
order and apart from each other. `uplinkBytes` is the size of all calls, and the data of endpoints
without uplink makes no difference. -/
theorem uplink_calls (events : List Event) :
    (∀ ref source frame, .uplink ref source frame ∈ machine.outputs fresh events →
      ref.config.allowUplink = true ∧ ∃ whole : MavlinkFrame, frame = whole.bytes) ∧
    (∀ ref, ∃ pieces rest,
      receivedBy ref (machine.outputs fresh events) = pieces.flatMap Piece.symbols ++ rest ∧
      uplinkedBy ref (machine.outputs fresh events) = frames pieces) ∧
    (machine.after fresh events).uplinkBytes =
      ((uplinkCalls (machine.outputs fresh events)).map fun call => call.2.2.length).sum ∧
    ∀ events', machine.AlikeAlong AlikeForUplink fresh events events' →
      uplinkCalls (machine.outputs fresh events') =
        uplinkCalls (machine.outputs fresh events) := by
  refine ⟨?_, ?_, (streams events).counted, fun events' alike => (uplinkCalls_alike alike).symm⟩
  · intro ref source frame member
    have among := mem_uplinkedBy member
    constructor
    · by_contra forbidden
      rw [(streams events).frames ref, if_neg forbidden] at among
      cases among
    · obtain ⟨pieces, rest, -, same, whole⟩ := exists_pieces events ref
      rw [same] at among
      obtain ⟨frame, rfl⟩ := whole _ among
      exact ⟨frame, rfl⟩
  · intro ref
    obtain ⟨pieces, rest, split, same, -⟩ := exists_pieces events ref
    exact ⟨pieces, rest, split, same⟩

/-- The loop reads one descriptor of a UDP server that allows no uplink. -/
def silentServerReads (answer : SlotAnswer) : List Event :=
  [.setEndpoints [{ kind := .udpServer, host := "", allowUplink := false }], .start true,
    .loopTest, .loopRebuild [{ socket := some 5, bind := true }], .loopCollect, .loopPoll .ready,
    .loopLock, .loopSlot answer]

/-- A heartbeat arrives at a server without uplink, or nothing does. -/
theorem uplink_calls_silentServer :
    uplinkCalls (machine.outputs fresh (silentServerReads {})) =
      uplinkCalls (machine.outputs fresh (silentServerReads
        { pollin := true, received := some [0xfe, 0, 0, 1, 1, 0, 7, 8], sender := ⟨1, 9⟩ })) := by
  apply (uplink_calls _).2.2.2
  refine ⟨.inl rfl, .inl rfl, .inl rfl, .inl rfl, .inl rfl, .inl rfl, .inl rfl, .inr ?_, trivial⟩
  exact ⟨_, _, rfl, rfl, _, _, _, _, rfl, rfl, rfl, rfl, rfl⟩

end Router

end MobileGs
