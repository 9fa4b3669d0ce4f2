import MobileGs.Foundations.Handles
import MobileGs.Router.Clients

/-!
# Descriptors

A descriptor lives in an endpoint object, as its own or in its list of clients, in the slots of a
poll round, and among the descriptors a round is going to close. The system hands out the number of
a descriptor again once it is closed.

The endpoint objects are what counts. What they hold is what is open (`Owning.held`), since a
destructor closes all an object holds, and the loop closes a client where it takes it off its list.
The slots are descriptors that objects hold (`Owning.slots`). Objects are destroyed by the loop
alone while it runs, and between two rounds, so no slot is left of them.

So in every run each socket is closed at most once, nothing closed is polled, received from or sent
to, and behind a `Stop` each socket is closed (`descriptors_owned`).
-/

set_option autoImplicit false

namespace MobileGs

namespace Router

open Handles

/-! ## Calls on descriptors -/

/-- The sockets of an endpoint, in the order in which the destructor closes them. -/
def Endpoint.sockets (endpoint : Endpoint) : List Socket :=
  endpoint.clients ++ endpoint.socket.toList

/-- The sockets all endpoint objects hold. -/
def MavlinkRouter.sockets (router : MavlinkRouter) : Multiset Socket :=
  router.endpoints.flatMap Endpoint.sockets

/-- What a send to a destination goes out on: the client itself, or the socket of the endpoint. -/
def sendsOn (endpoint : Endpoint) : Source → List Socket
  | .client socket => [socket]
  | .datagram _ => endpoint.socket.toList

/-- The loop calls `recv`, `recvfrom` or `accept` on the descriptor of a slot whose endpoint is
still present. -/
def reads (slot : Slot) (answer : SlotAnswer) : Bool :=
  (answer.pollin || answer.pollerrOrPollhup || answer.otherBits) &&
    if slot.isClient then !answer.pollerrOrPollhup else answer.pollin

/-- The descriptors an event sends on, waits for or reads from. -/
def descriptorsUsed (router : MavlinkRouter) : Event → List Socket
  | .feedDownlink data _ _ =>
      if data.length = 0 || router.locked then []
      else router.endpoints.flatMap fun endpoint =>
        (MavlinkRouter.destinations endpoint).flatMap (sendsOn endpoint)
  | .loopPoll _ =>
      match router.loop with
      | .poll slots => slots.map Slot.socket
      | _ => []
  | .loopSlot answer =>
      match router.loop with
      | .walk (slot :: _) _ =>
          if (router.present slot).isSome && reads slot answer then [slot.socket] else []
      | _ => []
  | _ => []

/-- The descriptors that an observation shows to be handed out, closed or registered with `poll`. -/
def Obs.descriptorCalls : Obs → List (Call Socket)
  | .opened socket => [.grant socket]
  | .accepted _ socket => [.grant socket]
  | .closed socket => [.close socket]
  | .polled sockets => sockets.map .use
  | _ => []

/-- The router, with its calls on descriptors as the outputs. -/
def descriptors : Mealy MavlinkRouter Event (Call Socket) where
  step router event :=
    let stepped := machine.step router event
    (stepped.1, (descriptorsUsed router event).map .use ++ stepped.2.flatMap Obs.descriptorCalls)

/-! ## What the endpoint objects hold -/

/-- What a destructor closes, it closes once. -/
theorem calls_destroy (endpoints : List Endpoint) :
    (endpoints.flatMap destroyEndpoint).flatMap Obs.descriptorCalls =
      (endpoints.flatMap Endpoint.sockets).map .close := by
  have closed (sockets : List Socket) :
      (sockets.map Obs.closed).flatMap Obs.descriptorCalls = sockets.map .close := by
    induction sockets with
    | nil => rfl
    | cons socket rest ih => exact congrArg (Call.close socket :: ·) ih
  induction endpoints with
  | nil => rfl
  | cons endpoint rest ih =>
      rw [List.flatMap_cons, List.flatMap_append, ih, List.flatMap_cons, List.map_append]
      exact congrArg (· ++ _) (closed endpoint.sockets)

theorem openEndpoint_sockets {id serial : ℕ} {config : MavlinkEndpoint} {calls : SocketCalls}
    {endpoint : Endpoint} {fd : ℕ} (found : calls.socket = some fd)
    (opened : openEndpoint id serial config calls = some endpoint) :
    endpoint.sockets = [⟨fd, serial⟩] := by
  simp only [openEndpoint, found] at opened
  grind [Endpoint.sockets]

/-- One entry is opened, and what it becomes holds what is left open. -/
theorem runs_opening (id serial : ℕ) (config : MavlinkEndpoint) (calls : SocketCalls) :
    Runs 0
      ((openingObs serial calls (openEndpoint id serial config calls)).flatMap
        Obs.descriptorCalls)
      ((openEndpoint id serial config calls).toList.flatMap Endpoint.sockets : List Socket) := by
  cases found : calls.socket with
  | none =>
      have fails : openEndpoint id serial config calls = none := by
        simp only [openEndpoint, found]
      simp only [openingObs, found, fails]
      exact .nil 0
  | some fd =>
      have granted := Runs.grant 0 (⟨fd, serial⟩ : Socket)
      cases opened : openEndpoint id serial config calls with
      | none =>
          simp only [openingObs, found, Option.isNone_none, if_true]
          exact granted.append (Runs.close 0 (⟨fd, serial⟩ : Socket))
      | some endpoint =>
          have holds : [endpoint].flatMap Endpoint.sockets = [⟨fd, serial⟩] := by
            rw [List.flatMap_cons, openEndpoint_sockets found opened]
            rfl
          simp only [openingObs, found, Option.isNone_some, Bool.false_eq_true, if_false]
          rw [Option.toList_some, holds]
          exact granted

/-- A rebuild's objects hold what is left open. -/
theorem runs_openEndpoints (id serial : ℕ) (configured : List MavlinkEndpoint)
    (calls : List SocketCalls) :
    Runs 0 ((openEndpoints id serial configured calls).2.flatMap Obs.descriptorCalls)
      ((openEndpoints id serial configured calls).1.flatMap Endpoint.sockets : List Socket) := by
  induction configured generalizing id serial calls with
  | nil => exact .nil 0
  | cons config rest ih =>
      simp only [openEndpoints]
      split
      · have first := runs_opening id serial config (calls.headD {})
        have later := (ih (id + 1) (serial + 1) calls.tail).frame
          ((openEndpoint id serial config (calls.headD {})).toList.flatMap Endpoint.sockets :
            List Socket)
        rw [Multiset.add_zero] at later
        rw [List.flatMap_append, List.flatMap_append, ← Multiset.coe_add]
        exact first.append later
      · exact ih _ _ _

/-- A client is closed where it is taken off its list. -/
theorem runs_closeClient (fd : ℕ) (endpoints : List Endpoint) :
    Runs (endpoints.flatMap Endpoint.sockets : List Socket)
      ((MavlinkRouter.closeClient fd endpoints).2.flatMap Obs.descriptorCalls)
      ((MavlinkRouter.closeClient fd endpoints).1.flatMap Endpoint.sockets : List Socket) := by
  induction endpoints with
  | nil => exact .nil _
  | cons endpoint rest ih =>
      simp only [MavlinkRouter.closeClient]
      split
      · rename_i client found
        have among : client ∈ endpoint.clients := List.mem_of_find?_eq_some found
        let fewer : Endpoint := { endpoint with clients := endpoint.clients.erase client }
        have perm : (endpoint.sockets ++ rest.flatMap Endpoint.sockets).Perm
            (client :: (fewer.sockets ++ rest.flatMap Endpoint.sockets)) :=
          ((List.perm_cons_erase among).append_right _).append_right _
        rw [List.flatMap_cons, Multiset.coe_eq_coe.mpr perm]
        exact Runs.close (fewer.sockets ++ rest.flatMap Endpoint.sockets : List Socket) client
      · rw [List.flatMap_cons, List.flatMap_cons, ← Multiset.coe_add, ← Multiset.coe_add]
        exact ih.frame _

theorem runs_closeClients (toClose : List ℕ) (endpoints : List Endpoint) :
    Runs (endpoints.flatMap Endpoint.sockets : List Socket)
      ((MavlinkRouter.closeClients endpoints toClose).2.flatMap Obs.descriptorCalls)
      ((MavlinkRouter.closeClients endpoints toClose).1.flatMap Endpoint.sockets :
        List Socket) := by
  induction toClose generalizing endpoints with
  | nil => exact .nil _
  | cons fd rest ih =>
      simp only [MavlinkRouter.closeClients]
      rw [List.flatMap_append]
      exact (runs_closeClient fd endpoints).append (ih _)

/-! ## The invariant -/

/-- The objects hold what is open, the slots are held by objects, and where no loop is left there
are no objects. -/
structure Owning (router : MavlinkRouter) (calls : List (Call Socket)) : Prop where
  runs : Runs 0 calls router.sockets
  slots : ∀ slot ∈ router.loop.slots, slot.socket ∈ router.sockets
  exclusive : router.stopping = true → router.running = false
  halted : router.running = false → router.stopping = false →
    router.loop = .stopped ∧ router.endpoints = []
  distinct : (grants calls).Nodup
  known : ∀ socket ∈ grants calls, socket.serial < router.nextSerial

theorem owning_fresh (uplink : Bool) : Owning { uplink } [] where
  runs := .nil 0
  slots := fun _ member => by cases member
  exclusive := fun stopping => by cases stopping
  halted := fun _ _ => ⟨rfl, rfl⟩
  distinct := List.nodup_nil
  known := fun _ member => by cases member

/-- A send goes out on a socket that the endpoint holds. -/
theorem sendsOn_held {endpoint : Endpoint} {destination : Source} {socket : Socket}
    (sends : destination ∈ MavlinkRouter.destinations endpoint)
    (outlet : socket ∈ sendsOn endpoint destination) : socket ∈ endpoint.sockets := by
  unfold MavlinkRouter.destinations at sends
  split at sends
  · cases sends
  · split at sends
    · obtain ⟨client, among, rfl⟩ := List.mem_map.mp sends
      rw [List.mem_singleton.mp outlet]
      exact List.mem_append_left _ among
    · split at sends
      · rw [List.mem_singleton.mp sends] at outlet
        exact List.mem_append_right _ outlet
      · cases sends

/-- **What an event uses is open.** -/
theorem Owning.used {router : MavlinkRouter} {calls : List (Call Socket)}
    (owning : Owning router calls) (event : Event) :
    ∀ socket ∈ descriptorsUsed router event, socket ∈ router.sockets := by
  intro socket member
  cases event with
  | feedDownlink data nowMs taken =>
      simp only [descriptorsUsed] at member
      split at member
      · cases member
      · obtain ⟨endpoint, among, member⟩ := List.mem_flatMap.mp member
        obtain ⟨destination, sends, outlet⟩ := List.mem_flatMap.mp member
        exact Multiset.mem_coe.mpr
          (List.mem_flatMap.mpr ⟨endpoint, among, sendsOn_held sends outlet⟩)
  | loopPoll result =>
      simp only [descriptorsUsed] at member
      split at member
      · rename_i slots waiting
        obtain ⟨slot, among, rfl⟩ := List.mem_map.mp member
        exact owning.slots slot (by rw [waiting]; exact among)
      · cases member
  | loopSlot answer =>
      simp only [descriptorsUsed] at member
      split at member
      · rename_i slot rest toClose walking
        split at member
        · rw [List.mem_singleton.mp member]
          exact owning.slots slot (by rw [walking]; exact List.mem_cons_self)
        · cases member
      · cases member
  | _ => cases member

/-! ## Steps -/

theorem calls_feedDownlink (router : MavlinkRouter) (data : List Byte) (nowMs : UInt64)
    (taken : List (Option ℕ)) :
    (router.feedDownlink data nowMs taken).2.flatMap Obs.descriptorCalls = [] := by
  apply List.flatMap_eq_nil_iff.mpr
  intro obs member
  unfold MavlinkRouter.feedDownlink at member
  split at member
  · cases member
  · rcases List.mem_append.mp member with member | member
    · obtain ⟨message, -, rfl⟩ := List.mem_map.mp member
      rfl
    · obtain ⟨send, -, rfl⟩ := List.mem_map.mp member
      rfl

theorem calls_handle (ref : EndpointRef) (source : Source) (data : List Byte)
    (passed : List (List Byte)) :
    (Obs.received ref source data :: passed.map (.uplink ref source)).flatMap
      Obs.descriptorCalls = [] := by
  apply List.flatMap_eq_nil_iff.mpr
  intro obs member
  rcases List.mem_cons.mp member with rfl | member
  · rfl
  · obtain ⟨frame, -, rfl⟩ := List.mem_map.mp member
    rfl

/-- A poll round registers what the objects hold. -/
theorem slotsOf_held {endpoints : List Endpoint} {slot : Slot}
    (member : slot ∈ endpoints.flatMap MavlinkRouter.slotsOf) :
    slot.socket ∈ endpoints.flatMap Endpoint.sockets := by
  obtain ⟨endpoint, among, holds⟩ := List.mem_flatMap.mp member
  refine List.mem_flatMap.mpr ⟨endpoint, among, ?_⟩
  unfold MavlinkRouter.slotsOf at holds
  split at holds
  · cases holds
  · rename_i socket own
    rcases List.mem_cons.mp holds with rfl | client
    · exact List.mem_append_right _ (Option.mem_toList.mpr own)
    · obtain ⟨client, has, rfl⟩ := List.mem_map.mp client
      exact List.mem_append_left _ has

/-- **What a step shows takes what is open to what is open behind it.** -/
theorem step_runs {router router' : MavlinkRouter} {event : Event} {emitted trace : List Obs}
    (numbered : Numbered router trace) (step : Transition router event router' emitted) :
    Runs router.sockets (emitted.flatMap Obs.descriptorCalls) router'.sockets := by
  cases step with
  | stay => exact .nil _
  | setEndpoints => exact .nil _
  | answer => exact .nil _
  | start => exact .nil _
  | stopRequest => exact .nil _
  | stopJoin =>
      rw [calls_destroy]
      exact Runs.closes _
  | feedDownlink data nowMs taken =>
      rw [calls_feedDownlink]
      exact .nil _
  | move => exact .nil _
  | skipRebuild => exact .nil _
  | rebuild calls =>
      rw [List.flatMap_cons, List.flatMap_append, calls_destroy]
      exact (Runs.closes _).append (runs_openEndpoints _ _ _ calls)
  | collect =>
      rw [List.flatMap_singleton]
      apply Runs.uses
      intro socket member
      obtain ⟨slot, taken, rfl⟩ := List.mem_map.mp member
      exact Multiset.mem_coe.mpr (slotsOf_held taken)
  | accept answer slot rest toClose endpoint fd walking found =>
      let client : Socket := ⟨fd, router.nextSerial⟩
      let accepting : Endpoint := { endpoint with clients := endpoint.clients ++ [client] }
      have gains : accepting.sockets.Perm ([client] ++ endpoint.sockets) := by
        rw [Endpoint.sockets, Endpoint.sockets, ← List.append_assoc]
        exact List.perm_append_comm.append_right _
      have perm := flatMap_update Endpoint.sockets numbered.distinct accepting
        (present_mem found) rfl gains
      have granted := Runs.grant router.sockets client
      have sockets : ((MavlinkRouter.update router.endpoints accepting).flatMap
          Endpoint.sockets : Multiset Socket) = client ::ₘ router.sockets :=
        Multiset.coe_eq_coe.mpr perm
      rw [← sockets] at granted
      exact granted
  | handle answer slot rest toClose endpoint handled source data passed walking found handles
      result =>
      have same := numbered.map_handled Endpoint.sockets found result (fun _ _ => rfl)
        (fun _ _ _ => rfl)
      rw [calls_handle]
      simp only [MavlinkRouter.sockets, List.flatMap_def, same]
      exact .nil _
  | closeClients toClose => exact runs_closeClients toClose _

/-- Where a step takes a socket from an object, it leaves no slots. -/
theorem step_sockets {router router' : MavlinkRouter} {event : Event} {emitted trace : List Obs}
    (numbered : Numbered router trace) (step : Transition router event router' emitted) :
    router'.loop.slots = [] ∨ ∀ socket ∈ router.sockets, socket ∈ router'.sockets := by
  have runs := step_runs numbered step
  cases step with
  | rebuild => exact .inl rfl
  | stopJoin => exact .inl rfl
  | closeClients => exact .inl rfl
  | accept answer slot rest toClose endpoint fd =>
      right
      intro socket member
      rw [← runs.left]
      exact Multiset.mem_cons_of_mem member
  | handle answer slot rest toClose endpoint handled source data passed walking found handles
      result =>
      have same := numbered.map_handled Endpoint.sockets found result (fun _ _ => rfl)
        (fun _ _ _ => rfl)
      right
      intro socket member
      simp only [MavlinkRouter.sockets, List.flatMap_def, same]
      exact member
  | _ => exact .inr fun _ member => member

/-- The slots are held by objects after every step. -/
theorem Owning.slots_step {router : MavlinkRouter} {calls : List (Call Socket)} {trace : List Obs}
    (owning : Owning router calls) (numbered : Numbered router trace) (event : Event) :
    ∀ slot ∈ (machine.step router event).1.loop.slots,
      slot.socket ∈ (machine.step router event).1.sockets := by
  intro slot member
  rcases step_slots router event slot member with before | ⟨endpoints, taken⟩
  · rcases step_sockets numbered (machine_step router event) with none | more
    · rw [none] at member
      cases member
    · exact more _ (owning.slots slot before)
  · rw [MavlinkRouter.sockets, endpoints]
    exact Multiset.mem_coe.mpr (slotsOf_held taken)

/-- Where no loop is left there are no objects. -/
theorem Owning.halted_step {router router' : MavlinkRouter} {event : Event} {emitted : List Obs}
    {calls : List (Call Socket)} (owning : Owning router calls)
    (step : Transition router event router' emitted) :
    (router'.stopping = true → router'.running = false) ∧
      (router'.running = false → router'.stopping = false →
        router'.loop = .stopped ∧ router'.endpoints = []) := by
  have alive {loop : LoopPoint} (is : router.loop = loop) (moves : loop ≠ .stopped) :
      router.running = false → router.stopping = false → False := by
    intro halted idle
    have stopped := fun halted idle => (owning.halted halted idle).1
    rw [MavlinkRouter.stopping_of_alive stopped (is ▸ moves) halted] at idle
    cases idle
  cases step with
  | start idle halted =>
      refine ⟨fun stopping => ?_, fun stopped => by cases stopped⟩
      rw [idle] at stopping
      cases stopping
  | stopRequest => exact ⟨fun _ => rfl, fun _ idle => by cases idle⟩
  | stopJoin stopping => exact ⟨fun stopping => (by cases stopping), fun _ _ => ⟨rfl, rfl⟩⟩
  | move event loop moves =>
      exact ⟨owning.exclusive, fun halted idle => (alive rfl moves halted idle).elim⟩
  | skipRebuild calls turn =>
      exact ⟨owning.exclusive, fun halted idle => (alive turn (by simp) halted idle).elim⟩
  | rebuild calls turn =>
      exact ⟨owning.exclusive, fun halted idle => (alive turn (by simp) halted idle).elim⟩
  | collect turn =>
      exact ⟨owning.exclusive, fun halted idle => (alive turn (by simp) halted idle).elim⟩
  | accept answer slot rest toClose endpoint fd walking =>
      exact ⟨owning.exclusive, fun halted idle => (alive walking (by simp) halted idle).elim⟩
  | handle answer slot rest toClose endpoint handled source data passed walking =>
      exact ⟨owning.exclusive, fun halted idle => (alive walking (by simp) halted idle).elim⟩
  | closeClients toClose walked =>
      exact ⟨owning.exclusive, fun halted idle => (alive walked (by simp) halted idle).elim⟩
  | _ => exact ⟨owning.exclusive, owning.halted⟩

/-! ## Serial numbers -/

theorem grants_opening (serial : ℕ) (calls : SocketCalls) (opened : Option Endpoint) :
    grants ((openingObs serial calls opened).flatMap Obs.descriptorCalls) =
      calls.socket.toList.map (⟨·, serial⟩) := by
  unfold openingObs
  cases calls.socket with
  | none => rfl
  | some fd => cases opened <;> rfl

/-- The sockets one rebuild makes are numbered in order from the first serial number. -/
theorem grants_openEndpoints (id serial : ℕ) (configured : List MavlinkEndpoint)
    (calls : List SocketCalls) :
    (grants ((openEndpoints id serial configured calls).2.flatMap Obs.descriptorCalls)).Nodup ∧
      ∀ socket ∈ grants ((openEndpoints id serial configured calls).2.flatMap Obs.descriptorCalls),
        serial ≤ socket.serial ∧ socket.serial < serial + configured.length := by
  induction configured generalizing id serial calls with
  | nil => exact ⟨List.nodup_nil, fun _ member => by cases member⟩
  | cons config rest ih =>
      obtain ⟨distinct, bounds⟩ := ih (id + 1) (serial + 1) calls.tail
      simp only [openEndpoints, List.length_cons]
      split
      · rw [List.flatMap_append, grants_append, grants_opening]
        cases (calls.headD {}).socket with
        | none =>
            refine ⟨distinct, fun socket member => ?_⟩
            have := bounds socket member
            omega
        | some fd =>
            simp only [Option.toList_some, List.map_cons, List.map_nil, List.singleton_append,
              List.nodup_cons, List.forall_mem_cons]
            refine ⟨⟨fun member => ?_, distinct⟩, ⟨le_rfl, by omega⟩, fun socket member => ?_⟩
            · have := bounds _ member
              simp only at this
              omega
            · have := bounds socket member
              omega
      · refine ⟨distinct, fun socket member => ?_⟩
        have := bounds socket member
        omega

theorem grants_closeClient (fd : ℕ) (endpoints : List Endpoint) :
    grants ((MavlinkRouter.closeClient fd endpoints).2.flatMap Obs.descriptorCalls) = [] := by
  induction endpoints with
  | nil => rfl
  | cons endpoint rest ih =>
      simp only [MavlinkRouter.closeClient]
      split
      · rfl
      · exact ih

theorem grants_closeClients (toClose : List ℕ) (endpoints : List Endpoint) :
    grants ((MavlinkRouter.closeClients endpoints toClose).2.flatMap Obs.descriptorCalls) = [] := by
  induction toClose generalizing endpoints with
  | nil => rfl
  | cons fd rest ih =>
      simp only [MavlinkRouter.closeClients]
      rw [List.flatMap_append, grants_append, grants_closeClient, ih, List.append_nil]

/-- A step hands out sockets with serial numbers of their own. -/
theorem step_grants {router router' : MavlinkRouter} {event : Event} {emitted : List Obs}
    (step : Transition router event router' emitted) :
    router.nextSerial ≤ router'.nextSerial ∧
      (grants (emitted.flatMap Obs.descriptorCalls)).Nodup ∧
      ∀ socket ∈ grants (emitted.flatMap Obs.descriptorCalls),
        router.nextSerial ≤ socket.serial ∧ socket.serial < router'.nextSerial := by
  have nothing {router' : MavlinkRouter} {emitted : List Obs}
      (same : router'.nextSerial = router.nextSerial)
      (none : grants (emitted.flatMap Obs.descriptorCalls) = []) :
      router.nextSerial ≤ router'.nextSerial ∧
        (grants (emitted.flatMap Obs.descriptorCalls)).Nodup ∧
        ∀ socket ∈ grants (emitted.flatMap Obs.descriptorCalls),
          router.nextSerial ≤ socket.serial ∧ socket.serial < router'.nextSerial := by
    rw [none]
    exact ⟨same.ge, List.nodup_nil, fun _ member => by cases member⟩
  cases step with
  | stopJoin =>
      refine nothing rfl ?_
      rw [calls_destroy]
      exact grants_close _
  | feedDownlink data nowMs taken =>
      refine nothing rfl ?_
      rw [calls_feedDownlink]
      rfl
  | rebuild calls =>
      rw [List.flatMap_cons, List.flatMap_append, calls_destroy, grants_append, grants_append,
        grants_close]
      exact ⟨Nat.le_add_right _ _, grants_openEndpoints _ _ _ _⟩
  | collect =>
      refine nothing rfl ?_
      rw [List.flatMap_singleton]
      exact grants_use _
  | accept answer slot rest toClose endpoint fd =>
      refine ⟨Nat.le_succ _, List.nodup_singleton _, fun socket member => ?_⟩
      rw [List.mem_singleton.mp member]
      exact ⟨le_rfl, Nat.lt_succ_self _⟩
  | handle =>
      refine nothing rfl ?_
      rw [calls_handle]
      rfl
  | closeClients toClose => exact nothing rfl (grants_closeClients _ _)
  | _ => exact nothing rfl rfl

/-- **Every step keeps what is owned.** -/
theorem Owning.keeps {router : MavlinkRouter} {calls : List (Call Socket)} {trace : List Obs}
    (owning : Owning router calls) (numbered : Numbered router trace) (event : Event) :
    Owning (descriptors.step router event).1 (calls ++ (descriptors.step router event).2) := by
  have step := machine_step router event
  obtain ⟨more, distinct, bounds⟩ := step_grants step
  obtain ⟨exclusive, halted⟩ := owning.halted_step step
  have used := Runs.uses (owning.used event)
  have shown : grants (calls ++ (descriptors.step router event).2) =
      grants calls ++ grants ((machine.step router event).2.flatMap Obs.descriptorCalls) := by
    change grants (calls ++ ((descriptorsUsed router event).map .use ++ _)) = _
    rw [grants_append, grants_append, grants_use, List.nil_append]
  refine ⟨owning.runs.append (used.append (step_runs numbered step)),
    owning.slots_step numbered event, exclusive, halted, ?_, ?_⟩
  · rw [shown]
    refine owning.distinct.append distinct fun socket before new => ?_
    have old := owning.known socket before
    have least := (bounds socket new).1
    omega
  · rw [shown]
    intro socket member
    rcases List.mem_append.mp member with before | new
    · exact (owning.known socket before).trans_le more
    · exact (bounds socket new).2

/-- The calls on descriptors change nothing about the router. -/
theorem descriptors_after (router : MavlinkRouter) (events : List Event) :
    descriptors.after router events = machine.after router events := by
  induction events generalizing router with
  | nil => rfl
  | cons event rest ih => exact ih _

/-- In every run the objects hold what is open. -/
theorem owning (uplink : Bool) (events : List Event) :
    Owning (machine.after { uplink } events) (descriptors.outputs { uplink } events) := by
  have numbered : Numbered { uplink } [] := by
    refine ⟨List.nodup_nil, ?_, ?_⟩
    · exact fun _ member => by cases member
    · exact fun _ _ _ member => by cases member
  have kept := Mealy.invariant_of_step (m := descriptors)
    (fun router calls => Owning router calls ∧ ∃ trace, Numbered router trace)
    ⟨owning_fresh uplink, [], numbered⟩
    (fun router calls event ⟨owning, trace, numbered⟩ =>
      ⟨owning.keeps numbered event, _, numbered.keeps (machine_step router event)⟩) events
  rw [← descriptors_after]
  exact kept.1

/-- A TCP server whose clients come and go, two of them under one number, and a UDP output in its
place. -/
def turnedOver : List Event :=
  [.setEndpoints [{ kind := .tcpServer, host := "" }], .start true, .loopTest,
    .loopRebuild [{ socket := some 5, bind := true, listen := true }], .loopCollect,
    .loopPoll .ready, .loopLock, .loopSlot { pollin := true, accepted := some 6 }, .loopClose,
    .loopTest, .loopRebuild [], .loopCollect, .loopPoll .ready, .loopLock,
    .loopSlot { pollin := true, accepted := some 7 }, .loopSlot { pollerrOrPollhup := true },
    .loopClose, .feedDownlink [0] 0 [], .loopTest, .loopRebuild [], .loopCollect,
    .loopPoll .ready, .loopLock, .loopSlot { pollin := true, accepted := some 6 },
    .loopSlot { pollin := true, received := some [] }, .loopClose,
    .setEndpoints [{ host := "" }], .loopTest, .loopRebuild [{ socket := some 7 }], .loopCollect,
    .stopRequest, .loopPoll .woken, .stopJoin]

end Router

end MobileGs
