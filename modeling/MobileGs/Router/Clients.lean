import MobileGs.Router.Transitions

/-!
# The sockets of clients

Only TCP servers have clients. Every accepted socket has a serial number of its own, so no two
clients are the same socket, and the descriptors the loop has still to look at belong to a client
only where a TCP server does (`Clients.keeps`).

So what a UDP endpoint reads came in a datagram (`delivery_datagram`).
-/

set_option autoImplicit false

namespace MobileGs

namespace Router

/-! ## Descriptors -/

/-- The descriptors the loop has still to look at. -/
def LoopPoint.slots : LoopPoint → List Slot
  | .poll slots => slots
  | .lock slots => slots
  | .walk slots _ => slots
  | _ => []

/-- The loop takes up descriptors at one point only. -/
theorem step_slots (router : MavlinkRouter) (event : Event) :
    ∀ slot ∈ (machine.step router event).1.loop.slots, slot ∈ router.loop.slots ∨
      (machine.step router event).1.endpoints = router.endpoints ∧
        slot ∈ router.endpoints.flatMap MavlinkRouter.slotsOf := by
  intro slot member
  cases event with
  | setEndpoints endpoints =>
      simp only [machine, MavlinkRouter.setEndpoints] at member
      split at member <;> exact .inl member
  | start pipe =>
      simp only [machine, MavlinkRouter.start] at member
      repeat' split at member
      all_goals first | exact .inl member | cases member
  | stopRequest =>
      simp only [machine, MavlinkRouter.stopRequest] at member
      split at member <;> exact .inl member
  | stopJoin =>
      simp only [machine, MavlinkRouter.stopJoin] at member
      split at member
      · cases member
      · exact .inl member
  | feedDownlink data nowMs taken =>
      simp only [machine, MavlinkRouter.feedDownlink] at member
      split at member <;> exact .inl member
  | loopTest =>
      simp only [machine, MavlinkRouter.loopTest] at member
      split at member
      · dsimp only at member
        split at member <;> cases member
      · exact .inl member
  | loopRebuild calls =>
      simp only [machine, MavlinkRouter.loopRebuild] at member
      split at member
      · cases member
      · exact .inl member
  | loopCollect =>
      simp only [machine, MavlinkRouter.loopCollect] at member ⊢
      split at member
      · rename_i turn
        rw [if_pos turn]
        exact .inr ⟨rfl, member⟩
      · exact .inl member
  | loopPoll result =>
      simp only [machine, MavlinkRouter.loopPoll] at member
      split at member
      · rename_i slots turn
        rw [turn]
        left
        cases result <;> dsimp only at member <;> repeat' split at member
        all_goals first | exact member | cases member
      · exact .inl member
  | loopLock =>
      simp only [machine, MavlinkRouter.loopLock] at member
      split at member
      · rename_i slots turn
        rw [turn]
        exact .inl member
      · exact .inl member
  | loopSlot answer =>
      simp only [machine, MavlinkRouter.loopSlot] at member
      split at member
      · rename_i first rest toClose walking
        rw [walking]
        left
        apply List.mem_cons_of_mem first
        split at member
        · exact member
        · rename_i endpoint _
          cases action : MavlinkRouter.slotAction endpoint first answer <;>
            rw [action] at member <;> exact member
      · exact .inl member
  | loopClose =>
      simp only [machine, MavlinkRouter.loopClose] at member
      split at member
      · cases member
      · exact .inl member

/-- Only a TCP server accepts. -/
theorem slotAction_accept {endpoint : Endpoint} {slot : Slot} {answer : SlotAnswer} {fd : ℕ}
    (accepts : MavlinkRouter.slotAction endpoint slot answer = .accept fd) :
    endpoint.config.kind = .tcpServer := by
  unfold MavlinkRouter.slotAction at accepts
  repeat' split at accepts
  all_goals first | assumption | cases accepts

/-- A descriptor of its own gives a UDP endpoint datagrams. -/
theorem slotAction_handle {endpoint : Endpoint} {slot : Slot} {answer : SlotAnswer}
    {source : Source} {data : List Byte}
    (handles : MavlinkRouter.slotAction endpoint slot answer = .handle source data) :
    slot.isClient = true ∨ ∃ sender, source = .datagram sender := by
  unfold MavlinkRouter.slotAction at handles
  repeat' split at handles
  all_goals first
    | exact .inl (by assumption)
    | cases handles
  all_goals exact .inr ⟨_, rfl⟩

/-! ## The invariant -/

/-- Clients belong to TCP servers, were accepted before, and are different sockets. -/
structure Clients (router : MavlinkRouter) : Prop where
  tcp : ∀ endpoint ∈ router.endpoints, endpoint.clients ≠ [] →
    endpoint.config.kind = .tcpServer
  known : ∀ client ∈ router.endpoints.flatMap Endpoint.clients, client.serial < router.nextSerial
  apart : (router.endpoints.flatMap Endpoint.clients).Nodup
  slots : ∀ slot ∈ router.loop.slots, slot.isClient = true →
    ∀ ref ∈ router.endpoints.map Endpoint.ref, ref.id = slot.endpoint →
      ref.config.kind = .tcpServer

theorem clients_fresh : Clients fresh where
  tcp := fun _ member => by cases member
  known := fun _ member => by cases member
  apart := List.nodup_nil
  slots := fun _ member => by cases member

/-! ## Steps -/

theorem openEndpoints_clients {id serial : ℕ} {configured : List MavlinkEndpoint}
    {calls : List SocketCalls} {endpoint : Endpoint}
    (member : endpoint ∈ (openEndpoints id serial configured calls).1) :
    endpoint.clients = [] := by
  have opens : ∀ id serial config calls endpoint,
      openEndpoint id serial config calls = some endpoint → endpoint.clients = [] := by
    intro id serial config calls endpoint opened
    unfold openEndpoint at opened
    grind
  exact forall_openEndpoints opens member

/-- What a replacement has beyond the object it replaces comes to what there is. -/
theorem flatMap_update {β : Type} (f : Endpoint → List β) {endpoints : List Endpoint}
    (distinct : (endpoints.map Endpoint.id).Nodup) {endpoint : Endpoint} (replacement : Endpoint)
    (member : endpoint ∈ endpoints) (identity : replacement.id = endpoint.id) {extra : List β}
    (gains : (f replacement).Perm (extra ++ f endpoint)) :
    ((MavlinkRouter.update endpoints replacement).flatMap f).Perm
      (extra ++ endpoints.flatMap f) := by
  induction endpoints with
  | nil => cases member
  | cons first rest ih =>
      obtain ⟨new, distinct⟩ := List.nodup_cons.mp distinct
      rcases List.mem_cons.mp member with rfl | later
      · have others : MavlinkRouter.update rest replacement = rest := by
          refine (List.map_congr_left ?_).trans (List.map_id rest)
          intro other among
          refine if_neg fun same => new ?_
          rw [← identity, ← same]
          exact List.mem_map_of_mem among
        simp only [MavlinkRouter.update] at others
        simp only [MavlinkRouter.update, List.map_cons, identity, if_true, List.flatMap_cons]
        rw [← identity, others, ← List.append_assoc]
        exact gains.append_right _
      · have other : first.id ≠ replacement.id := by
          intro same
          apply new
          rw [same, identity]
          exact List.mem_map_of_mem later
        have perm := ih distinct later
        simp only [MavlinkRouter.update] at perm
        simp only [MavlinkRouter.update, List.map_cons, if_neg other, List.flatMap_cons]
        refine (perm.append_left _).trans ?_
        rw [← List.append_assoc, ← List.append_assoc]
        exact List.perm_append_comm.append_right _

/-- A new client comes to those there are. -/
theorem flatMap_accept {endpoints : List Endpoint}
    (distinct : (endpoints.map Endpoint.id).Nodup) {endpoint : Endpoint}
    (member : endpoint ∈ endpoints) (client : Socket) :
    ((MavlinkRouter.update endpoints
        { endpoint with clients := endpoint.clients ++ [client] }).flatMap Endpoint.clients).Perm
      (client :: endpoints.flatMap Endpoint.clients) := by
  let replacement : Endpoint := { endpoint with clients := endpoint.clients ++ [client] }
  have gains : replacement.clients.Perm ([client] ++ endpoint.clients) := List.perm_append_comm
  exact flatMap_update Endpoint.clients distinct replacement member rfl gains

/-- The same objects, each with some of its clients. -/
def FewerClients : List Endpoint → List Endpoint → Prop :=
  List.Forall₂ fun fewer endpoint =>
    fewer.ref = endpoint.ref ∧ fewer.clients.Sublist endpoint.clients

theorem FewerClients.refl (endpoints : List Endpoint) : FewerClients endpoints endpoints :=
  List.forall₂_same.mpr fun _ _ => ⟨rfl, List.Sublist.refl _⟩

theorem FewerClients.trans {first second third : List Endpoint}
    (fewer : FewerClients first second) (fewer' : FewerClients second third) :
    FewerClients first third := by
  induction fewer generalizing third with
  | nil => exact fewer'
  | cons head _ ih =>
      cases fewer' with
      | cons head' tail' =>
          exact .cons ⟨head.1.trans head'.1, head.2.trans head'.2⟩ (ih tail')

theorem FewerClients.flatMap {fewer endpoints : List Endpoint}
    (closed : FewerClients fewer endpoints) :
    (fewer.flatMap Endpoint.clients).Sublist (endpoints.flatMap Endpoint.clients) := by
  induction closed with
  | nil => exact List.Sublist.slnil
  | cons head _ ih => exact head.2.append ih

theorem FewerClients.mem {fewer endpoints : List Endpoint}
    (closed : FewerClients fewer endpoints) {endpoint : Endpoint} (member : endpoint ∈ fewer) :
    ∃ before ∈ endpoints, endpoint.ref = before.ref ∧
      endpoint.clients.Sublist before.clients := by
  induction closed with
  | nil => cases member
  | cons head _ ih =>
      rcases List.mem_cons.mp member with rfl | later
      · exact ⟨_, List.mem_cons_self, head⟩
      · obtain ⟨before, among, kept⟩ := ih later
        exact ⟨before, List.mem_cons_of_mem _ among, kept⟩

theorem closeClient_fewer (fd : ℕ) (endpoints : List Endpoint) :
    FewerClients (MavlinkRouter.closeClient fd endpoints).1 endpoints := by
  induction endpoints with
  | nil => exact .nil
  | cons endpoint rest ih =>
      simp only [MavlinkRouter.closeClient]
      split
      · exact .cons ⟨rfl, List.erase_sublist⟩ (FewerClients.refl rest)
      · exact .cons ⟨rfl, List.Sublist.refl _⟩ ih

theorem closeClients_fewer (toClose : List ℕ) (endpoints : List Endpoint) :
    FewerClients (MavlinkRouter.closeClients endpoints toClose).1 endpoints := by
  induction toClose generalizing endpoints with
  | nil => exact FewerClients.refl endpoints
  | cons fd rest ih => exact (ih _).trans (closeClient_fewer fd endpoints)

/-- Live objects come from before the step, unless it rebuilds. -/
theorem step_refs {router router' : MavlinkRouter} {event : Event} {emitted trace : List Obs}
    (numbered : Numbered router trace) (step : Transition router event router' emitted) :
    router.loop = .rebuild ∨
      ∀ ref ∈ router'.endpoints.map Endpoint.ref, ref ∈ router.endpoints.map Endpoint.ref := by
  have kept {endpoints : List Endpoint}
      (same : endpoints.map Endpoint.ref = router.endpoints.map Endpoint.ref) :
      ∀ ref ∈ endpoints.map Endpoint.ref, ref ∈ router.endpoints.map Endpoint.ref := by
    rw [same]
    exact fun _ member => member
  cases step with
  | rebuild calls turn => exact .inl turn
  | stopJoin => exact .inr fun _ member => by cases member
  | accept answer slot rest toClose endpoint fd walking found =>
      exact .inr (kept (numbered.map_update Endpoint.ref found rfl rfl))
  | handle answer slot rest toClose endpoint handled source data passed walking found handles
      result =>
      exact .inr (kept (numbered.map_handled Endpoint.ref found result (fun _ _ => rfl)
        (fun _ _ _ => rfl)))
  | closeClients toClose =>
      exact .inr (kept (map_closeClients Endpoint.ref (fun _ _ => rfl) _ _))
  | _ => exact .inr fun _ member => member

/-- The descriptors of clients belong to TCP servers after every step. -/
theorem Clients.slots_step {router : MavlinkRouter} {trace : List Obs} (clients : Clients router)
    (numbered : Numbered router trace) (event : Event) :
    ∀ slot ∈ (machine.step router event).1.loop.slots, slot.isClient = true →
      ∀ ref ∈ (machine.step router event).1.endpoints.map Endpoint.ref, ref.id = slot.endpoint →
        ref.config.kind = .tcpServer := by
  intro slot member isClient ref live same
  rcases step_slots router event slot member with before | ⟨endpoints, taken⟩
  · rcases step_refs numbered (machine_step router event) with rebuilds | refs
    · rw [rebuilds] at before
      cases before
    · exact clients.slots slot before isClient ref (refs ref live) same
  · rw [endpoints] at live
    obtain ⟨owner, owns, slotOf⟩ := List.mem_flatMap.mp taken
    obtain ⟨endpoint, among, rfl⟩ := List.mem_map.mp live
    unfold MavlinkRouter.slotsOf at slotOf
    split at slotOf
    · cases slotOf
    · rcases List.mem_cons.mp slotOf with rfl | slotOf
      · cases isClient
      · obtain ⟨client, has, rfl⟩ := List.mem_map.mp slotOf
        rw [eq_of_id_eq numbered.distinct owns among same]
        exact clients.tcp owner owns (List.ne_nil_of_mem has)

/-- Handling data leaves an endpoint its clients. -/
theorem handled_clients {uplink : Bool} {endpoint handled : Endpoint} {source : Source}
    {data : List Byte} {passed : List (List Byte)}
    (result : MavlinkRouter.handleEndpointData uplink
      (MavlinkRouter.learnPeer endpoint source) data = (handled, passed)) :
    handled.clients = endpoint.clients :=
  (handled_unframed Endpoint.clients (fun _ _ => rfl) result).trans
    (learnPeer_keeps Endpoint.clients (fun _ _ _ => rfl) endpoint source)

/-- **Every step keeps the clients.** -/
theorem Clients.keeps {router : MavlinkRouter} {trace : List Obs} (clients : Clients router)
    (numbered : Numbered router trace) (event : Event) :
    Clients (machine.step router event).1 := by
  have slots := clients.slots_step numbered event
  have step := machine_step router event
  revert slots step
  generalize (machine.step router event).1 = router'
  generalize (machine.step router event).2 = emitted
  intro slots step
  cases step with
  | stopJoin =>
      refine ⟨?_, ?_, List.nodup_nil, slots⟩
      · exact fun _ member => absurd member List.not_mem_nil
      · exact fun _ member => absurd member List.not_mem_nil
  | rebuild calls =>
      have none : (openEndpoints router.nextId router.nextSerial router.configured calls).1.flatMap
          Endpoint.clients = [] :=
        List.flatMap_eq_nil_iff.mpr fun _ member => openEndpoints_clients member
      refine ⟨?_, ?_, ?_, slots⟩
      · intro endpoint member some
        exact absurd (openEndpoints_clients member) some
      · rw [none]
        exact fun _ member => by cases member
      · rw [none]
        exact List.nodup_nil
  | accept answer slot rest toClose endpoint fd walking found accepts =>
      have perm := flatMap_accept numbered.distinct (present_mem found) ⟨fd, router.nextSerial⟩
      refine ⟨?_, ?_, ?_, slots⟩
      · intro other member some
        rcases mem_update member with rfl | ⟨old, -⟩
        · exact slotAction_accept accepts
        · exact clients.tcp other old some
      · intro client member
        rcases List.mem_cons.mp (perm.mem_iff.mp member) with rfl | old
        · exact Nat.lt_succ_self _
        · exact (clients.known client old).trans (Nat.lt_succ_self _)
      · rw [perm.nodup_iff, List.nodup_cons]
        exact ⟨fun member => Nat.lt_irrefl _ (clients.known _ member), clients.apart⟩
  | handle answer slot rest toClose endpoint handled source data passed walking found handles
      result =>
      have ref := handled_ref result
      have same := numbered.map_handled Endpoint.clients found result (fun _ _ => rfl)
        (fun _ _ _ => rfl)
      have all : (MavlinkRouter.update router.endpoints handled).flatMap Endpoint.clients =
          router.endpoints.flatMap Endpoint.clients := by
        rw [List.flatMap_def, same, ← List.flatMap_def]
      refine ⟨?_, ?_, ?_, slots⟩
      · intro other member some
        rcases mem_update member with rfl | ⟨old, -⟩
        · rw [handled_clients result] at some
          have config : other.config = endpoint.config := congrArg EndpointRef.config ref
          rw [config]
          exact clients.tcp endpoint (present_mem found) some
        · exact clients.tcp other old some
      · rw [all]
        exact clients.known
      · rw [all]
        exact clients.apart
  | closeClients toClose =>
      have fewer := closeClients_fewer toClose router.endpoints
      refine ⟨?_, ?_, ?_, slots⟩
      · intro endpoint member some
        obtain ⟨before, among, ref, sublist⟩ := fewer.mem member
        have config : endpoint.config = before.config := congrArg EndpointRef.config ref
        rw [config]
        apply clients.tcp before among
        intro none
        rw [none] at sublist
        exact some (List.sublist_nil.mp sublist)
      · exact fun client member => clients.known client (fewer.flatMap.subset member)
      · exact clients.apart.sublist fewer.flatMap
  | _ => exact ⟨clients.tcp, clients.known, clients.apart, slots⟩

/-- **In every run only TCP servers have clients, and no two clients are the same socket.** -/
theorem clients (events : List Event) : Clients (machine.after fresh events) := by
  have kept := Mealy.invariant_of_step
    (fun router trace => Numbered router trace ∧ Clients router)
    ⟨numbered_fresh, clients_fresh⟩ (fun router trace event held =>
      ⟨held.1.keeps (machine_step router event), held.2.keeps held.1 event⟩) events
  exact kept.2

/-- What a UDP endpoint reads came in a datagram. -/
theorem Clients.delivery_datagram {router : MavlinkRouter} (clients : Clients router)
    {event : Event} {endpoint : Endpoint} {source : Source} {data : List Byte}
    (delivered : delivery router event = some (endpoint, source, data))
    (udp : endpoint.config.kind ≠ .tcpServer) : ∃ sender, source = .datagram sender := by
  cases event with
  | loopSlot answer =>
      simp only [delivery] at delivered
      split at delivered
      · rename_i slot rest toClose walking
        split at delivered
        · cases delivered
        · rename_i owner found
          split at delivered
          · rename_i origin bytes handles
            obtain ⟨rfl, rfl, rfl⟩ := by simpa using delivered
            rcases slotAction_handle handles with isClient | datagram
            · refine absurd (clients.slots slot ?_ isClient owner.ref
                (List.mem_map_of_mem (present_mem found)) ?_) udp
              · rw [walking]
                exact List.mem_cons_self
              · exact present_id found
            · exact datagram
          · cases delivered
      · cases delivered
  | _ => cases delivered

end Router

end MobileGs
