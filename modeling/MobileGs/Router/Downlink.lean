import MobileGs.Router.ClientStreams
import MobileGs.Router.Clients

/-!
# What a client receives of the downlink

`FeedDownlink` offers its buffer to every client with one `send` and drops the result. A refused
send skips the buffer for that client, but a send that takes a part of the buffer cuts the
client's stream inside a message (`not_wholeBuffers_shortWrite`).

Each call offers its buffer to a client once at most, as clients are different sockets
(`Clients`). So where a send takes all or nothing, a client receives whole buffers in the order
they were fed (`wholeBuffers_of_everyStep`).
-/

set_option autoImplicit false

namespace MobileGs

namespace Router

open Mavlink

/-! ## The stream of one client -/

/-- What a socket accepts at an observation. -/
def Obs.takenBy (client : Socket) : Obs → List Byte
  | .sent _ destination data taken =>
      if destination = .client client then data.take (taken.getD 0) else []
  | _ => []

/-- The bytes a socket accepts. -/
def acceptedBytes (client : Socket) (trace : List Obs) : List Byte :=
  trace.flatMap (Obs.takenBy client)

/-- The buffers passed to `FeedDownlink`, in order. -/
def fedBuffers (events : List Event) : List (List Byte) :=
  events.filterMap fun event =>
    match event with
    | .feedDownlink data _ _ => some data
    | _ => none

/-- Every socket accepts whole buffers, each once at most and in the order they were fed. -/
def WholeBuffers (events : List Event) (trace : List Obs) : Prop :=
  ∀ client, ∃ delivered : List (List Byte),
    delivered.Sublist (fedBuffers events) ∧ acceptedBytes client trace = delivered.flatten

/-- The socket of a client that is sent to. -/
def Source.client? : Source → Option Socket
  | .client socket => some socket
  | .datagram _ => none

/-- A send to a client that takes a part of the buffer takes all of it. -/
def AllOrNothing (router : MavlinkRouter) (_ : List Obs) : Event → Prop
  | .feedDownlink data _ taken =>
      router.locked = false → ∀ send ∈ router.sends.zipIdx, send.1.2.client?.isSome = true →
        (taken.getD send.2 none).getD 0 = 0 ∨ data.length ≤ (taken.getD send.2 none).getD 0
  | _ => True

instance (router : MavlinkRouter) (trace : List Obs) :
    ∀ event, Decidable (AllOrNothing router trace event)
  | .feedDownlink _ _ _ => inferInstanceAs (Decidable (_ → _))
  | .setEndpoints _ | .start _ | .stopRequest | .stopJoin | .loopTest | .loopRebuild _
  | .loopCollect | .loopPoll _ | .loopLock | .loopSlot _ | .loopClose =>
      inferInstanceAs (Decidable True)

theorem acceptedBytes_append (client : Socket) (trace emitted : List Obs) :
    acceptedBytes client (trace ++ emitted) =
      acceptedBytes client trace ++ acceptedBytes client emitted :=
  List.flatMap_append

theorem acceptedBytes_silent {client : Socket} {emitted : List Obs}
    (silent : ∀ ref destination data taken, Obs.sent ref destination data taken ∉ emitted) :
    acceptedBytes client emitted = [] := by
  apply List.flatMap_eq_nil_iff.mpr
  intro obs member
  cases obs with
  | sent ref destination data taken => exact absurd member (silent ref destination data taken)
  | _ => rfl

theorem fedBuffers_append (events later : List Event) :
    fedBuffers (events ++ later) = fedBuffers events ++ fedBuffers later :=
  List.filterMap_append

/-! ## One call -/

theorem destinations_clients (endpoint : Endpoint) :
    ((MavlinkRouter.destinations endpoint).filterMap Source.client?).Sublist endpoint.clients := by
  have all : (endpoint.clients.map Source.client).filterMap Source.client? = endpoint.clients := by
    rw [List.filterMap_map]
    exact List.filterMap_some
  unfold MavlinkRouter.destinations
  split
  · exact List.nil_sublist _
  · split
    · rw [all]
    · split <;> exact List.nil_sublist _

/-- No client is sent to twice. -/
theorem Clients.sends_nodup {router : MavlinkRouter} (clients : Clients router) :
    (router.sends.filterMap fun send => send.2.client?).Nodup := by
  refine clients.apart.sublist ?_
  rw [MavlinkRouter.sends, List.filterMap_flatMap]
  apply List.Sublist.flatMap_right
  intro endpoint _
  rw [List.filterMap_map]
  exact destinations_clients endpoint

section Sends

variable {client : Socket} {data : List Byte} {taken : List (Option ℕ)}

/-- One send of a call, with its place among the answers. -/
def sendObs (data : List Byte) (taken : List (Option ℕ)) (send : (EndpointRef × Source) × ℕ) :
    Obs :=
  .sent send.1.1 send.1.2 data (taken.getD send.2 none)

theorem acceptedBytes_others {sends : List ((EndpointRef × Source) × ℕ)}
    (others : client ∉ sends.filterMap fun send => send.1.2.client?) :
    acceptedBytes client (sends.map (sendObs data taken)) = [] := by
  apply List.flatMap_eq_nil_iff.mpr
  intro obs member
  obtain ⟨send, among, rfl⟩ := List.mem_map.mp member
  refine if_neg fun same => others (List.mem_filterMap.mpr ⟨send, among, ?_⟩)
  rw [same]
  rfl

/-- Of sends to different clients that take all or nothing, a socket accepts the buffer or
nothing. -/
theorem acceptedBytes_sends {sends : List ((EndpointRef × Source) × ℕ)}
    (once : (sends.filterMap fun send => send.1.2.client?).Nodup)
    (whole : ∀ send ∈ sends, send.1.2.client?.isSome = true →
      (taken.getD send.2 none).getD 0 = 0 ∨ data.length ≤ (taken.getD send.2 none).getD 0) :
    acceptedBytes client (sends.map (sendObs data taken)) = [] ∨
      acceptedBytes client (sends.map (sendObs data taken)) = data := by
  induction sends with
  | nil => exact .inl rfl
  | cons send rest ih =>
      rw [List.map_cons, ← List.singleton_append, acceptedBytes_append]
      by_cases same : send.1.2 = .client client
      · have is : send.1.2.client? = some client := by
          rw [same]
          rfl
        have first : ((send :: rest).filterMap fun send => send.1.2.client?) =
            client :: rest.filterMap fun send => send.1.2.client? := List.filterMap_cons_some is
        rw [first, List.nodup_cons] at once
        rw [acceptedBytes_others once.1, List.append_nil]
        have head : acceptedBytes client [sendObs data taken send] =
            data.take ((taken.getD send.2 none).getD 0) :=
          (List.flatMap_singleton _ _).trans (if_pos same)
        rw [head]
        rcases whole send List.mem_cons_self (by rw [is]; rfl) with nothing | all
        · rw [nothing]
          exact .inl rfl
        · exact .inr (List.take_of_length_le all)
      · have head : acceptedBytes client [sendObs data taken send] = [] :=
          (List.flatMap_singleton _ _).trans (if_neg same)
        rw [head, List.nil_append]
        refine ih (once.sublist ?_) fun other among => whole other (List.mem_cons_of_mem _ among)
        exact (List.sublist_cons_self send rest).filterMap _

end Sends

/-- **One call gives a socket its buffer or nothing.** -/
theorem acceptedBytes_feedDownlink {router : MavlinkRouter} (clients : Clients router)
    {trace : List Obs} {data : List Byte} {nowMs : UInt64} {taken : List (Option ℕ)}
    (whole : AllOrNothing router trace (.feedDownlink data nowMs taken)) (client : Socket) :
    acceptedBytes client (router.feedDownlink data nowMs taken).2 = [] ∨
      acceptedBytes client (router.feedDownlink data nowMs taken).2 = data := by
  unfold MavlinkRouter.feedDownlink
  split
  · exact .inl rfl
  · rename_i runs
    have free : router.locked = false := by
      cases locked : router.locked with
      | false => rfl
      | true => simp [locked] at runs
    have once : (router.sends.zipIdx.filterMap fun send => send.1.2.client?).Nodup := by
      have pairs : router.sends.zipIdx.filterMap (fun send => send.1.2.client?) =
          (router.sends.zipIdx.map Prod.fst).filterMap fun send => send.2.client? := by
        rw [List.filterMap_map]
        rfl
      rw [pairs, List.zipIdx_map_fst]
      exact clients.sends_nodup
    have quiet (messages : List MavlinkMessage) :
        acceptedBytes client (messages.map .downlink) = [] :=
      acceptedBytes_silent (by simp)
    rw [acceptedBytes_append, quiet, List.nil_append]
    exact acceptedBytes_sends once (whole free)

/-- What a step other than a call of `FeedDownlink` gives a socket. -/
theorem acceptedBytes_step {router : MavlinkRouter} {event : Event}
    (other : fedBuffers [event] = []) (client : Socket) :
    acceptedBytes client (machine.step router event).2 = [] := by
  apply acceptedBytes_silent
  intro ref destination data taken member
  obtain ⟨-, -, nowMs, answers, rfl⟩ := (machine_step router event).sent member
  cases other

/-! ## Runs -/

/-- **In a run where every send to a client takes all or nothing, every client receives whole
buffers in the order they were fed.** -/
theorem wholeBuffers_of_everyStep (events : List Event)
    (whole : machine.EveryStep AllOrNothing fresh events) :
    WholeBuffers events (machine.outputs fresh events) := by
  intro client
  induction events using List.reverseRecOn with
  | nil => exact ⟨[], List.Sublist.slnil, rfl⟩
  | append_singleton events event ih =>
      obtain ⟨delivered, sublist, same⟩ := ih whole.front
      rw [machine.outputs_concat, acceptedBytes_append, same, fedBuffers_append]
      by_cases other : fedBuffers [event] = []
      · rw [acceptedBytes_step other, other, List.append_nil, List.append_nil]
        exact ⟨delivered, sublist, rfl⟩
      · cases event with
        | feedDownlink data nowMs taken =>
            rcases acceptedBytes_feedDownlink (clients events) whole.last client with
              nothing | all
            · refine ⟨delivered, sublist.trans (List.sublist_append_left _ _), ?_⟩
              exact (congrArg (delivered.flatten ++ ·) nothing).trans (List.append_nil _)
            · refine ⟨delivered ++ [data], sublist.append (List.Sublist.refl [data]), ?_⟩
              rw [List.flatten_append, List.flatten_singleton]
              exact congrArg (delivered.flatten ++ ·) all
        | _ => exact absurd rfl other

/-- One client connects, and then the buffers are fed, each with the answer of its send. -/
def clientIsFed (buffers : List (List Byte × Option ℕ)) : List Event :=
  [.setEndpoints [station], .start true] ++ turn [{ pollin := true, accepted := some 10 }] ++
    buffers.map fun (data, taken) => .feedDownlink data 0 [taken]

/-- The second of three heartbeats is refused. -/
theorem wholeBuffers_refused :
    WholeBuffers
      (clientIsFed [([0xfe, 0, 0, 1, 1, 0, 7, 8], some 8), ([0xfe, 0, 1, 1, 1, 0, 7, 8], none),
        ([0xfe, 0, 2, 1, 1, 0, 7, 8], some 8)])
      (machine.outputs fresh
        (clientIsFed [([0xfe, 0, 0, 1, 1, 0, 7, 8], some 8),
          ([0xfe, 0, 1, 1, 1, 0, 7, 8], none), ([0xfe, 0, 2, 1, 1, 0, 7, 8], some 8)])) :=
  wholeBuffers_of_everyStep _ (by decide)

/-- The socket takes three bytes of a heartbeat, and the rest never follows. -/
theorem not_wholeBuffers_shortWrite :
    ¬ WholeBuffers (clientIsFed [([0xfe, 0, 0, 1, 1, 0, 7, 8], some 3)])
      (machine.outputs fresh (clientIsFed [([0xfe, 0, 0, 1, 1, 0, 7, 8], some 3)])) := by
  intro whole
  obtain ⟨delivered, sublist, same⟩ := whole ⟨10, 1⟩
  have fed : fedBuffers (clientIsFed [([0xfe, 0, 0, 1, 1, 0, 7, 8], some 3)]) =
      [[0xfe, 0, 0, 1, 1, 0, 7, 8]] := by decide
  have accepted : acceptedBytes ⟨10, 1⟩ (machine.outputs fresh
      (clientIsFed [([0xfe, 0, 0, 1, 1, 0, 7, 8], some 3)])) = [0xfe, 0, 0] := by decide
  rw [fed, List.sublist_singleton] at sublist
  rw [accepted] at same
  rcases sublist with rfl | rfl
  · cases same
  · simp at same

end Router

end MobileGs
