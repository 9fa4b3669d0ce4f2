import MobileGs.Router.Clients
import MobileGs.Router.EndpointStreams
import MobileGs.Router.Uplink

/-!
# Whom a UDP endpoint talks to

A UDP endpoint is made for one peer: the configured host and port, or the sender of the first
datagram a server hears. But a server makes the sender of every datagram its peer, and an endpoint
with a configured peer handles what anyone sends to its port (`not_converses_stranger`).

As long as a server hears only the peer it has learned, and an uplink endpoint with a configured
peer hears only that, everything an endpoint passes on comes from its peer and everything it sends
goes there (`converses_of_everyStep`).

`inet_pton` is a parameter. The run's answers follow it.
-/

set_option autoImplicit false

namespace MobileGs

namespace Router

open Mavlink

/-! ## The peer of an endpoint -/

/-- The sender of the first datagram an endpoint received. -/
def firstSender (ref : EndpointRef) (trace : List Obs) : Option SockAddr :=
  trace.findSome? fun obs =>
    match obs with
    | .received endpoint (.datagram sender) _ => if endpoint = ref then some sender else none
    | _ => none

/-- The peer a UDP endpoint is meant for. -/
def peerOf (inetPton : String → Option UInt32) (ref : EndpointRef) (trace : List Obs) :
    Option SockAddr :=
  match ref.config.kind with
  | .udpOut => resolveIpv4 ref.config.host ref.config.port (inetPton ref.config.host)
  | .udpServer => firstSender ref trace
  | .tcpServer => none

/-- Every UDP endpoint sends to its peer, and passes on what its peer sent. -/
def Converses (inetPton : String → Option UInt32) (trace : List Obs) : Prop :=
  ∀ ref, ref.config.kind ≠ .tcpServer →
    (∀ destination data taken, .sent ref destination data taken ∈ trace →
      ∃ peer, peerOf inetPton ref trace = some peer ∧ destination = .datagram peer) ∧
    (∀ source frame, .uplink ref source frame ∈ trace →
      ∃ peer, peerOf inetPton ref trace = some peer ∧ source = .datagram peer) ∧
    ∀ peer, peerOf inetPton ref trace = some peer → ref.config.allowUplink = true →
      uplinkedBy ref trace = freshFrames (receivedFrom ref (.datagram peer) trace)

/-- The answers for the enabled entries are those of `inetPton`. -/
def Answers (inetPton : String → Option UInt32) : List MavlinkEndpoint → List SocketCalls → Prop
  | [], _ => True
  | config :: rest, calls =>
      (config.enabled = true → (calls.headD {}).inetPton = inetPton config.host) ∧
        Answers inetPton rest calls.tail

instance decidableAnswers (inetPton : String → Option UInt32) :
    ∀ configured calls, Decidable (Answers inetPton configured calls)
  | [], _ => inferInstanceAs (Decidable True)
  | _ :: rest, calls =>
      have := decidableAnswers inetPton rest calls.tail
      inferInstanceAs (Decidable (_ ∧ _))

/-- A rebuild gets the answers of `inetPton`. -/
def Resolves (inetPton : String → Option UInt32) (router : MavlinkRouter) (_ : List Obs) :
    Event → Prop
  | .loopRebuild calls =>
      router.loop = .rebuild → router.endpointsDirty = true →
        Answers inetPton router.configured calls
  | _ => True

instance (inetPton : String → Option UInt32) (router : MavlinkRouter) (trace : List Obs) :
    ∀ event, Decidable (Resolves inetPton router trace event)
  | .loopRebuild _ => inferInstanceAs (Decidable (_ → _))
  | .setEndpoints _ | .start _ | .stopRequest | .stopJoin | .feedDownlink _ _ _ | .loopTest
  | .loopCollect | .loopPoll _ | .loopLock | .loopSlot _ | .loopClose =>
      inferInstanceAs (Decidable True)

/-- What a server is about to handle comes from the peer it has learned, if it has one, and what
an uplink endpoint with a configured peer is about to handle comes from that. -/
def FromPeer (router : MavlinkRouter) (_ : List Obs) (event : Event) : Prop :=
  ∀ delivered ∈ delivery router event,
    (delivered.1.config.kind = .udpServer → delivered.1.havePeer = true →
      delivered.2.1 = .datagram delivered.1.peer) ∧
    (delivered.1.config.kind = .udpOut → delivered.1.config.allowUplink = true →
      delivered.2.1 = .datagram delivered.1.peer)

instance (router : MavlinkRouter) (trace : List Obs) (event : Event) :
    Decidable (FromPeer router trace event) :=
  inferInstanceAs (Decidable (∀ delivered ∈ delivery router event, _))

variable {inetPton : String → Option UInt32}

theorem firstSender_append (ref : EndpointRef) (trace emitted : List Obs) :
    firstSender ref (trace ++ emitted) =
      (firstSender ref trace).or (firstSender ref emitted) :=
  List.findSome?_append

/-- A peer stays the peer. -/
theorem peerOf_append {ref : EndpointRef} {trace : List Obs} {peer : SockAddr}
    (is : peerOf inetPton ref trace = some peer) (emitted : List Obs) :
    peerOf inetPton ref (trace ++ emitted) = some peer := by
  unfold peerOf at is ⊢
  split at is
  · exact is
  · rw [firstSender_append, is]
    rfl
  · cases is

theorem firstSender_silent {ref : EndpointRef} {emitted : List Obs}
    (silent : ∀ source data, Obs.received ref source data ∉ emitted) :
    firstSender ref emitted = none := by
  apply List.findSome?_eq_none_iff.mpr
  intro obs member
  cases obs with
  | received endpoint source data =>
      cases source with
      | client => rfl
      | datagram sender =>
          refine if_neg fun same => silent (.datagram sender) data ?_
          rwa [← same]
  | _ => rfl

theorem peerOf_silent {ref : EndpointRef} {emitted : List Obs}
    (silent : ∀ source data, Obs.received ref source data ∉ emitted) (trace : List Obs) :
    peerOf inetPton ref (trace ++ emitted) = peerOf inetPton ref trace := by
  unfold peerOf
  split
  · rfl
  · rw [firstSender_append, firstSender_silent silent, Option.or_none]
  · rfl

/-! ## The peer an endpoint holds -/

/-- The peer an endpoint sends to, if it has one. -/
def Endpoint.known (endpoint : Endpoint) : Option SockAddr :=
  if endpoint.havePeer then some endpoint.peer else none

/-- An endpoint object, and the peer it holds. -/
def knowing (endpoint : Endpoint) : EndpointRef × Option SockAddr :=
  (endpoint.ref, endpoint.known)

/-- A UDP endpoint sends to the peer it holds. -/
theorem sends_known {router : MavlinkRouter} {ref : EndpointRef} {destination : Source}
    (member : (ref, destination) ∈ router.sends) (udp : ref.config.kind ≠ .tcpServer) :
    ∃ peer, (ref, some peer) ∈ router.endpoints.map knowing ∧ destination = .datagram peer := by
  obtain ⟨endpoint, live, inside⟩ := List.mem_flatMap.mp member
  obtain ⟨_, among, same⟩ := List.mem_map.mp inside
  obtain ⟨rfl, rfl⟩ := Prod.mk.inj same
  unfold MavlinkRouter.destinations at among
  split at among
  · cases among
  · split at among
    · contradiction
    · split at among
      · rename_i has
        refine ⟨endpoint.peer, List.mem_map.mpr ⟨endpoint, live, ?_⟩, List.mem_singleton.mp among⟩
        rw [knowing, Endpoint.known, if_pos has]
      · cases among

/-- The peer is the one the endpoint is meant for, and a configured one is there from the start. -/
def HoldsPeer (inetPton : String → Option UInt32) (trace : List Obs)
    (known : EndpointRef × Option SockAddr) : Prop :=
  known.1.config.kind ≠ .tcpServer →
    known.2 = peerOf inetPton known.1 trace ∧
      (known.1.config.kind = .udpOut → known.2.isSome = true)

theorem openEndpoint_known {id serial : ℕ} {config : MavlinkEndpoint} {calls : SocketCalls}
    {endpoint : Endpoint} (opened : openEndpoint id serial config calls = some endpoint)
    (answer : calls.inetPton = inetPton config.host) :
    HoldsPeer inetPton [] (knowing endpoint) := by
  unfold openEndpoint at opened
  split at opened
  · cases opened
  · dsimp only at opened
    split at opened
    · cases opened
    · rename_i addr resolved
      rw [answer] at resolved
      split at opened
      · rename_i kind
        split at opened
        · cases opened
          exact fun udp => absurd kind udp
        · cases opened
      · rename_i kind
        split at opened
        · cases opened
          intro _
          simp only [knowing, Endpoint.known, Endpoint.ref, peerOf, kind]
          exact ⟨rfl, fun udpOut => by cases udpOut⟩
        · cases opened
      · rename_i kind
        cases opened
        intro _
        simp only [knowing, Endpoint.known, Endpoint.ref, peerOf, kind, resolved]
        exact ⟨rfl, fun _ => rfl⟩

/-- The objects of a rebuild hold the peers they are configured for. -/
theorem knowing_openEndpoints {id serial : ℕ} {configured : List MavlinkEndpoint}
    {calls : List SocketCalls} (answers : Answers inetPton configured calls)
    {known : EndpointRef × Option SockAddr}
    (member : known ∈ (openEndpoints id serial configured calls).1.map knowing) :
    HoldsPeer inetPton [] known := by
  induction configured generalizing id serial calls with
  | nil => cases member
  | cons config rest ih =>
      simp only [openEndpoints] at member
      split at member
      · rename_i enabled
        rw [List.map_append] at member
        rcases List.mem_append.mp member with first | later
        · obtain ⟨endpoint, opened, rfl⟩ := List.mem_map.mp first
          exact openEndpoint_known (Option.mem_toList.mp opened) (answers.1 enabled)
        · exact ih answers.2 later
      · exact ih answers.2 member

/-- A peer held stays held while nothing is received. -/
theorem HoldsPeer.silent {trace : List Obs} {known : EndpointRef × Option SockAddr}
    (holds : HoldsPeer inetPton trace known) {emitted : List Obs}
    (silent : ∀ source data, Obs.received known.1 source data ∉ emitted) :
    HoldsPeer inetPton (trace ++ emitted) known := by
  intro udp
  rw [peerOf_silent silent]
  exact holds udp

theorem learnPeer_known (endpoint : Endpoint) (sender : SockAddr) :
    (MavlinkRouter.learnPeer endpoint (.datagram sender)).known =
      if endpoint.config.kind = .udpServer then some sender else endpoint.known := by
  cases kind : endpoint.config.kind <;>
    simp [MavlinkRouter.learnPeer, Endpoint.known, kind]

theorem handled_known {uplink : Bool} {endpoint handled : Endpoint} {source : Source}
    {data : List Byte} {passed : List (List Byte)}
    (result : MavlinkRouter.handleEndpointData uplink
      (MavlinkRouter.learnPeer endpoint source) data = (handled, passed)) :
    handled.known = (MavlinkRouter.learnPeer endpoint source).known :=
  handled_unframed Endpoint.known (fun _ _ => rfl) result

/-- A datagram from the peer, or the first one, leaves the endpoint with the peer it is meant
for, and that is its sender wherever the endpoint may answer or pass on. -/
theorem HoldsPeer.receive {trace : List Obs} {endpoint : Endpoint} {sender : SockAddr}
    {data : List Byte} {emitted : List Obs} (holds : HoldsPeer inetPton trace (knowing endpoint))
    (server : endpoint.config.kind = .udpServer → endpoint.havePeer = true →
      sender = endpoint.peer)
    (out : endpoint.config.kind = .udpOut → endpoint.config.allowUplink = true →
      sender = endpoint.peer)
    (udp : endpoint.config.kind ≠ .tcpServer) :
    HoldsPeer inetPton (trace ++ .received endpoint.ref (.datagram sender) data :: emitted)
        (endpoint.ref, (MavlinkRouter.learnPeer endpoint (.datagram sender)).known) ∧
      (endpoint.config.kind = .udpServer ∨ endpoint.config.allowUplink = true →
        peerOf inetPton endpoint.ref
          (trace ++ .received endpoint.ref (.datagram sender) data :: emitted) = some sender) := by
  obtain ⟨is, present⟩ := holds udp
  simp only [knowing] at is present
  have kinds : endpoint.ref.config.kind = endpoint.config.kind := rfl
  cases kind : endpoint.config.kind with
  | tcpServer => exact absurd kind udp
  | udpServer =>
      simp only [peerOf, kinds, kind] at is
      have first : peerOf inetPton endpoint.ref
          (trace ++ .received endpoint.ref (.datagram sender) data :: emitted) = some sender := by
        have alone : firstSender endpoint.ref
            (.received endpoint.ref (.datagram sender) data :: emitted) = some sender := by
          simp only [firstSender, List.findSome?_cons, if_true]
        simp only [peerOf, kinds, kind]
        rw [firstSender_append, alone, ← is, Endpoint.known]
        cases has : endpoint.havePeer with
        | false => rfl
        | true =>
            rw [server kind has]
            rfl
      refine ⟨fun _ => ?_, fun _ => first⟩
      rw [first, learnPeer_known, if_pos kind]
      exact ⟨rfl, fun _ => rfl⟩
  | udpOut =>
      have stays : peerOf inetPton endpoint.ref
          (trace ++ .received endpoint.ref (.datagram sender) data :: emitted) =
            endpoint.known := by
        rw [is]
        simp only [peerOf, kinds, kind]
      rw [stays, learnPeer_known, if_neg (by rw [kind]; decide)]
      refine ⟨fun _ => ⟨stays.symm, present⟩, ?_⟩
      intro passes
      rcases passes with impossible | allowed
      · cases impossible
      · have has : endpoint.havePeer = true := by
          have some := present kind
          unfold Endpoint.known at some
          split at some
          · assumption
          · cases some
        rw [out kind allowed, Endpoint.known, if_pos has]

/-! ## The invariant -/

/-- Endpoints hold the peers they are meant for, have sent to them only, and have heard nobody else
where they may answer or pass on. -/
structure Conversing (inetPton : String → Option UInt32) (router : MavlinkRouter)
    (trace : List Obs) : Prop where
  holds : ∀ known ∈ router.endpoints.map knowing, HoldsPeer inetPton trace known
  sent : ∀ ref, ref.config.kind ≠ .tcpServer → ∀ destination data taken,
    .sent ref destination data taken ∈ trace →
      ∃ peer, peerOf inetPton ref trace = some peer ∧ destination = .datagram peer
  heard : ∀ ref, ref.config.kind ≠ .tcpServer →
    ref.config.kind = .udpServer ∨ ref.config.allowUplink = true → ∀ source data,
    .received ref source data ∈ trace →
      ∃ peer, peerOf inetPton ref trace = some peer ∧ source = .datagram peer
  uplinked : ∀ ref source frame, .uplink ref source frame ∈ trace →
    ∃ data, .received ref source data ∈ trace

theorem conversing_fresh : Conversing inetPton fresh [] where
  holds := fun _ member => by cases member
  sent := fun _ _ _ _ _ member => by cases member
  heard := fun _ _ _ _ _ member => by cases member
  uplinked := fun _ _ _ member => by cases member

/-- A step that handles no data. -/
theorem Conversing.frame {router router' : MavlinkRouter} {event : Event}
    {trace emitted : List Obs} (conversing : Conversing inetPton router trace)
    (step : Transition router event router' emitted)
    (knows : ∀ known ∈ router'.endpoints.map knowing, known ∈ router.endpoints.map knowing ∨
      HoldsPeer inetPton [] known ∧ ∀ source data, Obs.received known.1 source data ∉ trace)
    (unheard : ∀ ref source data, Obs.received ref source data ∉ emitted)
    (silent : ∀ ref source frame, Obs.uplink ref source frame ∉ emitted) :
    Conversing inetPton router' (trace ++ emitted) where
  holds := by
    intro known member
    refine HoldsPeer.silent ?_ (unheard known.1)
    rcases knows known member with old | ⟨new, nothing⟩
    · exact conversing.holds known old
    · exact new.silent nothing
  sent := by
    intro ref udp destination data taken member
    rcases List.mem_append.mp member with old | new
    · obtain ⟨peer, is, same⟩ := conversing.sent ref udp destination data taken old
      exact ⟨peer, peerOf_append is emitted, same⟩
    · obtain ⟨-, among, -⟩ := step.sent new
      obtain ⟨peer, known, same⟩ := sends_known among udp
      exact ⟨peer, peerOf_append (conversing.holds _ known udp).1.symm emitted, same⟩
  heard := by
    intro ref udp concerned source data member
    rcases List.mem_append.mp member with old | new
    · obtain ⟨peer, is, same⟩ := conversing.heard ref udp concerned source data old
      exact ⟨peer, peerOf_append is emitted, same⟩
    · exact absurd new (unheard ref source data)
  uplinked := by
    intro ref source frame member
    rcases List.mem_append.mp member with old | new
    · obtain ⟨data, received⟩ := conversing.uplinked ref source frame old
      exact ⟨data, List.mem_append_left emitted received⟩
    · exact absurd new (silent ref source frame)

/-- Data from the peer, or the first data, keeps the conversation. -/
theorem Conversing.handle {router : MavlinkRouter} {event : Event} {trace : List Obs}
    (conversing : Conversing inetPton router trace) (clients : Clients router)
    (fromPeer : FromPeer router trace event) {endpoint handled : Endpoint} {source : Source}
    {data : List Byte} {passed : List (List Byte)} (member : endpoint ∈ router.endpoints)
    (delivered : delivery router event = some (endpoint, source, data))
    (result : MavlinkRouter.handleEndpointData router.uplink
      (MavlinkRouter.learnPeer endpoint source) data = (handled, passed))
    {router' : MavlinkRouter}
    (endpoints : router'.endpoints = MavlinkRouter.update router.endpoints handled) :
    Conversing inetPton router' (trace ++ .received endpoint.ref source data ::
      passed.map (.uplink endpoint.ref source)) := by
  have sameRef := handled_ref result
  have received (udp : endpoint.config.kind ≠ .tcpServer) :
      ∃ sender, source = .datagram sender ∧ (
        HoldsPeer inetPton (trace ++ .received endpoint.ref source data ::
          passed.map (.uplink endpoint.ref source)) (knowing handled) ∧
        (endpoint.config.kind = .udpServer ∨ endpoint.config.allowUplink = true →
          peerOf inetPton endpoint.ref (trace ++ .received endpoint.ref source data ::
            passed.map (.uplink endpoint.ref source)) = some sender)) := by
    obtain ⟨sender, rfl⟩ := clients.delivery_datagram delivered udp
    obtain ⟨server, out⟩ := fromPeer _ delivered
    refine ⟨sender, rfl, ?_⟩
    rw [knowing, sameRef, handled_known result]
    exact (conversing.holds _ (List.mem_map_of_mem member)).receive
      (fun kind has => Source.datagram.inj (server kind has))
      (fun kind allowed => Source.datagram.inj (out kind allowed)) udp
  constructor
  · intro known among
    rw [endpoints] at among
    obtain ⟨other, updated, rfl⟩ := List.mem_map.mp among
    rcases mem_update updated with rfl | ⟨old, different⟩
    · intro udp
      have config : (knowing other).1.config = endpoint.config :=
        congrArg EndpointRef.config sameRef
      rw [config] at udp
      obtain ⟨-, -, holds, -⟩ := received udp
      apply holds
      rw [config]
      exact udp
    · apply (conversing.holds _ (List.mem_map_of_mem old)).silent
      intro origin bytes seen
      rcases List.mem_cons.mp seen with same | impossible
      · injection same with ref
        apply different
        exact congrArg EndpointRef.id (ref.trans sameRef.symm)
      · simp at impossible
  · intro ref udp destination bytes taken among
    rcases List.mem_append.mp among with old | new
    · obtain ⟨peer, is, same⟩ := conversing.sent ref udp destination bytes taken old
      exact ⟨peer, peerOf_append is _, same⟩
    · simp at new
  · intro ref udp concerned origin bytes among
    rcases List.mem_append.mp among with old | new
    · obtain ⟨peer, is, same⟩ := conversing.heard ref udp concerned origin bytes old
      exact ⟨peer, peerOf_append is _, same⟩
    · rcases List.mem_cons.mp new with same | impossible
      · cases same
        obtain ⟨sender, datagram, -, is⟩ := received udp
        exact ⟨sender, is concerned, datagram⟩
      · simp at impossible
  · intro ref origin frame among
    rcases List.mem_append.mp among with old | new
    · obtain ⟨bytes, seen⟩ := conversing.uplinked ref origin frame old
      exact ⟨bytes, List.mem_append_left _ seen⟩
    · rcases List.mem_cons.mp new with impossible | passes
      · cases impossible
      · obtain ⟨_, -, same⟩ := List.mem_map.mp passes
        cases same
        exact ⟨data, List.mem_append_right _ List.mem_cons_self⟩

/-- Every step that meets the conditions keeps the conversation. -/
theorem Conversing.keeps {router router' : MavlinkRouter} {event : Event}
    {trace emitted : List Obs} (conversing : Conversing inetPton router trace)
    (numbered : Numbered router trace) (clients : Clients router)
    (resolves : Resolves inetPton router trace event) (fromPeer : FromPeer router trace event)
    (step : Transition router event router' emitted) :
    Conversing inetPton router' (trace ++ emitted) := by
  cases numbered.data step with
  | rest live bytes unheard silent =>
      exact conversing.frame step
        (fun known member => .inl (live knowing (fun _ _ => rfl) known member)) unheard silent
  | rebuild calls is turn dirty endpoints bytes unheard silent =>
      subst is
      refine conversing.frame step ?_ unheard silent
      intro known member
      rw [endpoints] at member
      refine .inr ⟨knowing_openEndpoints (resolves turn dirty) member, ?_⟩
      intro source data seen
      have old := numbered.past known.1 source data seen
      obtain ⟨endpoint, opened, rfl⟩ := List.mem_map.mp member
      have new := ((openEndpoints_id router.nextId router.nextSerial router.configured
        calls).2 endpoint opened).1
      exact Nat.lt_irrefl _ (old.trans_le new)
  | handle endpoint handled source data passed member delivered result endpoints bytes shows =>
      rw [shows]
      exact conversing.handle clients fromPeer member delivered result endpoints

/-! ## Runs -/

/-- An endpoint that hears one source only receives that source's stream. -/
theorem receivedBy_eq_receivedFrom {ref : EndpointRef} {source : Source} {trace : List Obs}
    (only : ∀ origin data, .received ref origin data ∈ trace → origin = source) :
    receivedBy ref trace = receivedFrom ref source trace := by
  apply List.flatMap_congr
  intro obs member
  cases obs with
  | received endpoint origin data =>
      by_cases same : endpoint = ref
      · subst same
        simp only [only origin data member, and_true]
      · simp only [same, false_and]
  | _ => rfl

/-- **In a run where servers hear only the peer they have learned, and uplink endpoints with a
configured peer only that, every UDP endpoint sends to its peer and passes on what its peer
sent.** -/
theorem converses_of_everyStep (inetPton : String → Option UInt32) (events : List Event)
    (resolves : machine.EveryStep (Resolves inetPton) fresh events)
    (fromPeer : machine.EveryStep FromPeer fresh events) :
    Converses inetPton (machine.outputs fresh events) := by
  have kept := Mealy.invariant_of_everyStep
    (fun router trace => Numbered router trace ∧ Clients router ∧
      Conversing inetPton router trace)
    ⟨numbered_fresh, clients_fresh, conversing_fresh⟩ (fun router trace event held meets =>
      have step := machine_step router event
      ⟨held.1.keeps step, held.2.1.keeps held.1 event,
        held.2.2.keeps held.1 held.2.1 meets.1 meets.2 step⟩) (resolves.and fromPeer)
  obtain ⟨-, -, conversing⟩ := kept
  have flows := streams events
  intro ref udp
  have allowed (source : Source) (frame : List Byte)
      (passes : .uplink ref source frame ∈ machine.outputs fresh events) :
      ref.config.allowUplink = true := by
    by_contra forbidden
    have among := mem_uplinkedBy passes
    rw [flows.frames ref, if_neg forbidden] at among
    cases among
  refine ⟨conversing.sent ref udp, ?_, ?_⟩
  · intro source frame passes
    obtain ⟨data, received⟩ := conversing.uplinked ref source frame passes
    exact conversing.heard ref udp (.inr (allowed source frame passes)) source data received
  · intro peer is allows
    rw [flows.frames ref, if_pos allows]
    congr 1
    apply receivedBy_eq_receivedFrom
    intro origin data received
    obtain ⟨other, is', same⟩ := conversing.heard ref udp (.inr allows) origin data received
    rw [is] at is'
    rw [same, Option.some.inj is']

/-- A UDP endpoint hears datagrams, each followed by a call of `FeedDownlink`. -/
def endpointHears (endpoint : MavlinkEndpoint) (inetPton : Option UInt32)
    (datagrams : List (SockAddr × List Byte)) : List Event :=
  [.setEndpoints [endpoint], .start true, .loopTest,
    .loopRebuild [{ socket := some 5, inetPton, bind := true }]] ++
    datagrams.flatMap fun (sender, data) =>
      [.loopCollect, .loopPoll .ready, .loopLock,
        .loopSlot { pollin := true, received := some data, sender }, .loopClose, .loopTest,
        .loopRebuild [], .feedDownlink [0xfe, 0, 0, 1, 1, 1, 7, 8] 0 []]

/-- `inet_pton` on the loopback address. -/
def loopback (host : String) : Option UInt32 :=
  if host = "127.0.0.1" then some 0x7f000001 else none

/-- The configured station sends two heartbeats. -/
theorem converses_configured :
    Converses loopback (machine.outputs fresh
      (endpointHears {} (some 0x7f000001)
        [(⟨0x7f000001, 14550⟩, [0xfe, 0, 0, 1, 1, 0, 7, 8]),
          (⟨0x7f000001, 14550⟩, [0xfe, 0, 1, 1, 1, 0, 7, 8])])) :=
  converses_of_everyStep loopback _ (by decide) (by decide)

/-- A stranger's datagram follows a station's at a UDP server. It is passed on, and the downlink
goes to the stranger. -/
theorem not_converses_stranger :
    machine.EveryStep (Resolves loopback) fresh
        (endpointHears groundLink none
          [(⟨1, 9⟩, [0xfe, 0, 0, 1, 1, 0, 7, 8]), (⟨2, 9⟩, [0xfe, 0, 1, 1, 1, 0, 7, 8])]) ∧
      ¬ Converses loopback (machine.outputs fresh
        (endpointHears groundLink none
          [(⟨1, 9⟩, [0xfe, 0, 0, 1, 1, 0, 7, 8]), (⟨2, 9⟩, [0xfe, 0, 1, 1, 1, 0, 7, 8])])) := by
  refine ⟨by decide, ?_⟩
  intro converses
  obtain ⟨sent, -, -⟩ := converses ⟨0, groundLink⟩ (by decide)
  obtain ⟨peer, is, same⟩ := sent (.datagram ⟨2, 9⟩) [0xfe, 0, 0, 1, 1, 1, 7, 8] none (by decide)
  have first : peerOf loopback ⟨0, groundLink⟩ (machine.outputs fresh
      (endpointHears groundLink none
        [(⟨1, 9⟩, [0xfe, 0, 0, 1, 1, 0, 7, 8]),
          (⟨2, 9⟩, [0xfe, 0, 1, 1, 1, 0, 7, 8])])) = some ⟨1, 9⟩ := by decide
  rw [first] at is
  cases is
  cases same

end Router

end MobileGs
