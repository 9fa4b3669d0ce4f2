import MobileGs.Mavlink.Telemetry

/-!
# The MAVLink router

`MavlinkRouter` runs one thread, the poll loop, beside the threads that call its
interface. The state below is the router's own, with the point the loop has reached. An
event is one atomic section of the source: a call that takes the mutex, the two ends of
`Stop`, or a section of the loop between two points where another thread can run. Where
the source would block on the mutex, or the loop is somewhere else, the event changes
nothing. So every list of events is a run.

What the operating system answers comes with the event: the result of each socket call,
of `poll`, of each receive, accept and send. Descriptors carry a serial number that tells
two sockets apart when the system hands out a number again, and endpoint objects carry an
identity in place of their address. The code compares only numbers and addresses, the
serial numbers serve the statements.

What a run does beyond its state is a list of observations (`Obs`).

Host-order addresses stand for `sockaddr_in`. Setting a descriptor non-blocking, the wake
pipe's bytes and the socket options have no effect on the state and are left out.
-/

set_option autoImplicit false

namespace MobileGs

namespace Router

open Mavlink

/-! ## Configuration and endpoints -/

/-- `MavlinkEndpoint::Kind`. -/
inductive EndpointKind where
  | udpOut
  | udpServer
  | tcpServer
  deriving DecidableEq, Repr

/-- `MavlinkEndpoint`, an entry of the configuration. -/
structure MavlinkEndpoint where
  kind : EndpointKind := .udpOut
  host : String := "127.0.0.1"
  port : ℤ := 14550
  enabled : Bool := true
  allowUplink : Bool := true
  deriving DecidableEq, Repr

/-- An IPv4 address and port. -/
structure SockAddr where
  addr : UInt32
  port : UInt16
  deriving DecidableEq, Repr

/-- A descriptor, with a serial number of its own. -/
structure Socket where
  fd : ℕ
  serial : ℕ
  deriving DecidableEq, Repr

/-- An endpoint object and its configuration. -/
structure EndpointRef where
  id : ℕ
  config : MavlinkEndpoint
  deriving DecidableEq, Repr

/-- `MavlinkRouter::Endpoint`. No socket stands for the descriptor -1. -/
structure Endpoint where
  id : ℕ
  config : MavlinkEndpoint
  socket : Option Socket := none
  clients : List Socket := []
  peer : SockAddr := ⟨0, 0⟩
  havePeer : Bool := false
  framer : MavlinkFramer := {}
  deriving DecidableEq

def Endpoint.ref (endpoint : Endpoint) : EndpointRef := ⟨endpoint.id, endpoint.config⟩

/-- What the system answers to the calls that set up one endpoint. -/
structure SocketCalls where
  socket : Option ℕ := none
  inetPton : Option UInt32 := none
  bind : Bool := false
  listen : Bool := false
  deriving DecidableEq, Repr

/-- Where received bytes come from. -/
inductive Source where
  | client (socket : Socket)
  | datagram (sender : SockAddr)
  deriving DecidableEq, Repr

/-- What a run does beyond its state. -/
inductive Obs where
  | configured (endpoints : List MavlinkEndpoint)
  | started
  | startReturned (success : Bool)
  | rebuilt (calls : List SocketCalls)
  | opened (socket : Socket)
  | accepted (endpoint : EndpointRef) (socket : Socket)
  | closed (socket : Socket)
  | polled (sockets : List Socket)
  | received (endpoint : EndpointRef) (source : Source) (data : List Byte)
  | uplink (endpoint : EndpointRef) (source : Source) (frame : List Byte)
  | downlink (message : MavlinkMessage)
  | sent (endpoint : EndpointRef) (destination : Source) (data : List Byte) (taken : Option ℕ)
  deriving DecidableEq

/-! ## Opening and closing endpoints -/

/-- `ResolveIpv4`, with the answer of `inet_pton` for the host. -/
def resolveIpv4 (host : String) (port : ℤ) (inetPton : Option UInt32) : Option SockAddr :=
  if host = "" ∨ host = "0.0.0.0" then some ⟨0, UInt16.ofInt port⟩
  else inetPton.map fun addr => ⟨addr, UInt16.ofInt port⟩

/-- One enabled entry in `RebuildEndpoints`: the endpoint it becomes, unless a call
fails. -/
def openEndpoint (id serial : ℕ) (config : MavlinkEndpoint) (calls : SocketCalls) :
    Option Endpoint :=
  match calls.socket with
  | none => none
  | some fd =>
      let endpoint : Endpoint := { id, config, socket := some ⟨fd, serial⟩ }
      match resolveIpv4 config.host config.port calls.inetPton with
      | none => none
      | some addr =>
          match config.kind with
          | .tcpServer => if calls.bind && calls.listen then some endpoint else none
          | .udpServer => if calls.bind then some endpoint else none
          | .udpOut => some { endpoint with peer := addr, havePeer := true }

/-- The sockets one entry opens, and closes again when a later call fails. -/
def openingObs (serial : ℕ) (calls : SocketCalls) (opened : Option Endpoint) : List Obs :=
  match calls.socket with
  | none => []
  | some fd =>
      .opened ⟨fd, serial⟩ :: if opened.isNone then [.closed ⟨fd, serial⟩] else []

/-- The loop over the configured entries. -/
def openEndpoints (id serial : ℕ) : List MavlinkEndpoint → List SocketCalls →
    List Endpoint × List Obs
  | [], _ => ([], [])
  | config :: rest, calls =>
      let later := openEndpoints (id + 1) (serial + 1) rest calls.tail
      if config.enabled then
        let answers := calls.headD {}
        let opened := openEndpoint id serial config answers
        (opened.toList ++ later.1, openingObs serial answers opened ++ later.2)
      else later

/-- The destructor of an endpoint: its clients and then its own socket. -/
def destroyEndpoint (endpoint : Endpoint) : List Obs :=
  (endpoint.clients ++ endpoint.socket.toList).map .closed

/-! ## The router and its loop -/

/-- A polled descriptor, tagged with what it belongs to. -/
structure Slot where
  endpoint : ℕ
  socket : Socket
  isClient : Bool
  deriving DecidableEq, Repr

/-- Where the poll loop stands. -/
inductive LoopPoint where
  /-- no thread -/
  | stopped
  /-- about to test `running_` -/
  | head
  | rebuild
  | collect
  /-- in `poll` -/
  | poll (slots : List Slot)
  /-- about to take the mutex for the ready descriptors -/
  | lock (slots : List Slot)
  /-- walking the descriptors, with the mutex held -/
  | walk (slots : List Slot) (toClose : List ℕ)
  /-- the thread function has returned -/
  | returned
  deriving DecidableEq

/-- `MavlinkRouter`. `uplink` says whether `uplink_` is set, `stopping` that a call of
`Stop` waits for the thread. -/
structure MavlinkRouter where
  configured : List MavlinkEndpoint := []
  endpoints : List Endpoint := []
  endpointsDirty : Bool := true
  downlinkFramer : MavlinkFramer := { callback := true }
  telemetry : TelemetryState := {}
  uplink : Bool := false
  running : Bool := false
  stopping : Bool := false
  loop : LoopPoint := .stopped
  downlinkBytes : ℕ := 0
  uplinkBytes : ℕ := 0
  nextId : ℕ := 0
  nextSerial : ℕ := 0

/-- How `poll` returns. `ready` says that some descriptor is ready and the wake pipe is
not. -/
inductive PollResult where
  | interrupted
  | failed
  | timedOut
  | woken
  | ready
  deriving DecidableEq, Repr

/-- What the system reports for one descriptor: its ready bits, and the answer of the
receive or accept the loop makes. No bytes received is -1, the empty list is 0. -/
structure SlotAnswer where
  pollin : Bool := false
  pollerrOrPollhup : Bool := false
  otherBits : Bool := false
  received : Option (List Byte) := none
  sender : SockAddr := ⟨0, 0⟩
  accepted : Option ℕ := none
  deriving DecidableEq, Repr

inductive Event where
  | setEndpoints (endpoints : List MavlinkEndpoint)
  | start (pipe : Bool)
  /-- `Stop` up to the join -/
  | stopRequest
  /-- `Stop` from the join on -/
  | stopJoin
  | feedDownlink (data : List Byte) (nowMs : UInt64) (taken : List (Option ℕ))
  | loopTest
  | loopRebuild (calls : List SocketCalls)
  | loopCollect
  | loopPoll (result : PollResult)
  | loopLock
  | loopSlot (answer : SlotAnswer)
  | loopClose
  deriving DecidableEq

namespace MavlinkRouter

/-- The loop holds the mutex. -/
def locked (router : MavlinkRouter) : Bool :=
  match router.loop with
  | .walk _ _ => true
  | _ => false

/-! ## The interface -/

def setEndpoints (router : MavlinkRouter) (endpoints : List MavlinkEndpoint) :
    MavlinkRouter × List Obs :=
  if router.locked then (router, [])
  else
    ({ router with configured := endpoints, endpointsDirty := true },
      [.configured endpoints])

/-- `Start`, with the answer of `pipe`. It is not called while `Stop` waits. -/
def start (router : MavlinkRouter) (pipe : Bool) : MavlinkRouter × List Obs :=
  if router.stopping then (router, [])
  else if router.running then (router, [.startReturned true])
  else if !pipe then (router, [.startReturned false])
  else ({ router with running := true, loop := .head }, [.started, .startReturned true])

def stopRequest (router : MavlinkRouter) : MavlinkRouter × List Obs :=
  if router.running then ({ router with running := false, stopping := true }, [])
  else (router, [])

/-- The thread is joined once its function has returned, then `CloseEndpoints`. -/
def stopJoin (router : MavlinkRouter) : MavlinkRouter × List Obs :=
  if router.stopping && router.loop = .returned then
    ({ router with endpoints := [], stopping := false, loop := .stopped },
      router.endpoints.flatMap destroyEndpoint)
  else (router, [])

/-- The sends of `FeedDownlink`: to each client of a TCP server, and to the peer of a UDP
endpoint. -/
def destinations (endpoint : Endpoint) : List Source :=
  match endpoint.socket with
  | none => []
  | some _ =>
      match endpoint.config.kind with
      | .tcpServer => endpoint.clients.map .client
      | _ => if endpoint.havePeer then [.datagram endpoint.peer] else []

/-- The parser and the decoder of the downlink are fed before the mutex is taken. They are
used by this call only, so the call is one section. -/
def feedDownlink (router : MavlinkRouter) (data : List Byte) (nowMs : UInt64)
    (taken : List (Option ℕ)) : MavlinkRouter × List Obs :=
  if data.length = 0 || router.locked then (router, [])
  else
    let pushed := router.downlinkFramer.push data
    let sends := router.endpoints.flatMap fun endpoint =>
      (destinations endpoint).map fun destination => (endpoint.ref, destination)
    ({ router with
        downlinkBytes := router.downlinkBytes + data.length
        downlinkFramer := pushed.1
        telemetry := pushed.2.foldl (fun state message => consume state nowMs message)
          router.telemetry },
      pushed.2.map .downlink ++
        sends.zipIdx.map fun ((endpoint, destination), index) =>
          .sent endpoint destination data (taken.getD index none))

/-! ## The poll loop -/

def loopTest (router : MavlinkRouter) : MavlinkRouter × List Obs :=
  if router.loop = .head then
    ({ router with loop := if router.running then .rebuild else .returned }, [])
  else (router, [])

/-- `RebuildEndpoints`. -/
def rebuildEndpoints (router : MavlinkRouter) (calls : List SocketCalls) :
    MavlinkRouter × List Obs :=
  if !router.endpointsDirty then (router, [])
  else
    let opened := openEndpoints router.nextId router.nextSerial router.configured calls
    ({ router with
        endpointsDirty := false
        endpoints := opened.1
        nextId := router.nextId + router.configured.length
        nextSerial := router.nextSerial + router.configured.length },
      router.endpoints.flatMap destroyEndpoint ++ opened.2)

def loopRebuild (router : MavlinkRouter) (calls : List SocketCalls) :
    MavlinkRouter × List Obs :=
  if router.loop = .rebuild then
    let rebuilt := router.rebuildEndpoints calls
    ({ rebuilt.1 with loop := .collect }, .rebuilt calls :: rebuilt.2)
  else (router, [])

/-- The descriptors of an endpoint: its own, then its clients'. -/
def slotsOf (endpoint : Endpoint) : List Slot :=
  match endpoint.socket with
  | none => []
  | some socket =>
      ⟨endpoint.id, socket, false⟩ :: endpoint.clients.map fun client =>
        ⟨endpoint.id, client, true⟩

def loopCollect (router : MavlinkRouter) : MavlinkRouter × List Obs :=
  if router.loop = .collect then
    let slots := router.endpoints.flatMap slotsOf
    ({ router with loop := .poll slots }, [.polled (slots.map Slot.socket)])
  else (router, [])

def loopPoll (router : MavlinkRouter) (result : PollResult) : MavlinkRouter × List Obs :=
  match router.loop with
  | .poll slots =>
      let next : LoopPoint :=
        match result with
        | .interrupted => .head
        | .failed => .returned
        | _ =>
            if !router.running then .returned
            else
              match result with
              | .ready => .lock slots
              | _ => .head
      ({ router with loop := next }, [])
  | _ => (router, [])

def loopLock (router : MavlinkRouter) : MavlinkRouter × List Obs :=
  match router.loop with
  | .lock slots => ({ router with loop := .walk slots [] }, [])
  | _ => (router, [])

/-- What the loop does with a descriptor whose endpoint is still present. -/
inductive SlotAction where
  | ignore
  | close
  | accept (fd : ℕ)
  | handle (source : Source) (data : List Byte)
  deriving DecidableEq

/-- The branches on the ready bits, the kind of the descriptor and the answer. -/
def slotAction (endpoint : Endpoint) (slot : Slot) (answer : SlotAnswer) : SlotAction :=
  if !(answer.pollin || answer.pollerrOrPollhup || answer.otherBits) then .ignore
  else if slot.isClient then
    if answer.pollerrOrPollhup then .close
    else
      match answer.received with
      | none => .ignore
      | some [] => .close
      | some (byte :: rest) => .handle (.client slot.socket) (byte :: rest)
  else if !answer.pollin then .ignore
  else
    match endpoint.config.kind with
    | .tcpServer =>
        match answer.accepted with
        | none => .ignore
        | some fd => .accept fd
    | _ =>
        match answer.received with
        | none => .ignore
        | some [] => .ignore
        | some (byte :: rest) => .handle (.datagram answer.sender) (byte :: rest)

/-- `HandleEndpointData`: the endpoint afterwards, and the frames passed to the uplink
callback. -/
def handleEndpointData (uplink : Bool) (endpoint : Endpoint) (data : List Byte) :
    Endpoint × List (List Byte) :=
  if !endpoint.config.allowUplink || !uplink then (endpoint, [])
  else
    let pushed := endpoint.framer.setCallback.push data
    ({ endpoint with framer := pushed.1 }, pushed.2.map MavlinkMessage.data)

/-- A datagram to a UDP server makes its sender the peer. -/
def learnPeer (endpoint : Endpoint) (source : Source) : Endpoint :=
  match source, endpoint.config.kind with
  | .datagram sender, .udpServer => { endpoint with peer := sender, havePeer := true }
  | _, _ => endpoint

/-- Replace the endpoint object with the same identity. -/
def update (endpoints : List Endpoint) (endpoint : Endpoint) : List Endpoint :=
  endpoints.map fun other => if other.id = endpoint.id then endpoint else other

/-- The endpoint of a slot, when it is still present. -/
def present (router : MavlinkRouter) (slot : Slot) : Option Endpoint :=
  router.endpoints.find? fun endpoint => endpoint.id = slot.endpoint

/-- The action of the loop on a ready descriptor. -/
def act (router : MavlinkRouter) (endpoint : Endpoint) (slot : Slot) (toClose : List ℕ)
    (rest : List Slot) : SlotAction → MavlinkRouter × List Obs
  | .ignore => ({ router with loop := .walk rest toClose }, [])
  | .close => ({ router with loop := .walk rest (toClose ++ [slot.socket.fd]) }, [])
  | .accept fd =>
      let client : Socket := ⟨fd, router.nextSerial⟩
      ({ router with
          endpoints :=
            update router.endpoints { endpoint with clients := endpoint.clients ++ [client] }
          nextSerial := router.nextSerial + 1
          loop := .walk rest toClose },
        [.accepted endpoint.ref client])
  | .handle source data =>
      let handled := handleEndpointData router.uplink (learnPeer endpoint source) data
      ({ router with
          endpoints := update router.endpoints handled.1
          uplinkBytes := router.uplinkBytes + (handled.2.map List.length).sum
          loop := .walk rest toClose },
        .received endpoint.ref source data :: handled.2.map (.uplink endpoint.ref source))

/-- The next descriptor of the walk. -/
def loopSlot (router : MavlinkRouter) (answer : SlotAnswer) : MavlinkRouter × List Obs :=
  match router.loop with
  | .walk (slot :: rest) toClose =>
      match router.present slot with
      | none => ({ router with loop := .walk rest toClose }, [])
      | some endpoint =>
          router.act endpoint slot toClose rest (slotAction endpoint slot answer)
  | _ => (router, [])

/-- Close the first client with the descriptor, in the first endpoint that has one. -/
def closeClient (fd : ℕ) : List Endpoint → List Endpoint × List Obs
  | [] => ([], [])
  | endpoint :: rest =>
      match endpoint.clients.find? fun client => client.fd = fd with
      | some client =>
          ({ endpoint with clients := endpoint.clients.erase client } :: rest, [.closed client])
      | none =>
          let later := closeClient fd rest
          (endpoint :: later.1, later.2)

def closeClients (endpoints : List Endpoint) : List ℕ → List Endpoint × List Obs
  | [] => (endpoints, [])
  | fd :: rest =>
      let closed := closeClient fd endpoints
      let later := closeClients closed.1 rest
      (later.1, closed.2 ++ later.2)

/-- The end of the walk: the descriptors to close, and the mutex is released. -/
def loopClose (router : MavlinkRouter) : MavlinkRouter × List Obs :=
  match router.loop with
  | .walk [] toClose =>
      let closed := closeClients router.endpoints toClose
      ({ router with endpoints := closed.1, loop := .head }, closed.2)
  | _ => (router, [])

end MavlinkRouter

/-- The router as a machine. -/
def machine : Mealy MavlinkRouter Event Obs where
  step router
    | .setEndpoints endpoints => router.setEndpoints endpoints
    | .start pipe => router.start pipe
    | .stopRequest => router.stopRequest
    | .stopJoin => router.stopJoin
    | .feedDownlink data nowMs taken => router.feedDownlink data nowMs taken
    | .loopTest => router.loopTest
    | .loopRebuild calls => router.loopRebuild calls
    | .loopCollect => router.loopCollect
    | .loopPoll result => router.loopPoll result
    | .loopLock => router.loopLock
    | .loopSlot answer => router.loopSlot answer
    | .loopClose => router.loopClose

/-- A router as constructed, with an uplink callback set. -/
def fresh : MavlinkRouter := { uplink := true }

end Router

end MobileGs
