import MobileGs.Foundations.Holders

/-!
# The threads of the ground station

A `GroundStation` keeps its packet source, its receiver and its controller in smart pointers, and
four threads read these: the application's, which calls `Start`, `Stop` and the setters, the
statistics thread, the receive thread of the source, and the router's poll thread, whose uplink
callback sends through the source. No mutex guards the pointers. What keeps an object alive is the
order in which `Stop` and a failing `Start` join the threads and reset the pointers.

The state below holds the pointers and the point each thread has reached. An event is a section of
one thread between two points at which another can run: reading a pointer and following it are two,
and so are the begin and the end of a call on an object. A section at which the thread does not
stand changes nothing. The application makes one call at a time.
-/

set_option autoImplicit false

namespace MobileGs

namespace Threads

open Handles

/-! ## Objects and points -/

/-- What the pointers point to. -/
inductive Kind where
  | source
  | receiver
  | alink
  deriving DecidableEq, Repr

/-- An object, with a serial number of its own. -/
structure Object where
  kind : Kind
  serial : ℕ
  deriving DecidableEq, Repr

/-- Inside `SendUplink`: behind the test of `source_`, and inside `Transmit`. -/
inductive Sending where
  | checked
  | transmitting (source : Object)
  deriving DecidableEq, Repr

/-- Where the application stands. -/
inductive CallPoint where
  | idle
  /-- in `Start`, behind `mavlink_.Start()` -/
  | starting (alinkEnabled : Bool)
  | making
  | connecting
  /-- in `mavlink_.Stop()` of a `Start` that fails -/
  | failing
  /-- in `Stop`, at the join of the statistics thread -/
  | joinStats
  | stopSource
  | resetSource
  | stopRouter
  | finish
  deriving DecidableEq, Repr

/-- Where `StatsLoop` stands. -/
inductive StatsPoint where
  | none
  | head
  | woken
  | snapshot
  /-- behind the test of `receiver_` -/
  | found
  /-- inside `TakeSnapshot` -/
  | snapshotting (receiver : Object)
  | report
  /-- behind the test of `alink_` -/
  | checked
  /-- inside `Update` -/
  | updating (alink : Object)
  | uplink
  | sending (sending : Sending)
  | returned
  deriving DecidableEq, Repr

/-- Where the source's thread stands. -/
inductive RxPoint where
  | none
  | idle
  /-- inside `ProcessFrame` -/
  | inFrame (receiver : Object)
  deriving DecidableEq, Repr

/-- Where the router's thread stands, as far as its uplink callback goes. -/
inductive PollPoint where
  | none
  | idle
  | sending (sending : Sending)
  deriving DecidableEq, Repr

/-- `GroundStation`, as far as its threads share it. `devourer` says that the configured source is
an adapter. -/
structure GroundStation where
  source : Option Object := none
  receiver : Option Object := none
  alink : Option Object := none
  devourer : Bool := true
  running : Bool := false
  call : CallPoint := .idle
  stats : StatsPoint := .none
  rx : RxPoint := .none
  poll : PollPoint := .none
  nextSerial : ℕ := 0
  deriving DecidableEq

/-- What a run does: a call on an object, a null pointer that is followed, a return. -/
inductive Obs where
  | call (made : Call Object)
  | null (kind : Kind)
  | startReturned (success : Bool)
  | stopReturned
  deriving DecidableEq, Repr

def Obs.calls : Obs → List (Call Object)
  | .call made => [made]
  | _ => []

inductive Event where
  | start (devourer alinkEnabled pipe : Bool)
  | startAlink
  | startMake (keys : Bool)
  | startSource (success : Bool)
  | failJoin
  | stop
  | stopStats
  | stopSource
  | resetSource
  | stopRouter
  | finish
  | setAlinkConfig (enabled : Bool)
  | setChannel
  | statsSection (due : Bool)
  | rxSection
  | pollSection
  deriving DecidableEq, Repr

namespace GroundStation

variable (station : GroundStation)

/-- A use of what a pointer points to, or of a null pointer. -/
def follow (kind : Kind) : Option Object → List Obs
  | some object => [.call (.use object)]
  | none => [.null kind]

/-- An object that is made next. -/
def made (kind : Kind) : Object := ⟨kind, station.nextSerial⟩

/-- The reset of a pointer. -/
def release (pointer : Option Object) : List Obs :=
  pointer.toList.map fun object => .call (.close object)

/-! ## The application -/

/-- `Start` up to the start of the router, with the answer of its `pipe`. -/
def start (devourer alinkEnabled pipe : Bool) : GroundStation × List Obs :=
  if station.call ≠ .idle then (station, [])
  else if station.running then (station, [.startReturned true])
  else
    ({ station with
        devourer, call := .starting alinkEnabled, poll := if pipe then .idle else .none }, [])

/-- The controller of a `Start`. A new one is made before an old one is dropped. -/
def startAlink : GroundStation × List Obs :=
  match station.call with
  | .starting true =>
      let controller := station.made .alink
      ({ station with
          alink := some controller, call := .making, nextSerial := station.nextSerial + 1 },
        .call (.grant controller) :: release station.alink)
  | .starting false => ({ station with call := .making }, [])
  | _ => (station, [])

/-- The source of a `Start`, and for an adapter the receiver, whose keys may be missing. -/
def startMake (keys : Bool) : GroundStation × List Obs :=
  if station.call ≠ .making then (station, [])
  else if station.devourer then
    let receiver := station.made .receiver
    if keys then
      let source : Object := ⟨.source, station.nextSerial + 1⟩
      ({ station with
          receiver := some receiver, source := some source, call := .connecting
          nextSerial := station.nextSerial + 2 },
        [.call (.grant receiver), .call (.use receiver), .call (.grant source)])
    else
      ({ station with call := .failing, nextSerial := station.nextSerial + 1 },
        [.call (.grant receiver), .call (.use receiver), .call (.close receiver)])
  else
    let source := station.made .source
    ({ station with
        source := some source, call := .connecting, nextSerial := station.nextSerial + 1 },
      [.call (.grant source)])

/-- The end of a `Start`: `source_->Start`, and what follows from its answer. -/
def startSource (success : Bool) : GroundStation × List Obs :=
  if station.call ≠ .connecting then (station, [])
  else if success then
    ({ station with running := true, call := .idle, stats := .head, rx := .idle },
      follow .source station.source ++ [.startReturned true])
  else
    ({ station with source := none, receiver := none, call := .failing },
      follow .source station.source ++ release station.source ++ release station.receiver)

/-- The join of the router's thread, which ends outside its callback. -/
def pollEnds : Bool := station.poll = .idle || station.poll = .none

/-- `mavlink_.Stop()` of a `Start` that fails. -/
def failJoin : GroundStation × List Obs :=
  if station.call = .failing ∧ station.pollEnds then
    ({ station with call := .idle, poll := .none }, [.startReturned false])
  else (station, [])

/-- `Stop` up to its first join. -/
def stop : GroundStation × List Obs :=
  if station.call ≠ .idle then (station, [])
  else if station.running then ({ station with running := false, call := .joinStats }, [])
  else (station, [.stopReturned])

def stopStats : GroundStation × List Obs :=
  if station.call = .joinStats ∧ station.stats = .returned then
    ({ station with stats := .none, call := .stopSource }, [])
  else (station, [])

/-- `source_->Stop()`, which joins the source's thread. -/
def stopSource : GroundStation × List Obs :=
  if station.call = .stopSource ∧ station.rx = .idle then
    ({ station with rx := .none, call := .resetSource },
      station.source.toList.map fun source => .call (.use source))
  else (station, [])

def resetSource : GroundStation × List Obs :=
  if station.call = .resetSource then
    ({ station with source := none, call := .stopRouter }, release station.source)
  else (station, [])

def stopRouter : GroundStation × List Obs :=
  if station.call = .stopRouter ∧ station.pollEnds then
    ({ station with poll := .none, call := .finish }, [])
  else (station, [])

def finish : GroundStation × List Obs :=
  if station.call = .finish then
    ({ station with receiver := none, alink := none, call := .idle },
      release station.receiver ++ release station.alink ++ [.stopReturned])
  else (station, [])

/-- `SetAlinkConfig`. -/
def setAlinkConfig (enabled : Bool) : GroundStation × List Obs :=
  if station.call ≠ .idle then (station, [])
  else if enabled then
    match station.alink with
    | some controller => (station, [.call (.use controller)])
    | none =>
        let controller := station.made .alink
        ({ station with alink := some controller, nextSerial := station.nextSerial + 1 },
          [.call (.grant controller)])
  else ({ station with alink := none }, release station.alink)

/-- `SetChannel`. -/
def setChannel : GroundStation × List Obs :=
  if station.call ≠ .idle then (station, [])
  else (station, station.source.toList.map fun source => .call (.use source))

/-! ## The other threads -/

/-- `SendUplink` goes on behind its test, unless the source is no adapter or there is none. -/
def sends : Bool := station.source.isSome && station.devourer

/-- A section of `SendUplink`, with the point inside it that follows. -/
def sendSection : Sending → Option Sending × List Obs
  | .checked => (station.source.map .transmitting, follow .source station.source)
  | .transmitting source => (none, [.call (.use source)])

/-- A section of `StatsLoop`. `due` says that a report is due. -/
def statsSection (due : Bool) : GroundStation × List Obs :=
  match station.stats with
  | .none => (station, [])
  | .head => ({ station with stats := if station.running then .woken else .returned }, [])
  | .woken => ({ station with stats := if station.running then .snapshot else .returned }, [])
  | .snapshot =>
      ({ station with stats := if station.receiver.isSome then .found else .report }, [])
  | .found =>
      ({ station with stats := (station.receiver.map StatsPoint.snapshotting).getD .report },
        follow .receiver station.receiver)
  | .snapshotting receiver => ({ station with stats := .report }, [.call (.use receiver)])
  | .report =>
      ({ station with
          stats :=
            if station.alink.isSome && station.receiver.isSome && due then .checked else .head },
        [])
  | .checked =>
      ({ station with
          stats := (station.alink.map StatsPoint.updating).getD .head },
        follow .alink station.alink)
  | .updating controller => ({ station with stats := .uplink }, [.call (.use controller)])
  | .uplink =>
      ({ station with stats := if station.sends then .sending .checked else .head }, [])
  | .sending sending =>
      let sent := station.sendSection sending
      ({ station with stats := (sent.1.map StatsPoint.sending).getD .head }, sent.2)
  | .returned => (station, [])

/-- A section of the source's thread: a frame begins, or it ends. A datagram reaches no object. -/
def rxSection : GroundStation × List Obs :=
  match station.rx with
  | .none => (station, [])
  | .idle =>
      if station.devourer then
        ({ station with rx := (station.receiver.map RxPoint.inFrame).getD .idle },
          follow .receiver station.receiver)
      else (station, [])
  | .inFrame receiver => ({ station with rx := .idle }, [.call (.use receiver)])

/-- A section of the router's thread: a frame comes for the uplink, and is sent. -/
def pollSection : GroundStation × List Obs :=
  match station.poll with
  | .none => (station, [])
  | .idle => ({ station with poll := if station.sends then .sending .checked else .idle }, [])
  | .sending sending =>
      let sent := station.sendSection sending
      ({ station with poll := (sent.1.map PollPoint.sending).getD .idle }, sent.2)

end GroundStation

/-- The threads as a machine. -/
def machine : Mealy GroundStation Event Obs where
  step station
    | .start devourer alinkEnabled pipe => station.start devourer alinkEnabled pipe
    | .startAlink => station.startAlink
    | .startMake keys => station.startMake keys
    | .startSource success => station.startSource success
    | .failJoin => station.failJoin
    | .stop => station.stop
    | .stopStats => station.stopStats
    | .stopSource => station.stopSource
    | .resetSource => station.resetSource
    | .stopRouter => station.stopRouter
    | .finish => station.finish
    | .setAlinkConfig enabled => station.setAlinkConfig enabled
    | .setChannel => station.setChannel
    | .statsSection due => station.statsSection due
    | .rxSection => station.rxSection
    | .pollSection => station.pollSection

end Threads

end MobileGs
