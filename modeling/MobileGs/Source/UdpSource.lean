import MobileGs.Foundations.Holders
import MobileGs.Router.Model

/-!
# The packet source on a UDP socket

`UdpSource` reads video datagrams from a socket. Its thread polls, receives and hands over, and
tests `running_` in between, beside the thread that calls `Start` and `Stop`. An event is one
section of either, or a datagram that reaches the socket. `Stop` has three: it asks the thread to
stop, shuts the socket down, and joins the thread before it closes the socket. What the system
answers comes with the event.

The socket is closed once, behind the last use of it by either thread (`socket_owned`).
-/

set_option autoImplicit false

namespace MobileGs

namespace Source

open Handles Router

structure UdpSourceConfig where
  bindAddr : String := "0.0.0.0"
  videoPort : Int32 := 5600

/-- What the system answers to the calls of `Start`. -/
structure StartCalls where
  socket : Option ℕ := none
  inetPton : Bool := false
  bind : Bool := false

/-- The point the thread has reached. -/
inductive LoopPoint where
  /-- no thread -/
  | none
  /-- about to test `running_` -/
  | test
  | poll
  | recv
  /-- about to call `on_datagram_` -/
  | deliver (data : List Byte)
  /-- the thread function has returned -/
  | returned
  deriving DecidableEq

/-- The point a call of `Stop` has reached. -/
inductive StopPoint where
  | idle
  | shutdown
  | join
  deriving DecidableEq

/-- `UdpSource`. `callback` says whether `on_datagram_` is set. The socket is known with what it has
received and not handed out, and whether it is shut down. -/
structure UdpSource where
  config : UdpSourceConfig := {}
  callback : Bool := false
  fd : Option Socket := none
  running : Bool := false
  loop : LoopPoint := .none
  stopping : StopPoint := .idle
  queued : List (List Byte) := []
  shut : Bool := false
  nextSerial : ℕ := 0

inductive Obs where
  | call (call : Call Socket)
  | startReturned (error : Option String)
  | arrived (data : List Byte)
  | datagram (data : List Byte)
  | stopReturned
  deriving DecidableEq

/-- What the system answers to the thread: whether `poll` finds the socket ready, and whether `recv`
fails. -/
structure LoopAnswer where
  ready : Bool
  failed : Bool
  deriving DecidableEq

inductive Event where
  | start (calls : StartCalls)
  | stopRequest
  | stopShutdown
  | stopJoin
  | loop (answer : LoopAnswer)
  | arrive (data : List Byte)

/-- The size of the buffer of the thread. -/
def bufferSize : ℕ := 2048

namespace UdpSource

/-- A call on `fd_`, if it is open. -/
def useFd (source : UdpSource) : List Obs := source.fd.toList.map fun socket => .call (.use socket)

/-- `Start`. It sets two options of the socket and then binds it. -/
def start (source : UdpSource) (calls : StartCalls) : UdpSource × List Obs :=
  match calls.socket with
  | none =>
      ({ source with fd := none }, [.startReturned (some "could not create the video socket")])
  | some fd =>
      let socket : Socket := ⟨fd, source.nextSerial⟩
      let created := { source with fd := none, nextSerial := source.nextSerial + 1 }
      let options : List Obs := [.call (.grant socket), .call (.use socket), .call (.use socket)]
      if ¬ (source.config.bindAddr = "" ∨ source.config.bindAddr = "0.0.0.0" ∨
          calls.inetPton = true) then
        (created, options ++ [.call (.close socket),
          .startReturned (some ("invalid bind address: " ++ source.config.bindAddr))])
      else if calls.bind = false then
        (created, options ++ [.call (.use socket), .call (.close socket),
          .startReturned
            (some ("could not bind UDP port " ++ toString source.config.videoPort))])
      else
        ({ created with
            fd := some socket, running := true, loop := .test, queued := [], shut := false },
          options ++ [.call (.use socket), .startReturned none])

/-- `Stop`, up to the test of `fd_`. -/
def stopRequest (source : UdpSource) : UdpSource × List Obs :=
  if source.running then ({ source with running := false, stopping := .shutdown }, [])
  else if source.stopping = .idle then (source, [.stopReturned])
  else (source, [])

/-- `Stop` shuts the socket down. -/
def stopShutdown (source : UdpSource) : UdpSource × List Obs :=
  if source.stopping = .shutdown then
    ({ source with stopping := .join, shut := true }, source.useFd)
  else (source, [])

/-- The thread is joined once its function has returned, then `Stop` closes the socket. -/
def stopJoin (source : UdpSource) : UdpSource × List Obs :=
  if source.stopping = .join ∧ source.loop = .returned then
    ({ source with stopping := .idle, loop := .none, fd := none },
      source.fd.toList.map (fun socket => .call (.close socket)) ++ [.stopReturned])
  else (source, [])

/-- The next section of the thread. A `recv` without anything to receive waits, until the socket is
shut down. -/
def loopStep (source : UdpSource) (answer : LoopAnswer) : UdpSource × List Obs :=
  match source.loop with
  | .none => (source, [])
  | .test => ({ source with loop := if source.running then .poll else .returned }, [])
  | .poll => ({ source with loop := if answer.ready then .recv else .test }, source.useFd)
  | .recv =>
      if answer.failed then ({ source with loop := .test }, source.useFd)
      else
        match source.queued with
        | [] => if source.shut then ({ source with loop := .test }, source.useFd) else (source, [])
        | data :: rest =>
            let received := data.take bufferSize
            ({ source with
                queued := rest
                loop := if received = [] then .test else .deliver received }, source.useFd)
  | .deliver data =>
      ({ source with loop := .test }, if source.callback then [.datagram data] else [])
  | .returned => (source, [])

/-- A datagram reaches the socket. -/
def arrive (source : UdpSource) (data : List Byte) : UdpSource × List Obs :=
  if source.fd.isSome then ({ source with queued := source.queued ++ [data] }, [.arrived data])
  else (source, [])

end UdpSource

/-- `MakeUdpSource`. The station sets the callback before it starts the source. -/
abbrev makeUdpSource (config : UdpSourceConfig) : UdpSource := { config, callback := true }

/-- The source as a machine. -/
def machine : Mealy UdpSource Event Obs where
  step source
    | .start calls => source.start calls
    | .stopRequest => source.stopRequest
    | .stopShutdown => source.stopShutdown
    | .stopJoin => source.stopJoin
    | .loop answer => source.loopStep answer
    | .arrive data => source.arrive data

/-- `Start` is called where the source is stopped: the station makes a source for each of its own
starts. -/
def StartsStopped (source : UdpSource) (_ : List Obs) : Event → Prop
  | .start _ => source.running = false ∧ source.stopping = .idle
  | _ => True

instance (source : UdpSource) (trace : List Obs) :
    ∀ event, Decidable (StartsStopped source trace event)
  | .start _ => inferInstanceAs (Decidable (_ ∧ _))
  | .stopRequest => inferInstanceAs (Decidable True)
  | .stopShutdown => inferInstanceAs (Decidable True)
  | .stopJoin => inferInstanceAs (Decidable True)
  | .loop _ => inferInstanceAs (Decidable True)
  | .arrive _ => inferInstanceAs (Decidable True)

/-! ## The socket and the thread -/

/-- The socket is open, and has its thread, as long as the source runs or is being stopped. -/
structure Consistent (source : UdpSource) : Prop where
  holds : source.fd.isSome = true ↔ source.running = true ∨ source.stopping ≠ .idle
  thread : source.loop = .none ↔ source.fd = none
  requested : source.running = true → source.stopping = .idle
  shutDown : source.stopping = .join → source.shut = true

/-- The calls of an observation. -/
def Obs.calls : Obs → List (Call Socket)
  | .call made => [made]
  | .startReturned _ => []
  | .arrived _ => []
  | .datagram _ => []
  | .stopReturned => []

/-- The socket that is open. -/
def UdpSource.held (source : UdpSource) : Multiset Socket := (source.fd.toList : Multiset Socket)

/-- What a step does to the source and its socket. -/
def StepMoves (source source' : UdpSource) (emitted : List Obs) : Prop :=
  Consistent source' ∧ Moves Socket.serial source.held source.nextSerial
    (emitted.flatMap Obs.calls) source'.held source'.nextSerial

section Steps

variable {source : UdpSource}

theorem consistent_fresh (config : UdpSourceConfig) : Consistent (makeUdpSource config) where
  holds := by simp
  thread := by simp
  requested := fun no => by cases no
  shutDown := fun no => by cases no

/-- A step that keeps the socket, and only uses it. -/
theorem stepMoves_used (source' : UdpSource) {emitted : List Obs}
    (consistent : Consistent source') (fd : source'.fd = source.fd)
    (serial : source'.nextSerial = source.nextSerial)
    (uses : emitted.flatMap Obs.calls = [] ∨
      ∃ socket, source.fd = some socket ∧ emitted.flatMap Obs.calls = [.use socket]) :
    StepMoves source source' emitted := by
  refine ⟨consistent, ?_⟩
  rw [UdpSource.held, UdpSource.held, fd, serial]
  rcases uses with none | ⟨socket, isOpen, one⟩
  · rw [none]
    exact .nil _ _ _
  · rw [one, isOpen]
    exact .use (Multiset.mem_singleton_self socket) _

/-- Using the socket. -/
theorem calls_useFd (source : UdpSource) :
    source.useFd.flatMap Obs.calls = [] ∨
      ∃ socket, source.fd = some socket ∧ source.useFd.flatMap Obs.calls = [.use socket] := by
  cases isOpen : source.fd with
  | none => exact .inl (by rw [UdpSource.useFd, isOpen]; rfl)
  | some socket => exact .inr ⟨socket, rfl, by rw [UdpSource.useFd, isOpen]; rfl⟩

theorem start_moves (consistent : Consistent source) (stopped : source.running = false)
    (idle : source.stopping = .idle) (calls : StartCalls) :
    StepMoves source (source.start calls).1 (source.start calls).2 := by
  have closed : source.fd = none := by
    cases isOpen : source.fd with
    | none => rfl
    | some socket =>
        have busy := consistent.holds.mp (by rw [isOpen]; rfl)
        rw [stopped, idle] at busy
        rcases busy with no | no
        · cases no
        · exact absurd rfl no
  have noThread := consistent.thread.mpr closed
  have before : source.held = 0 := by rw [UdpSource.held, closed]; rfl
  rw [StepMoves, before]
  unfold UdpSource.start
  cases calls.socket with
  | none =>
      refine ⟨⟨?_, ?_, consistent.requested, consistent.shutDown⟩, .nil _ _ _⟩
      · simp [stopped, idle]
      · simp [noThread]
  | some fd =>
      -- The socket is set up, and either closed again or kept.
      have setUp (more : List (Call Socket)) (left : Multiset Socket)
          (moves : Moves Socket.serial {(⟨fd, source.nextSerial⟩ : Socket)}
            (source.nextSerial + 1) more left (source.nextSerial + 1)) :
          Moves Socket.serial 0 source.nextSerial
            (.grant ⟨fd, source.nextSerial⟩ :: .use ⟨fd, source.nextSerial⟩ ::
              .use ⟨fd, source.nextSerial⟩ :: more) left (source.nextSerial + 1) :=
        (Moves.grant 0 rfl).append <|
          (Moves.use (Multiset.mem_singleton_self _) _).append <|
            (Moves.use (Multiset.mem_singleton_self _) _).append moves
      have closes : Moves Socket.serial {(⟨fd, source.nextSerial⟩ : Socket)}
          (source.nextSerial + 1) [.close ⟨fd, source.nextSerial⟩] 0 (source.nextSerial + 1) :=
        .close 0 _ _
      have uses : Moves Socket.serial {(⟨fd, source.nextSerial⟩ : Socket)}
          (source.nextSerial + 1) [.use ⟨fd, source.nextSerial⟩]
          {(⟨fd, source.nextSerial⟩ : Socket)} (source.nextSerial + 1) :=
        .use (Multiset.mem_singleton_self _) _
      dsimp only
      split
      · refine ⟨⟨?_, ?_, consistent.requested, consistent.shutDown⟩, setUp _ _ closes⟩
        · simp [stopped, idle]
        · simp [noThread]
      · split
        · refine ⟨⟨?_, ?_, consistent.requested, consistent.shutDown⟩,
            setUp _ _ (uses.append closes)⟩
          · simp [stopped, idle]
          · simp [noThread]
        · refine ⟨⟨?_, ?_, fun _ => idle, fun joins => ?_⟩, setUp _ _ uses⟩
          · simp
          · simp
          · exact absurd (joins.symm.trans idle) (by simp)

theorem stop_moves (consistent : Consistent source) :
    StepMoves source source.stopRequest.1 source.stopRequest.2 ∧
      StepMoves source source.stopShutdown.1 source.stopShutdown.2 ∧
      StepMoves source source.stopJoin.1 source.stopJoin.2 := by
  refine ⟨?_, ?_, ?_⟩
  · unfold UdpSource.stopRequest
    split
    · rename_i running
      refine stepMoves_used _
        ⟨?_, consistent.thread, fun no => (by cases no), fun no => (by cases no)⟩
        rfl rfl (.inl rfl)
      simp [consistent.holds, running]
    · split
      · exact stepMoves_used _ consistent rfl rfl (.inl rfl)
      · exact stepMoves_used _ consistent rfl rfl (.inl rfl)
  · unfold UdpSource.stopShutdown
    split
    · rename_i asked
      have busy : source.fd.isSome = true := consistent.holds.mpr (.inr (by simp [asked]))
      refine stepMoves_used _ ⟨?_, consistent.thread, ?_, fun _ => rfl⟩ rfl rfl
        (calls_useFd source)
      · simp [busy]
      · intro running
        rw [consistent.requested running] at asked
        cases asked
    · exact stepMoves_used _ consistent rfl rfl (.inl rfl)
  · unfold UdpSource.stopJoin
    split
    · rename_i joins
      have stopped : source.running = false := by
        cases running : source.running with
        | false => rfl
        | true => exact absurd (joins.1.symm.trans (consistent.requested running)) (by simp)
      refine ⟨⟨?_, ?_, fun _ => rfl, fun no => by cases no⟩, ?_⟩
      · simp [stopped]
      · simp
      · cases isOpen : source.fd with
        | none =>
            rw [UdpSource.held, isOpen]
            exact .nil _ _ _
        | some socket =>
            rw [UdpSource.held, isOpen]
            exact .close 0 socket _
    · exact stepMoves_used _ consistent rfl rfl (.inl rfl)

/-- A thread that is there goes on. -/
theorem Consistent.goesOn (consistent : Consistent source) (loop : LoopPoint)
    (there : source.loop ≠ .none) (on : loop ≠ .none) : Consistent { source with loop } where
  holds := consistent.holds
  thread := by
    have some : source.fd ≠ none := fun no => there (consistent.thread.mpr no)
    exact ⟨fun no => absurd no on, fun no => absurd no some⟩
  requested := consistent.requested
  shutDown := consistent.shutDown

theorem loop_moves (consistent : Consistent source) (answer : LoopAnswer) :
    StepMoves source (source.loopStep answer).1 (source.loopStep answer).2 := by
  unfold UdpSource.loopStep
  split
  · exact stepMoves_used _ consistent rfl rfl (.inl rfl)
  · rename_i point
    refine stepMoves_used _ (consistent.goesOn _ (by simp [point]) ?_) rfl rfl (.inl rfl)
    split <;> simp
  · rename_i point
    refine stepMoves_used _ (consistent.goesOn _ (by simp [point]) ?_) rfl rfl (calls_useFd source)
    split <;> simp
  · rename_i point
    have there : source.loop ≠ .none := by simp [point]
    split
    · exact stepMoves_used _ (consistent.goesOn _ there (by simp)) rfl rfl (calls_useFd source)
    · split
      · split
        · exact stepMoves_used _ (consistent.goesOn _ there (by simp)) rfl rfl
            (calls_useFd source)
        · exact stepMoves_used _ consistent rfl rfl (.inl rfl)
      · rename_i data rest _
        have next := consistent.goesOn
          (if data.take bufferSize = [] then .test else .deliver (data.take bufferSize)) there
          (by split <;> simp)
        exact stepMoves_used _ ⟨next.holds, next.thread, next.requested, next.shutDown⟩ rfl rfl
          (calls_useFd source)
  · rename_i data point
    refine stepMoves_used _ (consistent.goesOn _ (by simp [point]) (by simp)) rfl rfl (.inl ?_)
    split <;> rfl
  · exact stepMoves_used _ consistent rfl rfl (.inl rfl)

theorem arrive_moves (consistent : Consistent source) (data : List Byte) :
    StepMoves source (source.arrive data).1 (source.arrive data).2 := by
  unfold UdpSource.arrive
  split
  · exact stepMoves_used _ ⟨consistent.holds, consistent.thread, consistent.requested,
      consistent.shutDown⟩ rfl rfl (.inl rfl)
  · exact stepMoves_used _ consistent rfl rfl (.inl rfl)

/-- **One step.** -/
theorem step_moves (consistent : Consistent source) {trace : List Obs} {event : Event}
    (starts : StartsStopped source trace event) :
    StepMoves source (machine.step source event).1 (machine.step source event).2 := by
  cases event with
  | start calls => exact start_moves consistent starts.1 starts.2 calls
  | stopRequest => exact (stop_moves consistent).1
  | stopShutdown => exact (stop_moves consistent).2.1
  | stopJoin => exact (stop_moves consistent).2.2
  | loop answer => exact loop_moves consistent answer
  | arrive data => exact arrive_moves consistent data

end Steps

/-- The calls of a run. -/
def descriptorCalls (config : UdpSourceConfig) (events : List Event) : List (Call Socket) :=
  (machine.outputs (makeUdpSource config) events).flatMap Obs.calls

/-- What holds along every run. -/
theorem run_moves (config : UdpSourceConfig) {events : List Event}
    (starts : machine.EveryStep StartsStopped (makeUdpSource config) events) :
    StepMoves (makeUdpSource config) (machine.after (makeUdpSource config) events)
      (machine.outputs (makeUdpSource config) events) :=
  moves_of_everyStep Obs.calls Socket.serial UdpSource.held UdpSource.nextSerial
    (consistent_fresh config) (fun _ _ _ consistent starts => step_moves consistent starts) starts

/-- A start without a port to bind, one that goes well, a datagram, and a stop. -/
def received : List Event :=
  [.start { socket := some 7 }, .start { socket := some 7, bind := true }, .arrive [1, 2],
    .loop ⟨true, false⟩, .loop ⟨true, false⟩, .loop ⟨true, false⟩, .stopRequest,
    .loop ⟨true, false⟩, .loop ⟨true, false⟩, .stopShutdown, .stopJoin]

end Source

end MobileGs
