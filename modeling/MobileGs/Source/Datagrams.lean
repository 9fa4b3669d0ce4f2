import MobileGs.Source.UdpSource

/-!
# The datagrams of a UDP source

Between the opening of its socket and the end of `Stop`, the source hands its datagrams over in the
order in which they reached the socket, each once. What is not handed over is still in the thread or
in the socket, so nothing is lost while the source runs (`datagrams_conveyed`). A datagram without
bytes is skipped, and one that does not fit the buffer of the thread is cut.
-/

set_option autoImplicit false

namespace MobileGs

namespace Source

open Handles Router

/-- A socket is opened. -/
def Obs.opens : Obs → Bool
  | .call (.grant _) => true
  | _ => false

/-- The part of a run behind the latest opening of a socket. -/
def session (trace : List Obs) : List Obs :=
  trace.foldl (fun behind obs => if obs.opens then [] else behind ++ [obs]) []

/-- The datagrams that reached the socket. -/
def arrivals (trace : List Obs) : List (List Byte) :=
  trace.filterMap fun
    | .arrived data => some data
    | _ => none

/-- The datagrams handed over. -/
def delivered (trace : List Obs) : List (List Byte) :=
  trace.filterMap fun
    | .datagram data => some data
    | _ => none

/-- What is handed over of some datagrams: as much as fits the buffer, of those that are not
empty. -/
def carried (datagrams : List (List Byte)) : List (List Byte) :=
  (datagrams.map (List.take bufferSize)).filter (· ≠ [])

/-- What the thread has received and not handed over. -/
def UdpSource.inFlight (source : UdpSource) : List (List Byte) :=
  match source.loop with
  | .deliver data => [data]
  | _ => []

theorem session_append (trace : List Obs) {emitted : List Obs}
    (keeps : ∀ obs ∈ emitted, obs.opens = false) :
    session (trace ++ emitted) = session trace ++ emitted := by
  induction emitted using List.reverseRecOn with
  | nil => rw [List.append_nil, List.append_nil]
  | append_singleton emitted last ih =>
      have front := ih fun obs among => keeps obs (List.mem_append_left _ among)
      have lastKeeps := keeps last (List.mem_append_right _ (List.mem_singleton_self last))
      rw [session] at front ⊢
      rw [← List.append_assoc, List.foldl_append, front]
      simp [lastKeeps]

theorem session_opened (trace : List Obs) (socket : Socket) {emitted : List Obs}
    (keeps : ∀ obs ∈ emitted, obs.opens = false) :
    session (trace ++ .call (.grant socket) :: emitted) = emitted := by
  have opening : session (trace ++ [.call (.grant socket)]) = [] := by
    rw [session, List.foldl_append]
    rfl
  have whole := session_append (trace ++ [.call (.grant socket)]) keeps
  rw [opening, List.append_assoc] at whole
  exact whole

theorem arrivals_append (trace emitted : List Obs) :
    arrivals (trace ++ emitted) = arrivals trace ++ arrivals emitted := List.filterMap_append

theorem delivered_append (trace emitted : List Obs) :
    delivered (trace ++ emitted) = delivered trace ++ delivered emitted := List.filterMap_append

theorem carried_append (datagrams more : List (List Byte)) :
    carried (datagrams ++ more) = carried datagrams ++ carried more := by
  rw [carried, List.map_append, List.filter_append, carried, carried]

/-- **What becomes of the datagrams of a session.** They are handed over in the order they arrived.
As long as the socket is open, what is not handed over waits in the thread or in the socket. -/
structure Conveyed (source : UdpSource) (trace : List Obs) : Prop where
  inOrder : delivered (session trace) <+: carried (arrivals (session trace))
  waiting : source.fd.isSome = true →
    delivered (session trace) ++ source.inFlight ++ carried source.queued =
      carried (arrivals (session trace))

/-- An observation that neither opens a socket nor carries a datagram. -/
def Obs.silent : Obs → Bool
  | .call (.grant _) => false
  | .arrived _ => false
  | .datagram _ => false
  | _ => true

/-- Nothing is opened or carried. -/
def Quiet (emitted : List Obs) : Prop := ∀ obs ∈ emitted, obs.silent = true

theorem Quiet.opens {emitted : List Obs} (quiet : Quiet emitted) :
    ∀ obs ∈ emitted, obs.opens = false := by
  intro obs among
  have silent := quiet obs among
  unfold Obs.silent at silent
  unfold Obs.opens
  split at silent <;> simp_all

theorem Quiet.datagrams {emitted : List Obs} (quiet : Quiet emitted) :
    arrivals emitted = [] ∧ delivered emitted = [] := by
  constructor
  · refine List.filterMap_eq_nil_iff.mpr fun obs among => ?_
    have silent := quiet obs among
    unfold Obs.silent at silent
    split at silent <;> simp_all
  · refine List.filterMap_eq_nil_iff.mpr fun obs among => ?_
    have silent := quiet obs among
    unfold Obs.silent at silent
    split at silent <;> simp_all

theorem quiet_nil : Quiet [] := fun _ among => absurd among List.not_mem_nil

theorem quiet_useFd (source : UdpSource) : Quiet source.useFd := by
  intro obs among
  obtain ⟨socket, -, rfl⟩ := List.mem_map.mp among
  rfl

section Conveying

variable {source : UdpSource} {trace : List Obs}

/-- A step that carries nothing: what waits is the same, unless the socket is closed. -/
theorem Conveyed.quiet (conveyed : Conveyed source trace) (source' : UdpSource)
    {emitted : List Obs} (quiet : Quiet emitted)
    (waiting : source'.fd.isSome = true → source.fd.isSome = true ∧
      source'.inFlight ++ carried source'.queued = source.inFlight ++ carried source.queued) :
    Conveyed source' (trace ++ emitted) := by
  have same : session (trace ++ emitted) = session trace ++ emitted :=
    session_append trace quiet.opens
  obtain ⟨noArrival, noDelivery⟩ := quiet.datagrams
  have arrived : arrivals (session (trace ++ emitted)) = arrivals (session trace) := by
    rw [same, arrivals_append, noArrival, List.append_nil]
  have handed : delivered (session (trace ++ emitted)) = delivered (session trace) := by
    rw [same, delivered_append, noDelivery, List.append_nil]
  refine ⟨?_, fun isOpen => ?_⟩
  · rw [arrived, handed]
    exact conveyed.inOrder
  · obtain ⟨wasOpen, kept⟩ := waiting isOpen
    rw [arrived, handed, List.append_assoc, kept, ← List.append_assoc]
    exact conveyed.waiting wasOpen

theorem Conveyed.start (conveyed : Conveyed source trace) (calls : StartCalls) :
    Conveyed (source.start calls).1 (trace ++ (source.start calls).2) := by
  unfold UdpSource.start
  cases calls.socket with
  | none =>
      refine conveyed.quiet _ ?_ fun no => by cases no
      intro obs among
      obtain rfl := List.mem_singleton.mp among
      rfl
  | some fd =>
      have opened (source' : UdpSource) {more : List Obs} (quiet : Quiet more)
          (empty : source'.fd.isSome = true → source'.inFlight ++ carried source'.queued = []) :
          Conveyed source' (trace ++ .call (.grant ⟨fd, source.nextSerial⟩) :: more) := by
        have fresh : session (trace ++ .call (.grant ⟨fd, source.nextSerial⟩) :: more) = more :=
          session_opened trace _ quiet.opens
        obtain ⟨noArrival, noDelivery⟩ := quiet.datagrams
        refine ⟨?_, fun isOpen => ?_⟩
        · rw [fresh, noArrival, noDelivery]
          exact List.nil_prefix
        · rw [fresh, noArrival, noDelivery, List.append_assoc, empty isOpen]
          rfl
      dsimp only
      split
      · refine opened _ ?_ fun no => by cases no
        simp [Quiet, Obs.silent]
      · split
        · refine opened _ ?_ fun no => by cases no
          simp [Quiet, Obs.silent]
        · refine opened _ ?_ fun _ => rfl
          simp [Quiet, Obs.silent]

theorem Conveyed.stop (conveyed : Conveyed source trace) :
    Conveyed source.stopRequest.1 (trace ++ source.stopRequest.2) ∧
      Conveyed source.stopShutdown.1 (trace ++ source.stopShutdown.2) ∧
      Conveyed source.stopJoin.1 (trace ++ source.stopJoin.2) := by
  have returned : Quiet [.stopReturned] := by simp [Quiet, Obs.silent]
  refine ⟨?_, ?_, ?_⟩
  · unfold UdpSource.stopRequest
    split
    · exact conveyed.quiet _ quiet_nil fun isOpen => ⟨isOpen, rfl⟩
    · split
      · exact conveyed.quiet _ returned fun isOpen => ⟨isOpen, rfl⟩
      · exact conveyed.quiet _ quiet_nil fun isOpen => ⟨isOpen, rfl⟩
  · unfold UdpSource.stopShutdown
    split
    · exact conveyed.quiet _ (quiet_useFd source) fun isOpen => ⟨isOpen, rfl⟩
    · exact conveyed.quiet _ quiet_nil fun isOpen => ⟨isOpen, rfl⟩
  · unfold UdpSource.stopJoin
    split
    · refine conveyed.quiet _ ?_ fun no => by cases no
      intro obs among
      rcases List.mem_append.mp among with closes | last
      · obtain ⟨socket, -, rfl⟩ := List.mem_map.mp closes
        rfl
      · exact returned obs last
    · exact conveyed.quiet _ quiet_nil fun isOpen => ⟨isOpen, rfl⟩

/-- The thread takes a datagram from the socket. -/
theorem inFlight_received (data : List Byte) (rest : List (List Byte)) (source : UdpSource) :
    ({ source with
      queued := rest
      loop := if data.take bufferSize = [] then .test else .deliver (data.take bufferSize)
      } : UdpSource).inFlight ++ carried rest = carried (data :: rest) := by
  have whole : carried (data :: rest) = carried [data] ++ carried rest := carried_append [data] rest
  rw [whole]
  by_cases none : data.take bufferSize = []
  · simp [UdpSource.inFlight, carried, none]
  · simp [UdpSource.inFlight, carried, none]

theorem Conveyed.loop (conveyed : Conveyed source trace) (consistent : Consistent source)
    (callback : source.callback = true) (answer : LoopAnswer) :
    Conveyed (source.loopStep answer).1 (trace ++ (source.loopStep answer).2) := by
  unfold UdpSource.loopStep
  split
  · exact conveyed.quiet _ quiet_nil fun isOpen => ⟨isOpen, rfl⟩
  · rename_i point
    refine conveyed.quiet _ quiet_nil fun isOpen => ⟨isOpen, ?_⟩
    cases source.running <;> simp [UdpSource.inFlight, point]
  · rename_i point
    refine conveyed.quiet _ (quiet_useFd source) fun isOpen => ⟨isOpen, ?_⟩
    cases answer.ready <;> simp [UdpSource.inFlight, point]
  · rename_i point
    have nothing : source.inFlight = [] := by rw [UdpSource.inFlight, point]
    split
    · refine conveyed.quiet _ (quiet_useFd source) fun isOpen => ⟨isOpen, ?_⟩
      rw [nothing]
      rfl
    · split
      · split
        · refine conveyed.quiet _ (quiet_useFd source) fun isOpen => ⟨isOpen, ?_⟩
          rw [nothing]
          rfl
        · exact conveyed.quiet _ quiet_nil fun isOpen => ⟨isOpen, rfl⟩
      · rename_i data rest queue
        refine conveyed.quiet _ (quiet_useFd source) fun isOpen => ⟨isOpen, ?_⟩
        rw [inFlight_received, nothing, queue]
        rfl
  · -- The datagram in flight becomes the last one handed over.
    rename_i data point
    have isOpen : source.fd.isSome = true := by
      cases closed : source.fd with
      | none => exact absurd (point.symm.trans (consistent.thread.mpr closed)) (by simp)
      | some _ => rfl
    have flying : source.inFlight = [data] := by rw [UdpSource.inFlight, point]
    have before := conveyed.waiting isOpen
    have same : session (trace ++ [.datagram data]) = session trace ++ [.datagram data] :=
      session_append trace (by simp [Obs.opens])
    have arrived : arrivals (session (trace ++ [.datagram data])) = arrivals (session trace) := by
      rw [same, arrivals_append]
      exact List.append_nil _
    have handed : delivered (session (trace ++ [.datagram data])) =
        delivered (session trace) ++ [data] := by
      rw [same, delivered_append]
      rfl
    rw [if_pos callback]
    have behind : delivered (session (trace ++ [.datagram data])) ++ [] ++ carried source.queued =
        carried (arrivals (session (trace ++ [.datagram data]))) := by
      rw [arrived, handed, List.append_nil, ← flying, before]
    refine ⟨?_, fun _ => behind⟩
    rw [← behind, List.append_nil]
    exact List.prefix_append _ _
  · exact conveyed.quiet _ quiet_nil fun isOpen => ⟨isOpen, rfl⟩

theorem Conveyed.arrive (conveyed : Conveyed source trace) (data : List Byte) :
    Conveyed (source.arrive data).1 (trace ++ (source.arrive data).2) := by
  unfold UdpSource.arrive
  split
  · rename_i isOpen
    have same : session (trace ++ [.arrived data]) = session trace ++ [.arrived data] :=
      session_append trace (by simp [Obs.opens])
    have arrived : arrivals (session (trace ++ [.arrived data])) =
        arrivals (session trace) ++ [data] := by
      rw [same, arrivals_append]
      rfl
    have handed : delivered (session (trace ++ [.arrived data])) = delivered (session trace) := by
      rw [same, delivered_append]
      exact List.append_nil _
    have behind : delivered (session (trace ++ [.arrived data])) ++ source.inFlight ++
        carried (source.queued ++ [data]) =
          carried (arrivals (session (trace ++ [.arrived data]))) := by
      rw [arrived, handed, carried_append, carried_append, ← conveyed.waiting isOpen,
        List.append_assoc, List.append_assoc, List.append_assoc]
    refine ⟨?_, fun _ => behind⟩
    rw [← behind, List.append_assoc]
    exact List.prefix_append _ _
  · exact conveyed.quiet _ quiet_nil fun isOpen => ⟨isOpen, rfl⟩

end Conveying

/-- The callback stays set. -/
theorem callback_step (source : UdpSource) (event : Event) :
    (machine.step source event).1.callback = source.callback := by
  cases event with
  | start calls =>
      simp only [machine, UdpSource.start]
      cases calls.socket with
      | none => rfl
      | some fd =>
          dsimp only
          split
          · rfl
          · split <;> rfl
  | stopRequest =>
      simp only [machine, UdpSource.stopRequest]
      split
      · rfl
      · split <;> rfl
  | stopShutdown =>
      simp only [machine, UdpSource.stopShutdown]
      split <;> rfl
  | stopJoin =>
      simp only [machine, UdpSource.stopJoin]
      split <;> rfl
  | loop answer =>
      simp only [machine, UdpSource.loopStep]
      split <;> try rfl
      split
      · rfl
      · split
        · split <;> rfl
        · rfl
  | arrive data =>
      simp only [machine, UdpSource.arrive]
      split <;> rfl

/-- **The datagrams of every run** are handed over as they arrived, and none is lost as long as the
source is not stopped. -/
theorem datagrams_conveyed (config : UdpSourceConfig) {events : List Event}
    (starts : machine.EveryStep StartsStopped (makeUdpSource config) events) :
    Conveyed (machine.after (makeUdpSource config) events)
      (machine.outputs (makeUdpSource config) events) := by
  have kept := Mealy.invariant_of_everyStep
    (fun source trace => Consistent source ∧ source.callback = true ∧ Conveyed source trace)
    ⟨consistent_fresh config, rfl, List.nil_prefix, fun no => by cases no⟩
    (fun source trace event ⟨consistent, callback, conveyed⟩ starts => by
      refine ⟨(step_moves consistent starts).1, (callback_step source event).trans callback, ?_⟩
      cases event with
      | start calls => exact conveyed.start calls
      | stopRequest => exact conveyed.stop.1
      | stopShutdown => exact conveyed.stop.2.1
      | stopJoin => exact conveyed.stop.2.2
      | loop answer => exact conveyed.loop consistent callback answer
      | arrive data => exact conveyed.arrive data)
    starts
  exact kept.2.2

theorem datagrams_conveyed_received :
    Conveyed (machine.after (makeUdpSource {}) received)
      (machine.outputs (makeUdpSource {}) received) :=
  datagrams_conveyed {} (by decide)

end Source

end MobileGs
