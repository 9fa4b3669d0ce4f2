import MobileGs.Foundations.Interleaving
import MobileGs.Msp.Pending
import MobileGs.Station.TelemetryPort

/-!
# Two ports into one decoder

Telemetry and tunnel payloads go through the same MSP decoder, and a payload may end inside a
frame. The decoder then reads the next payload as the rest of that frame, whichever port it comes
from (`not_portsApart_cutFrame`).

What the decoder dispatches depends only on what it has read of a frame, and an idle decoder is
like a fresh one (`MspOsdDecoder.pending`). So as long as the ports take turns with the decoder
idle, each message is one that its own port's stream has by itself (`portsApart_of_everyStep`).
-/

set_option autoImplicit false

namespace MobileGs

namespace Station

open Mavlink Msp Router MspOsdDecoder

/-! ## The streams of the ports -/

/-- The ports that carry MSP. -/
inductive Port where
  | telemetry
  | tunnel
  deriving DecidableEq, Repr

/-- A payload that went through at a port. -/
def Obs.payload? (port : Port) : Obs → Option (List Byte)
  | .telemetry data => if port = .telemetry then some data else none
  | .tunnel data => if port = .tunnel then some data else none
  | _ => none

/-- The stream of a port. -/
def portStream (port : Port) (trace : List Obs) : List Byte :=
  (trace.filterMap (Obs.payload? port)).flatten

/-- The port of the last payload that was not empty. -/
def lastPort (trace : List Obs) : Option Port :=
  trace.foldl
    (fun last obs =>
      match obs with
      | .telemetry (_ :: _) => some .telemetry
      | .tunnel (_ :: _) => some .tunnel
      | _ => last) none

/-- The messages the decoder dispatched are those of the telemetry stream and those of the tunnel
stream, each in order. -/
def PortsApart (trace : List Obs) : Prop :=
  Interleaving (dispatched true (portStream .telemetry trace))
    (dispatched true (portStream .tunnel trace)) (messagesOf (osdOutputs trace))

/-- A payload finds the decoder idle, or follows one of its own port. -/
def TakesTurn (station : GroundStation) (trace : List Obs) : Event → Prop
  | .telemetry data _ _ =>
      station.mavlink.locked = false → data ≠ [] →
        station.osd.state = .idle ∨ lastPort trace = some .telemetry
  | .tunnel data =>
      data ≠ [] → station.osd.state = .idle ∨ lastPort trace = some .tunnel
  | .router _ => True

instance (station : GroundStation) (trace : List Obs) :
    ∀ event, Decidable (TakesTurn station trace event)
  | .telemetry _ _ _ => inferInstanceAs (Decidable (_ → _))
  | .tunnel _ => inferInstanceAs (Decidable (_ → _))
  | .router _ => inferInstanceAs (Decidable True)

theorem portStream_append (port : Port) (trace emitted : List Obs) :
    portStream port (trace ++ emitted) = portStream port trace ++ portStream port emitted := by
  rw [portStream, List.filterMap_append, List.flatten_append]
  rfl

/-- Observations other than payloads. -/
def Quiet (emitted : List Obs) : Prop := ∀ obs ∈ emitted, ∀ port, obs.payload? port = none

theorem portStream_quiet {emitted : List Obs} (quiet : Quiet emitted) (port : Port) :
    portStream port emitted = [] := by
  have none : emitted.filterMap (Obs.payload? port) = [] :=
    List.filterMap_eq_nil_iff.mpr fun obs member => quiet obs member port
  rw [portStream, none]
  rfl

theorem lastPort_quiet {emitted : List Obs} (quiet : Quiet emitted) (trace : List Obs) :
    lastPort (trace ++ emitted) = lastPort trace := by
  induction emitted using List.reverseRecOn with
  | nil => rw [List.append_nil]
  | append_singleton emitted obs ih =>
      have earlier := ih fun other member => quiet other (List.mem_append_left _ member)
      have none := quiet obs (List.mem_append_right _ (List.mem_singleton_self obs))
      rw [← earlier, ← List.append_assoc, lastPort, List.foldl_append]
      cases obs with
      | telemetry data => cases none .telemetry
      | tunnel data => cases none .tunnel
      | _ => rfl

theorem quiet_fed (fed : List Router.Obs) (outputs : List Output) :
    Quiet (fed.map .fed ++ outputs.map .osd) := by
  intro obs member port
  rcases List.mem_append.mp member with member | member
  · obtain ⟨_, -, rfl⟩ := List.mem_map.mp member
    rfl
  · obtain ⟨_, -, rfl⟩ := List.mem_map.mp member
    rfl

theorem quiet_routed (emitted : List Router.Obs) : Quiet (emitted.map .routed) := by
  intro obs member port
  obtain ⟨_, -, rfl⟩ := List.mem_map.mp member
  rfl

/-- The decoder that is given the stream of a port alone. -/
def ownDecoder (port : Port) (trace : List Obs) : MspOsdDecoder :=
  bytewise.after (fresh true) (portStream port trace)

/-! ## The invariant -/

/-- The decoder has the frame of the port heard last pending, no other port is inside a frame, and
the messages so far come from the ports' own streams. -/
structure Apart (decoder : MspOsdDecoder) (trace : List Obs) : Prop where
  heard : ∀ port, lastPort trace = some port → decoder.pending = (ownDecoder port trace).pending
  others : ∀ port, lastPort trace ≠ some port → (ownDecoder port trace).state = .idle
  unheard : lastPort trace = none → decoder.state = .idle
  messages : PortsApart trace

theorem apart_fresh : Apart (fresh true) [] where
  heard := fun _ impossible => by cases impossible
  others := fun _ _ => rfl
  unheard := fun _ => rfl
  messages := .nil

/-- A step that pushes no bytes. -/
theorem Apart.frame {decoder : MspOsdDecoder} {trace emitted : List Obs}
    (apart : Apart decoder trace) (last : lastPort (trace ++ emitted) = lastPort trace)
    (streams : ∀ port, portStream port emitted = []) (outputs : osdOutputs emitted = []) :
    Apart decoder (trace ++ emitted) := by
  have same (port : Port) : portStream port (trace ++ emitted) = portStream port trace := by
    rw [portStream_append, streams, List.append_nil]
  have own (port : Port) : ownDecoder port (trace ++ emitted) = ownDecoder port trace := by
    rw [ownDecoder, same, ownDecoder]
  constructor
  · intro port
    rw [last, own]
    exact apart.heard port
  · intro port
    rw [last, own]
    exact apart.others port
  · rw [last]
    exact apart.unheard
  · rw [PortsApart, same, same, osdOutputs_append, outputs, List.append_nil]
    exact apart.messages

/-- A payload that finds the decoder idle, or follows one of its own port, is read as its port's
own decoder reads it. -/
theorem Apart.push {decoder : MspOsdDecoder} {trace emitted : List Obs}
    (apart : Apart decoder trace) {port : Port} {data : List Byte}
    (turn : decoder.state = .idle ∨ lastPort trace = some port)
    (last : lastPort (trace ++ emitted) = some port) (stream : portStream port emitted = data)
    (others : ∀ other, other ≠ port → portStream other emitted = [])
    (outputs : osdOutputs emitted = bytewise.outputs decoder data) :
    Apart (bytewise.after decoder data) (trace ++ emitted) := by
  have same : decoder.pending = (ownDecoder port trace).pending := by
    by_cases heard : lastPort trace = some port
    · exact apart.heard port heard
    · have idle := turn.resolve_right heard
      rw [pending_idle idle, pending_idle (apart.others port heard)]
  obtain ⟨pending, messages⟩ := run_pending same data
  have grows : portStream port (trace ++ emitted) = portStream port trace ++ data := by
    rw [portStream_append, stream]
  have keeps (other : Port) (different : other ≠ port) :
      portStream other (trace ++ emitted) = portStream other trace := by
    rw [portStream_append, others other different, List.append_nil]
  have emits : messagesOf (osdOutputs (trace ++ emitted)) =
      messagesOf (osdOutputs trace) ++
        messagesOf (bytewise.outputs (ownDecoder port trace) data) := by
    rw [osdOutputs_append, messagesOf_append, outputs, messages]
  constructor
  · intro other heard
    rw [last] at heard
    obtain rfl := Option.some.inj heard
    rw [ownDecoder, grows, Mealy.after_append]
    exact pending
  · intro other unheard
    have different : other ≠ port := fun equal => unheard (by rw [last, equal])
    rw [ownDecoder, keeps other different]
    by_cases heard : lastPort trace = some other
    · -- The port heard before was at rest when the turn passed.
      have idle : decoder.state = .idle := by
        refine turn.resolve_right fun own => different ?_
        exact Option.some.inj (heard.symm.trans own)
      rw [← pending_state, ← ownDecoder, ← apart.heard other heard, pending_state, idle]
    · exact apart.others other heard
  · intro none
    rw [last] at none
    cases none
  · have interleaving := apart.messages
    cases port with
    | telemetry =>
        rw [PortsApart, emits, grows, keeps .tunnel (by decide), dispatched_append]
        exact interleaving.onFirst _
    | tunnel =>
        rw [PortsApart, emits, grows, keeps .telemetry (by decide), dispatched_append]
        exact interleaving.onSecond _

/-! ## Runs -/

/-- A payload of a port, with what it causes. -/
theorem Apart.payload {decoder : MspOsdDecoder} {trace rest : List Obs}
    (apart : Apart decoder trace) {port : Port} {data : List Byte} {obs : Obs}
    (turn : data ≠ [] → decoder.state = .idle ∨ lastPort trace = some port)
    (is : obs = if port = .telemetry then .telemetry data else .tunnel data)
    (quiet : Quiet rest) (outputs : osdOutputs rest = bytewise.outputs decoder data) :
    Apart (bytewise.after decoder data) (trace ++ obs :: rest) := by
  have emits : osdOutputs (obs :: rest) = bytewise.outputs decoder data := by
    rw [is, ← outputs]
    split <;> rfl
  have streams (other : Port) :
      portStream other (obs :: rest) = if other = port then data else [] := by
    rw [← List.singleton_append, portStream_append, portStream_quiet quiet, List.append_nil, is]
    cases port <;> cases other <;> simp [portStream, Obs.payload?]
  have last : lastPort (trace ++ obs :: rest) =
      if data = [] then lastPort trace else some port := by
    rw [← List.singleton_append, ← List.append_assoc, lastPort_quiet quiet, is, lastPort,
      List.foldl_append]
    cases port <;> cases data <;> rfl
  by_cases empty : data = []
  · subst empty
    apply apart.frame
    · exact last
    · exact fun other => (streams other).trans (ite_self _)
    · exact emits
  · apply apart.push (turn empty)
    · rw [last, if_neg empty]
    · rw [streams, if_pos rfl]
    · intro other different
      rw [streams, if_neg different]
    · exact emits

/-- Every step that meets the condition keeps the ports apart. -/
theorem Apart.keeps {station : GroundStation} {trace : List Obs} (apart : Apart station.osd trace)
    (event : Event) (turn : TakesTurn station trace event) :
    Apart (machine.step station event).1.osd (trace ++ (machine.step station event).2) := by
  have drawn (outputs : List Output) : osdOutputs (outputs.map .osd) = outputs := by
    simp [osdOutputs, List.filterMap_map]
  cases event with
  | telemetry data nowMs taken =>
      simp only [machine, GroundStation.onTelemetryPayload]
      split
      · rw [List.append_nil]
        exact apart
      · rename_i free
        obtain ⟨-, -, -, both⟩ := telemetry_shares data
          (station.mavlink.feedDownlink data nowMs taken).2 (station.osd.push data).2
        exact apart.payload (turn (Bool.eq_false_iff.mpr free)) rfl (quiet_fed _ _) both
  | tunnel data =>
      have quiet : Quiet ((station.osd.push data).2.map .osd) := quiet_fed [] _
      exact apart.payload turn rfl quiet (drawn _)
  | router event =>
      simp only [machine, GroundStation.onRouterEvent]
      split
      · rw [List.append_nil]
        exact apart
      · obtain ⟨-, -, -, none⟩ := routed_silent (Router.machine.step station.mavlink event).2
        exact apart.frame (lastPort_quiet (quiet_routed _) trace)
          (portStream_quiet (quiet_routed _)) none

/-- **In a run where the ports take turns with the decoder idle, the messages dispatched are those
of the two streams, each in order.** -/
theorem portsApart_of_everyStep (events : List Event)
    (turns : machine.EveryStep TakesTurn {} events) :
    PortsApart (machine.outputs {} events) :=
  (Mealy.invariant_of_everyStep (fun station trace => Apart station.osd trace) apart_fresh
    (fun _ _ event apart turn => apart.keeps event turn) turns).messages

/-- A character in two telemetry payloads, and then one on the tunnel. -/
theorem portsApart_characters :
    PortsApart (machine.outputs {}
      [.telemetry ((wire [character 0x41]).take 6) 1000 [], .router (.start true),
        .telemetry ((wire [character 0x41]).drop 6) 1001 [], .tunnel (wire [character 0x42])]) :=
  portsApart_of_everyStep _ (by decide +kernel)

/-- A character on the tunnel arrives between the two halves of one on the telemetry port, and
neither is dispatched. -/
theorem not_portsApart_cutFrame :
    ¬ PortsApart (machine.outputs {}
      [.telemetry ((wire [character 0x41]).take 6) 1000 [], .tunnel (wire [character 0x42]),
        .telemetry ((wire [character 0x41]).drop 6) 1001 []]) := by
  intro apart
  have lengths := apart.length
  revert lengths
  decide +kernel

end Station

end MobileGs
