import MobileGs.Mavlink.Frame
import MobileGs.Msp.Canvas
import MobileGs.Station.Ports

/-!
# Two protocols on one port

Both parsers of the telemetry port are fed everything, on the ground that they
resynchronise. Neither knows the other protocol. A magic byte inside an MSP frame makes the
MAVLink framer wait for a frame that is not there, and the frames that follow are lost
(`not_parted_glyph`). A `$M>` inside a MAVLink frame does the same to the MSP decoder.

The streams come apart when no MSP frame has a magic byte, no MAVLink frame has a whole MSP
header in it, and none that ends in `$M` or `$X` stands in front of an MSP frame
(`Undisturbed`, `parted_of_undisturbed`). A header in progress is what carries over from a
frame to the next, and `headerScan` follows it.
-/

set_option autoImplicit false

namespace MobileGs

namespace Station

open Mavlink Msp

/-- A frame of either protocol. -/
inductive Item where
  | mavlink (frame : MavlinkFrame)
  | msp (frame : MspFrame)

namespace Item

def bytes : Item → List Byte
  | mavlink frame => frame.bytes
  | msp frame => frame.bytes

def mavlinkMessage? : Item → Option MavlinkMessage
  | mavlink frame => some frame.message
  | msp _ => none

def mspMessage? : Item → Option Message
  | mavlink _ => none
  | msp frame => some frame.message

end Item

/-- The bytes of a payload made of whole frames. -/
def wire (items : List Item) : List Byte := items.flatMap Item.bytes

theorem wire_cons (item : Item) (rest : List Item) :
    wire (item :: rest) = item.bytes ++ wire rest := List.flatMap_cons

/-- The framer emitted the MAVLink frames and the decoder dispatched the MSP messages, each
in order and nothing else. -/
def Parted (trace : List Obs) (items : List Item) : Prop :=
  downlinked trace = items.filterMap Item.mavlinkMessage? ∧
    messagesOf (osdOutputs trace) = items.filterMap Item.mspMessage?

/-! ## MSP headers inside other bytes -/

/-- How much of an MSP header stands at the end of a stretch of bytes. -/
inductive Header where
  | none
  | dollar
  | version
  deriving DecidableEq, Repr

/-- One more byte, unless it completes a header. -/
def headerStep : Header → Byte → Option Header
  | .none, byte => some (if byte = dollar then .dollar else .none)
  | .dollar, byte =>
      some (if byte = letterM ∨ byte = letterX then .version
        else if byte = dollar then .dollar else .none)
  | .version, byte => if isDirection byte then none else some .none

/-- The header at the end of a stretch, unless one is completed inside it. -/
def headerScan : Header → List Byte → Option Header
  | header, [] => some header
  | header, byte :: rest => (headerStep header byte).bind fun next => headerScan next rest

/-- An MSP frame comes next. -/
def mspNext : List Item → Bool
  | .msp _ :: _ => true
  | _ => false

/-- A MAVLink frame that the decoder leaves without a header it could follow, in front of
the items that come next. -/
def QuietBefore (frame : MavlinkFrame) (rest : List Item) : Prop :=
  ∃ header ∈ headerScan .none frame.bytes, header = .version → mspNext rest = false

instance (frame : MavlinkFrame) (rest : List Item) : Decidable (QuietBefore frame rest) :=
  inferInstanceAs (Decidable (∃ header ∈ headerScan .none frame.bytes, _))

/-- Neither protocol shows in the frames of the other. -/
def Undisturbed : List Item → Prop
  | [] => True
  | .mavlink frame :: rest => QuietBefore frame rest ∧ Undisturbed rest
  | .msp frame :: rest => (∀ byte ∈ frame.bytes, isMagic byte = false) ∧ Undisturbed rest

instance decidableUndisturbed : ∀ items, Decidable (Undisturbed items)
  | [] => inferInstanceAs (Decidable True)
  | .mavlink _ :: rest =>
      have := decidableUndisturbed rest
      inferInstanceAs (Decidable (_ ∧ Undisturbed rest))
  | .msp _ :: rest =>
      have := decidableUndisturbed rest
      inferInstanceAs (Decidable (_ ∧ Undisturbed rest))

/-- The decoder's state while it looks for a header. -/
def Header.state : Header → State
  | .none => .idle
  | .dollar => .headerM
  | .version => .headerArrow

open MspOsdDecoder

/-- Until a header is complete the decoder does nothing but follow it. -/
theorem handleByte_header {decoder : MspOsdDecoder} {header next : Header} {byte : Byte}
    (following : decoder.state = header.state) (stepped : headerStep header byte = some next) :
    ∃ v2, bytewise.step decoder byte =
      ({ decoder with v2 := v2, state := next.state }, []) := by
  cases header with
  | none =>
      refine ⟨decoder.v2, ?_⟩
      have idle : decoder.state = .idle := following
      obtain rfl := Option.some.inj stepped
      simp only [bytewise, handleByte, idle]
      split
      · rfl
      · simp only [Header.state, ← idle]
  | dollar =>
      have turn : decoder.state = .headerM := following
      obtain rfl := Option.some.inj stepped
      simp only [bytewise, handleByte, turn]
      by_cases isM : byte = letterM
      · exact ⟨false, by rw [if_pos isM, if_pos (.inl isM)]; rfl⟩
      · by_cases isX : byte = letterX
        · exact ⟨true, by rw [if_neg isM, if_pos isX, if_pos (.inr isX)]; rfl⟩
        · refine ⟨decoder.v2, ?_⟩
          rw [if_neg isM, if_neg isX, if_neg (not_or.mpr ⟨isM, isX⟩)]
          split
          · simp only [Header.state, ← turn]
          · rfl
  | version =>
      refine ⟨decoder.v2, ?_⟩
      have turn : decoder.state = .headerArrow := following
      simp only [headerStep] at stepped
      split at stepped
      · cases stepped
      · rename_i other
        obtain rfl := Option.some.inj stepped
        simp only [bytewise, handleByte, turn, if_neg other]
        rfl

theorem run_scan {decoder : MspOsdDecoder} {header final : Header} {bytes : List Byte}
    (following : decoder.state = header.state) (scanned : headerScan header bytes = some final) :
    ∃ v2, bytewise.run decoder bytes =
      ({ decoder with v2 := v2, state := final.state }, []) := by
  induction bytes generalizing decoder header with
  | nil =>
      obtain rfl := Option.some.inj scanned
      exact ⟨decoder.v2, by rw [← following]; rfl⟩
  | cons byte rest ih =>
      obtain ⟨next, stepped, scanned⟩ := Option.bind_eq_some_iff.mp scanned
      obtain ⟨v2, step⟩ := handleByte_header following stepped
      rw [bytewise.run_cons_silent step]
      exact ih rfl scanned

/-- The first byte of a MAVLink frame ends a header in progress. -/
theorem headerScan_bytes (header : Header) (frame : MavlinkFrame) :
    headerScan header frame.bytes = headerScan .none frame.bytes := by
  obtain ⟨tail, shape⟩ := frame.bytes_eq_cons
  rw [shape]
  cases header <;> cases frame.isV2 <;> rfl

/-- An MSP frame is dispatched behind `$` as from idle. -/
theorem run_bytes_header {decoder : MspOsdDecoder} {header : Header}
    (following : decoder.state = header.state) (pending : header ≠ .version)
    (frame : MspFrame) :
    bytewise.run decoder frame.bytes =
      bytewise.run { decoder with state := .idle } frame.bytes := by
  obtain ⟨tail, shape⟩ : ∃ tail, frame.bytes = dollar :: tail := by
    cases frame <;> exact ⟨_, rfl⟩
  have first : bytewise.step decoder dollar =
      bytewise.step { decoder with state := .idle } dollar := by
    cases header with
    | none =>
        have idle : decoder.state = .idle := following
        rw [← idle]
    | dollar =>
        have turn : decoder.state = .headerM := following
        have stays : bytewise.step decoder dollar = (decoder, []) := by
          simp only [bytewise, handleByte, turn]
          rfl
        have starts : bytewise.step { decoder with state := .idle } dollar =
            ({ decoder with state := .headerM }, []) := rfl
        rw [stays, starts, ← turn]
    | version => exact absurd rfl pending
  rw [shape, bytewise.run_cons, bytewise.run_cons, first]

/-- **The decoder dispatches the MSP messages of an undisturbed stream and nothing else.** -/
theorem run_wire {decoder : MspOsdDecoder} {header : Header} {items : List Item}
    (following : decoder.state = header.state)
    (before : header = .version → mspNext items = false) (undisturbed : Undisturbed items) :
    messagesOf (bytewise.run decoder (wire items)).2 = items.filterMap Item.mspMessage? := by
  induction items generalizing decoder header with
  | nil => rfl
  | cons item rest ih =>
      rw [wire_cons, bytewise.run_append, messagesOf_append]
      cases item with
      | mavlink frame =>
          obtain ⟨quiet, others⟩ := undisturbed
          obtain ⟨final, scanned, quiet⟩ := quiet
          rw [← headerScan_bytes header] at scanned
          obtain ⟨v2, follows⟩ := run_scan following scanned
          simp only [Item.bytes, follows]
          exact ih rfl quiet others
      | msp frame =>
          have pending : header ≠ .version := by
            intro version
            have next := before version
            cases next
          obtain ⟨-, others⟩ := undisturbed
          have dispatched := (run_bytes_header following pending frame).trans
            (run_bytes rfl frame)
          have message : ((frame.read { decoder with state := .idle }).function,
              (frame.read { decoder with state := .idle }).payload) = frame.message := by
            cases frame <;> rfl
          have idle : (bytewise.run decoder frame.bytes).1.state = Header.none.state := by
            rw [dispatched]
            rfl
          have later := ih idle (fun version => by cases version) others
          rw [Item.bytes, later, dispatched, messagesOf_dispatchMessage, message]
          rfl

/-- **The framer emits the MAVLink frames of an undisturbed stream and nothing else.** -/
theorem messagesIn_wire {items : List Item} (undisturbed : Undisturbed items) :
    messagesIn (wire items) = items.filterMap Item.mavlinkMessage? := by
  induction items with
  | nil => rfl
  | cons item rest ih =>
      rw [wire_cons]
      cases item with
      | mavlink frame =>
          rw [Item.bytes, frame.messagesIn_bytes_append, ih undisturbed.2]
          rfl
      | msp frame =>
          rw [Item.bytes, messagesIn_skip undisturbed.1, ih undisturbed.2]
          rfl

/-! ## Runs -/

theorem step_payloads (station : GroundStation) {event : Event}
    (other : ∀ data, event ≠ .tunnel data) :
    osdPayloads (machine.step station event).2 =
      telemetryPayloads (machine.step station event).2 := by
  cases event with
  | telemetry data nowMs taken =>
      simp only [machine, GroundStation.onTelemetryPayload]
      split
      · rfl
      · obtain ⟨telemetry, both, -, -⟩ := telemetry_shares data
          (station.mavlink.feedDownlink data nowMs taken).2 (station.osd.push data).2
        exact both.trans telemetry.symm
  | tunnel data => exact absurd rfl (other data)
  | router event =>
      simp only [machine, GroundStation.onRouterEvent]
      split
      · rfl
      · obtain ⟨telemetry, both, -, -⟩ :=
          routed_silent (Router.machine.step station.mavlink event).2
        rw [telemetry, both]

/-- Without tunnel payloads the decoder sees the telemetry stream. -/
theorem osdPayloads_eq {events : List Event} (noTunnel : ∀ data, .tunnel data ∉ events)
    (station : GroundStation) :
    osdPayloads (machine.outputs station events) =
      telemetryPayloads (machine.outputs station events) := by
  induction events generalizing station with
  | nil => rfl
  | cons event rest ih =>
      have other : ∀ data, event ≠ .tunnel data := by
        rintro data rfl
        exact noTunnel data List.mem_cons_self
      rw [Mealy.outputs_cons, osdPayloads_append, telemetryPayloads_append,
        step_payloads station other,
        ih (fun data member => noTunnel data (List.mem_cons_of_mem event member))]

theorem wire_flatten (payloads : List (List Item)) :
    (payloads.map wire).flatten = wire payloads.flatten := by
  induction payloads with
  | nil => rfl
  | cons items rest ih =>
      rw [List.map_cons, List.flatten_cons, List.flatten_cons, ih, wire, wire, wire,
        List.flatMap_append]

/-- **Payloads made of whole frames in which neither protocol shows in the other come
apart**, whatever the router does in between. -/
theorem parted_of_undisturbed (events : List Event) (noTunnel : ∀ data, .tunnel data ∉ events)
    (payloads : List (List Item))
    (fed : telemetryPayloads (machine.outputs {} events) = payloads.map wire)
    (undisturbed : Undisturbed payloads.flatten) :
    Parted (machine.outputs {} events) payloads.flatten := by
  have parsed := parsed_run events
  constructor
  · rw [parsed.downlink, fed, wire_flatten, messagesIn_wire undisturbed]
  · rw [parsed.outputs, osdPayloads_eq noTunnel, fed, wire_flatten]
    have idle : ({ callback := true } : MspOsdDecoder).state = Header.none.state := rfl
    exact run_wire idle (fun version => by cases version) undisturbed

/-- A heartbeat without a payload. -/
def heartbeat : Item :=
  .mavlink (.v1
    { sequence := 0, systemId := 1, componentId := 1, payload := [], payload_le := by decide,
      checksumLow := 7, checksumHigh := 8, msgid := 0 })

/-- WRITE_STRING of one character. -/
def character (glyph : Byte) : Item :=
  .msp (.v1
    { direction := .fromController, command := 182, payload := [3, 0, 0, 0, glyph],
      payload_le := by show 5 ≤ 255; decide })

/-- A character and a heartbeat in one payload, and a heartbeat in the next. -/
theorem parted_character :
    Parted
      (machine.outputs {}
        [.telemetry (wire [character 0x41, heartbeat]) 1000 [],
          .router (.start true), .telemetry (wire [heartbeat]) 1001 []])
      [character 0x41, heartbeat, heartbeat] :=
  parted_of_undisturbed _ (by simp) [[character 0x41, heartbeat], [heartbeat]] rfl
    (by decide +kernel)

/-- The character 0xFE is taken for the start of a MAVLink frame, and the heartbeat behind it
for the frame's body. -/
theorem not_parted_glyph :
    ¬ Parted (machine.outputs {} [.telemetry (wire [character 0xfe, heartbeat]) 1000 []])
      [character 0xfe, heartbeat] := by
  rintro ⟨downlink, -⟩
  revert downlink
  decide

end Station

end MobileGs
