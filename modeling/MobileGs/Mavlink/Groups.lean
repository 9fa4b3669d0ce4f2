import MobileGs.Foundations.Parts
import MobileGs.Mavlink.Telemetry

/-!
# Groups of messages

The interpreted messages fall into groups, and each group has its fields of the state (`part`). A
message changes no field outside its group, and what it makes of the fields of its group depends on
these fields alone (`owns_part`). The two messages of the battery share their fields, and the
voltage may be left to the one before.

So the groups can arrive in any order against each other. What is displayed is the same behind every
reordering that keeps the order in each group (`consume_groups`).
-/

set_option autoImplicit false

namespace MobileGs

namespace Mavlink

/-- Messages that set the same fields. -/
inductive Group where
  | heartbeat
  | attitude
  | globalPosition
  | gpsRaw
  | vfrHud
  | battery
  deriving DecidableEq, Repr

def Report.group : Report → Group
  | heartbeat => .heartbeat
  | sysStatus => .battery
  | attitude => .attitude
  | globalPositionInt => .globalPosition
  | gpsRawInt => .gpsRaw
  | vfrHud => .vfrHud
  | batteryStatus => .battery

/-- The group of a message, by its id. -/
def MavlinkMessage.group (message : MavlinkMessage) : Option Group :=
  (Report.ofMsgid message.msgid).map Report.group

/-- The fields of a group, with the defaults for all others. -/
def Group.part : Group → TelemetryState → TelemetryState
  | heartbeat, state =>
      { armed := state.armed
        baseMode := state.baseMode
        customMode := state.customMode
        systemStatus := state.systemStatus
        mavType := state.mavType }
  | attitude, state =>
      { rollRad := state.rollRad
        pitchRad := state.pitchRad
        yawRad := state.yawRad }
  | globalPosition, state =>
      { latitudeE7 := state.latitudeE7
        longitudeE7 := state.longitudeE7
        altitudeMm := state.altitudeMm
        relativeAltitudeMm := state.relativeAltitudeMm
        headingDeg := state.headingDeg }
  | gpsRaw, state =>
      { satellites := state.satellites
        gpsFixType := state.gpsFixType }
  | vfrHud, state =>
      { groundSpeedMs := state.groundSpeedMs
        airSpeedMs := state.airSpeedMs
        climbMs := state.climbMs
        throttlePct := state.throttlePct }
  | battery, state =>
      { batteryVoltageV := state.batteryVoltageV
        batteryCurrentA := state.batteryCurrentA
        batteryRemainingPct := state.batteryRemainingPct }

/-- A state, put together from the fields of its groups. -/
def assemble (parts : Group → TelemetryState) (valid : Bool) (lastUpdateMs : UInt64) :
    TelemetryState where
  armed := (parts .heartbeat).armed
  baseMode := (parts .heartbeat).baseMode
  customMode := (parts .heartbeat).customMode
  systemStatus := (parts .heartbeat).systemStatus
  mavType := (parts .heartbeat).mavType
  rollRad := (parts .attitude).rollRad
  pitchRad := (parts .attitude).pitchRad
  yawRad := (parts .attitude).yawRad
  latitudeE7 := (parts .globalPosition).latitudeE7
  longitudeE7 := (parts .globalPosition).longitudeE7
  altitudeMm := (parts .globalPosition).altitudeMm
  relativeAltitudeMm := (parts .globalPosition).relativeAltitudeMm
  satellites := (parts .gpsRaw).satellites
  gpsFixType := (parts .gpsRaw).gpsFixType
  groundSpeedMs := (parts .vfrHud).groundSpeedMs
  airSpeedMs := (parts .vfrHud).airSpeedMs
  climbMs := (parts .vfrHud).climbMs
  headingDeg := (parts .globalPosition).headingDeg
  throttlePct := (parts .vfrHud).throttlePct
  batteryVoltageV := (parts .battery).batteryVoltageV
  batteryCurrentA := (parts .battery).batteryCurrentA
  batteryRemainingPct := (parts .battery).batteryRemainingPct
  lastUpdateMs := lastUpdateMs
  valid := valid

theorem assemble_parts (state : TelemetryState) :
    assemble (fun group => group.part state) state.valid state.lastUpdateMs = state := rfl

/-- **The groups have all the fields**, but for the two that say that there was a message. -/
theorem eq_of_parts {state state' : TelemetryState}
    (parts : ∀ group : Group, group.part state = group.part state')
    (valid : state.valid = state'.valid) (time : state.lastUpdateMs = state'.lastUpdateMs) :
    state = state' := by
  rw [← assemble_parts state, funext parts, valid, time, assemble_parts]

/-- A report leaves the fields of the other groups alone. -/
theorem part_decode_of_ne {report : Report} {group : Group} (other : report.group ≠ group)
    (payload : List Byte) (state : TelemetryState) :
    group.part (report.decode payload state) = group.part state := by
  cases report <;> cases group <;> first | rfl | exact absurd rfl other

/-- A report reads no field outside its group. -/
theorem part_decode (report : Report) (group : Group) (payload : List Byte)
    (state : TelemetryState) :
    group.part (report.decode payload state) =
      group.part (report.decode payload (group.part state)) := by
  cases report <;> cases group <;> rfl

theorem part_decode_congr {report : Report} {group : Group} {state state' : TelemetryState}
    (same : group.part state = group.part state') (payload : List Byte) :
    group.part (report.decode payload state) = group.part (report.decode payload state') := by
  rw [part_decode, same, ← part_decode]

theorem part_part (group : Group) (state : TelemetryState) :
    group.part (group.part state) = group.part state := by
  cases group <;> rfl

/-- There was a message at a time. -/
def TelemetryState.touch (state : TelemetryState) (nowMs : UInt64) : TelemetryState :=
  { state with valid := true, lastUpdateMs := nowMs }

theorem part_touch (group : Group) (state : TelemetryState) (nowMs : UInt64) :
    group.part (state.touch nowMs) = group.part state := by
  cases group <;> rfl

/-! ## One message -/

/-- A message without a payload and a checksum, which is ignored. -/
def MavlinkMessage.Truncated (message : MavlinkMessage) : Prop :=
  message.size < headerSize message.v2 + checksumSize

instance (message : MavlinkMessage) : Decidable message.Truncated :=
  inferInstanceAs (Decidable (_ < _))

/-- The message is none of those that are interpreted, or too short for its layout. -/
def MavlinkMessage.Uninterpreted (message : MavlinkMessage) : Prop :=
  ∀ report, Report.ofMsgid message.msgid = some report →
    message.size < headerSize message.v2 + checksumSize + report.requiredLength

/-- What a message does that is not ignored. -/
theorem consume_eq {message : MavlinkMessage} (whole : ¬ message.Truncated)
    (state : TelemetryState) (nowMs : UInt64) :
    consume state nowMs message =
      match Report.ofMsgid message.msgid with
      | none => state.touch nowMs
      | some report =>
          if message.size - headerSize message.v2 - checksumSize ≥ report.requiredLength then
            report.decode (message.data.drop (headerSize message.v2)) (state.touch nowMs)
          else state.touch nowMs :=
  if_neg whole

theorem consume_truncated {message : MavlinkMessage} (truncated : message.Truncated)
    (state : TelemetryState) (nowMs : UInt64) : consume state nowMs message = state :=
  if_pos truncated

/-- A message that is not interpreted says that there was one, and no more. -/
theorem consume_uninterpreted {message : MavlinkMessage}
    (uninterpreted : message.Uninterpreted) (state : TelemetryState) (nowMs : UInt64) :
    ∃ valid lastUpdateMs, consume state nowMs message = { state with valid, lastUpdateMs } := by
  by_cases truncated : message.Truncated
  · exact ⟨_, _, consume_truncated truncated state nowMs⟩
  · rw [consume_eq truncated]
    split
    · exact ⟨_, _, rfl⟩
    · rename_i report found
      have short := uninterpreted report found
      have whole := Nat.not_lt.mp truncated
      rw [if_neg (by omega)]
      exact ⟨_, _, rfl⟩

/-- A message changes the fields of its own group, and reads no others. -/
theorem part_consume (group : Group) (message : MavlinkMessage) (state : TelemetryState)
    (nowMs nowMs' : UInt64) :
    group.part (consume state nowMs message) =
      group.part (consume (group.part state) nowMs' message) := by
  by_cases truncated : message.Truncated
  · rw [consume_truncated truncated, consume_truncated truncated, part_part]
  · have same : group.part (state.touch nowMs) =
        group.part ((group.part state).touch nowMs') := by
      rw [part_touch, part_touch, part_part]
    rw [consume_eq truncated, consume_eq truncated]
    split
    · exact same
    · split
      · exact part_decode_congr same _
      · exact same

theorem part_consume_of_ne {group : Group} {message : MavlinkMessage}
    (other : message.group ≠ some group) (state : TelemetryState) (nowMs : UInt64) :
    group.part (consume state nowMs message) = group.part state := by
  by_cases truncated : message.Truncated
  · rw [consume_truncated truncated]
  · rw [consume_eq truncated]
    split
    · exact part_touch group state nowMs
    · rename_i report found
      have ne : report.group ≠ group := by
        rintro rfl
        exact other (by rw [MavlinkMessage.group, found, Option.map_some])
      split
      · rw [part_decode_of_ne ne, part_touch]
      · exact part_touch group state nowMs

/-! ## Any order -/

/-- Messages consumed one after another, each at a time of its own. -/
def consumeAll (state : TelemetryState) (arrivals : List (UInt64 × MavlinkMessage)) :
    TelemetryState :=
  arrivals.foldl (fun state arrival => consume state arrival.1 arrival.2) state

/-- What a message does to what is displayed. -/
def display (state : TelemetryState) (message : MavlinkMessage) : TelemetryState :=
  (consume state 0 message).displayed

theorem displayed_consume (state : TelemetryState) (nowMs : UInt64) (message : MavlinkMessage) :
    (consume state nowMs message).displayed = display state.displayed message := by
  rw [display]
  by_cases truncated : message.Truncated
  · rw [consume_truncated truncated, consume_truncated truncated]
    rfl
  · rw [consume_eq truncated, consume_eq truncated]
    split
    · rfl
    · split
      · rw [Report.displayed_decode, Report.displayed_decode]
        rfl
      · rfl

/-- The times of the messages are not displayed. -/
theorem displayed_consumeAll (state : TelemetryState)
    (arrivals : List (UInt64 × MavlinkMessage)) :
    (consumeAll state arrivals).displayed =
      (arrivals.map Prod.snd).foldl display state.displayed := by
  induction arrivals generalizing state with
  | nil => rfl
  | cons arrival rest ih =>
      have later := ih (consume state arrival.1 arrival.2)
      rw [displayed_consume] at later
      exact later

/-- **A group owns its fields** of what is displayed. -/
theorem owns_part (group : Group) :
    Owns display (fun message => message.group = some group) group.part where
  alone state state' message _ same := by
    have shown : ∀ state, group.part (display state message) =
        group.part (consume (group.part state) 0 message) := by
      intro state
      rw [← part_consume group message state 0 0]
      cases group <;> rfl
    rw [shown, shown, same]
  others state message other := by
    have consumed := part_consume_of_ne (of_decide_eq_false other) state 0
    rw [← consumed]
    cases group <;> rfl

theorem valid_consume (state : TelemetryState) (nowMs : UInt64) (message : MavlinkMessage) :
    (consume state nowMs message).valid = (state.valid || !decide message.Truncated) := by
  by_cases truncated : message.Truncated
  · rw [consume_truncated truncated, decide_eq_true truncated]
    exact (Bool.or_false _).symm
  · rw [consume_eq truncated, decide_eq_false truncated, Bool.not_false, Bool.or_true]
    split
    · rfl
    · rename_i report _
      split
      · cases report <;> rfl
      · rfl

/-- A state is valid behind any message that was not ignored. -/
theorem valid_display (state : TelemetryState) (messages : List MavlinkMessage) :
    (messages.foldl display state).valid =
      (state.valid || messages.any fun message => !decide message.Truncated) := by
  induction messages generalizing state with
  | nil => exact (Bool.or_false _).symm
  | cons message rest ih =>
      have first : (display state message).valid =
          (state.valid || !decide message.Truncated) := valid_consume state 0 message
      rw [List.foldl_cons, ih, first, Bool.or_assoc, List.any_cons]

theorem time_display (state : TelemetryState) (messages : List MavlinkMessage)
    (start : state.lastUpdateMs = 0) : (messages.foldl display state).lastUpdateMs = 0 := by
  cases messages using List.reverseRecOn with
  | nil => exact start
  | append_singleton messages message =>
      rw [List.foldl_concat]
      rfl

/-- Reordered messages are displayed the same. -/
theorem displayed_reordered (state : TelemetryState)
    {arrivals arrivals' : List (UInt64 × MavlinkMessage)}
    (reordering : Reordering MavlinkMessage.group (arrivals.map Prod.snd)
      (arrivals'.map Prod.snd)) :
    (consumeAll state arrivals).displayed = (consumeAll state arrivals').displayed := by
  rw [displayed_consumeAll, displayed_consumeAll]
  apply eq_of_parts
  · exact fun group => (owns_part group).foldl_congr _ (reordering.order group)
  · rw [valid_display, valid_display, reordering.perm.any_eq]
  · rw [time_display _ _ rfl, time_display _ _ rfl]

/-- **Groups do not meet.** A reordering that keeps the order in each group is displayed the same, a
message that is not interpreted says that there was one and no more, and no message changes a field
outside its group. -/
theorem consume_groups (state : TelemetryState) :
    (∀ arrivals arrivals' : List (UInt64 × MavlinkMessage),
      Reordering MavlinkMessage.group (arrivals.map Prod.snd) (arrivals'.map Prod.snd) →
        (consumeAll state arrivals).displayed = (consumeAll state arrivals').displayed) ∧
      (∀ (nowMs : UInt64) (message : MavlinkMessage), message.Uninterpreted →
        ∃ valid lastUpdateMs,
          consume state nowMs message = { state with valid, lastUpdateMs }) ∧
      ∀ (nowMs : UInt64) (message : MavlinkMessage) (group : Group),
        message.group ≠ some group →
          group.part (consume state nowMs message) = group.part state :=
  ⟨fun _ _ reordering => displayed_reordered state reordering,
    fun nowMs _ uninterpreted => consume_uninterpreted uninterpreted state nowMs,
    fun nowMs _ _ other => part_consume_of_ne other state nowMs⟩

/-- A v1 message with a payload of one byte repeated. -/
def repeated (report : Report) (length : ℕ) (byte : Byte) : MavlinkMessage where
  data := List.replicate 6 0 ++ List.replicate length byte ++ [0, 0]
  msgid := report.msgid
  systemId := 1
  componentId := 1
  v2 := false

/-- The position may come before the voltages or between them. -/
theorem consume_groups_battery :
    (consumeAll {} [(1, repeated .sysStatus 31 3), (2, repeated .batteryStatus 36 0xff),
        (3, repeated .globalPositionInt 28 7)]).displayed =
      (consumeAll {} [(4, repeated .sysStatus 31 3), (5, repeated .globalPositionInt 28 7),
        (6, repeated .batteryStatus 36 0xff)]).displayed :=
  (consume_groups {}).1 _ _
    { perm := (List.Perm.swap _ _ _).cons _
      order := by
        intro group
        cases group <;> rfl }

end Mavlink

end MobileGs
