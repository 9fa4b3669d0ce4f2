import MobileGs.Msp.Canvas

/-!
# What a dispatched message stands for

The decoder resynchronises on arbitrary bytes. Whatever it has read, the bytes since the
last `$` it took up are the beginning of a frame, and its fields are what those bytes say
(`Reading`). Each byte keeps this, with a new `$` or with nothing taken up when the byte does
not fit (`Reading.step`).

So a message is dispatched only at the last byte of a valid frame that begins behind every
earlier dispatch, and a body with a wrong checksum is counted and has no other effect
(`pushes_sound`).
-/

set_option autoImplicit false

namespace MobileGs

namespace Msp

open MspOsdDecoder

/-! ## The bytes taken up -/

/-- The bytes of a frame up to the checksum. -/
def MspFrame.body : MspFrame → List Byte
  | v1 frame => dollar :: letterM :: frame.direction.byte :: frame.covered
  | v2 frame => dollar :: letterX :: frame.direction.byte :: frame.covered

def MspFrame.checksum : MspFrame → Byte
  | v1 frame => frame.checksum
  | v2 frame => frame.checksum

theorem MspFrame.bytes_eq (frame : MspFrame) : frame.bytes = frame.body ++ [frame.checksum] := by
  cases frame <;> rfl

/-- Behind a header with the given letter the decoder has read some bytes and the payload, and
the checksum is over both. -/
structure Body (letter : Byte) (combine : Byte → Byte → Byte) (front : List Byte)
    (decoder : MspOsdDecoder) (stretch : List Byte) : Prop where
  bytes : ∃ direction : Direction,
    stretch = dollar :: letter :: direction.byte :: (front ++ decoder.payload)
  checksum : decoder.checksum = (front ++ decoder.payload).foldl combine 0

abbrev V1Body := Body letterM (· ^^^ ·)
abbrev V2Body := Body letterX crc8DvbS2

/-- The bytes since the `$` taken up last are the beginning of a frame that the decoder's fields
describe. -/
def Reading (decoder : MspOsdDecoder) (stretch : List Byte) : Prop :=
  match decoder.state with
  | .idle => stretch = []
  | .headerM => stretch = [dollar]
  | .headerArrow => stretch = [dollar, if decoder.v2 then letterX else letterM]
  | .v1Size => V1Body [] decoder stretch ∧ decoder.payload = []
  | .v1Command =>
      ∃ size, V1Body [size] decoder stretch ∧ decoder.payload = [] ∧
        decoder.expectedSize = size.toUInt16
  | .v1Payload =>
      ∃ size command, V1Body [size, command] decoder stretch ∧
        decoder.expectedSize = size.toUInt16 ∧ decoder.function = command.toUInt16 ∧
        decoder.payload.length < decoder.expectedSize.toNat
  | .v1Checksum =>
      ∃ size command, V1Body [size, command] decoder stretch ∧
        decoder.expectedSize = size.toUInt16 ∧ decoder.function = command.toUInt16 ∧
        decoder.payload.length = decoder.expectedSize.toNat
  | .v2Flags => V2Body [] decoder stretch ∧ decoder.payload = []
  | .v2FunctionLo => ∃ flags, V2Body [flags] decoder stretch ∧ decoder.payload = []
  | .v2FunctionHi =>
      ∃ flags low, V2Body [flags, low] decoder stretch ∧ decoder.payload = [] ∧
        decoder.function = low.toUInt16
  | .v2SizeLo =>
      ∃ flags low high, V2Body [flags, low, high] decoder stretch ∧ decoder.payload = [] ∧
        decoder.function = low.toUInt16 ||| (high.toUInt16 <<< 8)
  | .v2SizeHi =>
      ∃ flags low high sizeLow, V2Body [flags, low, high, sizeLow] decoder stretch ∧
        decoder.payload = [] ∧ decoder.function = low.toUInt16 ||| (high.toUInt16 <<< 8) ∧
        decoder.expectedSize = sizeLow.toUInt16
  | .v2Payload =>
      ∃ flags low high sizeLow sizeHigh,
        V2Body [flags, low, high, sizeLow, sizeHigh] decoder stretch ∧
        decoder.function = low.toUInt16 ||| (high.toUInt16 <<< 8) ∧
        decoder.expectedSize = sizeLow.toUInt16 ||| (sizeHigh.toUInt16 <<< 8) ∧
        decoder.expectedSize ≤ 1024 ∧ decoder.payload.length < decoder.expectedSize.toNat
  | .v2Checksum =>
      ∃ flags low high sizeLow sizeHigh,
        V2Body [flags, low, high, sizeLow, sizeHigh] decoder stretch ∧
        decoder.function = low.toUInt16 ||| (high.toUInt16 <<< 8) ∧
        decoder.expectedSize = sizeLow.toUInt16 ||| (sizeHigh.toUInt16 <<< 8) ∧
        decoder.expectedSize ≤ 1024 ∧ decoder.payload.length = decoder.expectedSize.toNat

/-! ## A body that has been read is that of a frame -/

/-- Two bytes as a word. -/
theorem word_toNat (low high : Byte) :
    (low.toUInt16 ||| (high.toUInt16 <<< 8)).toNat = low.toNat + 256 * high.toNat := by
  have lowBound := low.toNat_lt
  have highBound := high.toNat_lt
  have shifted : high.toNat <<< 8 % 2 ^ 16 = high.toNat <<< 8 := by
    rw [Nat.shiftLeft_eq]
    exact Nat.mod_eq_of_lt (by omega)
  simp only [UInt16.toNat_or, UInt8.toNat_toUInt16, UInt16.toNat_shiftLeft, UInt16.toNat_ofNat]
  rw [shifted, Nat.or_comm, ← Nat.shiftLeft_add_eq_or_of_lt lowBound, Nat.shiftLeft_eq]
  omega

theorem leBytes_word (low high : Byte) :
    leBytes 2 (low.toUInt16 ||| (high.toUInt16 <<< 8)).toNat = [low, high] := by
  have lowBound := low.toNat_lt
  have highBound := high.toNat_lt
  have first : UInt8.ofNat (low.toNat + 256 * high.toNat) = low := by
    apply UInt8.toNat_inj.mp
    rw [UInt8.toNat_ofNat']
    omega
  have second : UInt8.ofNat ((low.toNat + 256 * high.toNat) / 256) = high := by
    apply UInt8.toNat_inj.mp
    rw [UInt8.toNat_ofNat']
    omega
  rw [word_toNat, leBytes, leBytes, leBytes, first, second]

/-- The decoder waits for a checksum. -/
def MspOsdDecoder.AtChecksum (decoder : MspOsdDecoder) : Prop :=
  decoder.state = .v1Checksum ∨ decoder.state = .v2Checksum

instance (decoder : MspOsdDecoder) : Decidable decoder.AtChecksum :=
  inferInstanceAs (Decidable (_ ∨ _))

/-- **In front of a checksum the bytes taken up are the body of a frame**, and the decoder holds
its message and its checksum. -/
theorem Reading.body {decoder : MspOsdDecoder} {stretch : List Byte}
    (reading : Reading decoder stretch) (complete : decoder.AtChecksum) :
    ∃ frame : MspFrame, stretch = frame.body ∧ decoder.checksum = frame.checksum ∧
      (decoder.function, decoder.payload) = frame.message ∧
      decoder.payload.length = decoder.expectedSize.toNat := by
  rcases complete with state | state
  · simp only [Reading, state] at reading
    obtain ⟨size, command, ⟨⟨direction, rfl⟩, checksum⟩, expected, function, whole⟩ := reading
    have bound := size.toNat_lt
    rw [expected, UInt8.toNat_toUInt16] at whole
    have sizeByte : UInt8.ofNat decoder.payload.length = size := by
      rw [whole, UInt8.ofNat_toNat]
    refine ⟨.v1 ⟨direction, command, decoder.payload, by omega⟩, ?_, ?_, ?_, ?_⟩
    · simp only [MspFrame.body, V1Frame.covered, V1Frame.size, sizeByte, List.cons_append,
        List.nil_append]
    · simp only [MspFrame.checksum, V1Frame.checksum, V1Frame.covered, V1Frame.size, sizeByte]
      exact checksum
    · rw [function]
      rfl
    · rw [whole, expected, UInt8.toNat_toUInt16]
  · simp only [Reading, state] at reading
    obtain ⟨flags, low, high, sizeLow, sizeHigh, ⟨⟨direction, rfl⟩, checksum⟩, function, expected,
      accepted, whole⟩ := reading
    have bound : decoder.payload.length ≤ 1024 := by
      rw [whole]
      exact UInt16.le_iff_toNat_le.mp accepted
    have functionBytes := leBytes_word low high
    have sizeBytes := leBytes_word sizeLow sizeHigh
    rw [← function] at functionBytes
    rw [← expected, ← whole] at sizeBytes
    refine ⟨.v2 ⟨direction, flags, decoder.function, decoder.payload, bound⟩, ?_, ?_, rfl, whole⟩
    · simp only [MspFrame.body, V2Frame.covered, functionBytes, sizeBytes, List.cons_append,
        List.nil_append]
    · simp only [MspFrame.checksum, V2Frame.checksum, V2Frame.covered, functionBytes, sizeBytes,
        List.cons_append, List.nil_append]
      exact checksum

/-! ## One byte -/

/-- What only a complete body changes. -/
structure Quiet (decoder decoder' : MspOsdDecoder) (outputs : List Output) : Prop where
  silent : outputs = []
  frame : decoder'.frame = decoder.frame
  frames : decoder'.frames = decoder.frames
  messages : decoder'.messages = decoder.messages
  checksumErrors : decoder'.checksumErrors = decoder.checksumErrors

/-- A byte that completes no body has no effect outside the parser. -/
theorem handleByte_quiet {decoder : MspOsdDecoder} (incomplete : ¬ decoder.AtChecksum)
    (byte : Byte) : Quiet decoder (decoder.handleByte byte).1 (decoder.handleByte byte).2 := by
  unfold AtChecksum at incomplete
  cases state : decoder.state with
  | v1Checksum => exact absurd (.inl state) incomplete
  | v2Checksum => exact absurd (.inr state) incomplete
  | idle =>
      simp only [handleByte, state]
      split <;> exact ⟨rfl, rfl, rfl, rfl, rfl⟩
  | headerM =>
      simp only [handleByte, state]
      split
      · exact ⟨rfl, rfl, rfl, rfl, rfl⟩
      · split
        · exact ⟨rfl, rfl, rfl, rfl, rfl⟩
        · split <;> exact ⟨rfl, rfl, rfl, rfl, rfl⟩
  | headerArrow =>
      simp only [handleByte, state]
      split <;> exact ⟨rfl, rfl, rfl, rfl, rfl⟩
  | _ =>
      simp only [handleByte, state]
      exact ⟨rfl, rfl, rfl, rfl, rfl⟩

section Body

variable {letter : Byte} {combine : Byte → Byte → Byte} {front stretch : List Byte}
  {decoder decoder' : MspOsdDecoder} {byte : Byte}

/-- One more byte in front of the payload. -/
theorem Body.extend (body : Body letter combine front decoder stretch)
    (empty : decoder.payload = []) (empty' : decoder'.payload = [])
    (checksum : decoder'.checksum = combine decoder.checksum byte) :
    Body letter combine (front ++ [byte]) decoder' (stretch ++ [byte]) where
  bytes := by
    obtain ⟨direction, rfl⟩ := body.bytes
    exact ⟨direction, by rw [empty, empty']; simp⟩
  checksum := by
    rw [checksum, body.checksum, empty, empty', List.append_nil, List.append_nil,
      List.foldl_append]
    rfl

/-- Right behind the header the checksum is at its start. -/
theorem Body.checksum_eq_zero (body : Body letter combine [] decoder stretch)
    (empty : decoder.payload = []) : decoder.checksum = 0 := by
  rw [body.checksum, empty]
  rfl

/-- One more byte of the payload. -/
theorem Body.pay (body : Body letter combine front decoder stretch)
    (payload : decoder'.payload = decoder.payload ++ [byte])
    (checksum : decoder'.checksum = combine decoder.checksum byte) :
    Body letter combine front decoder' (stretch ++ [byte]) where
  bytes := by
    obtain ⟨direction, rfl⟩ := body.bytes
    exact ⟨direction, by rw [payload]; simp⟩
  checksum := by
    rw [checksum, body.checksum, payload, ← List.append_assoc, List.foldl_concat]

/-- The body does not depend on where the parser goes next. -/
theorem Body.congr (body : Body letter combine front decoder stretch)
    (payload : decoder'.payload = decoder.payload)
    (checksum : decoder'.checksum = decoder.checksum) :
    Body letter combine front decoder' stretch where
  bytes := by rw [payload]; exact body.bytes
  checksum := by rw [checksum, payload]; exact body.checksum

end Body

theorem exists_direction {byte : Byte} (is : isDirection byte = true) :
    ∃ direction : Direction, direction.byte = byte := by
  simp only [isDirection, Bool.or_eq_true, beq_iff_eq] at is
  rcases is with (rfl | rfl) | rfl
  · exact ⟨.toController, rfl⟩
  · exact ⟨.fromController, rfl⟩
  · exact ⟨.error, rfl⟩

theorem size_cases (size : UInt16) : size = 0 ∨ 0 < size := by
  rcases Nat.eq_zero_or_pos size.toNat with zero | positive
  · exact .inl (UInt16.toNat_inj.mp zero)
  · exact .inr (UInt16.lt_iff_toNat_lt.mpr positive)

/-! ### One state at a time

Behind the header a byte extends the bytes taken up, unless it makes the size too large. -/

section States

variable {decoder : MspOsdDecoder} {stretch : List Byte}

theorem reading_idle_step (state : decoder.state = .idle) (byte : Byte) :
    ∃ stretch', stretch' <:+ stretch ++ [byte] ∧
      Reading (decoder.handleByte byte).1 stretch' := by
  simp only [handleByte, state]
  split
  · rename_i isDollar
    exact ⟨[byte], List.suffix_append stretch [byte], by rw [isDollar]; rfl⟩
  · exact ⟨[], List.nil_suffix, by simp only [Reading, state]⟩

theorem Reading.headerM (reading : Reading decoder stretch) (state : decoder.state = .headerM)
    (byte : Byte) :
    ∃ stretch', stretch' <:+ stretch ++ [byte] ∧
      Reading (decoder.handleByte byte).1 stretch' := by
  simp only [Reading, state] at reading
  subst reading
  simp only [handleByte, state]
  split
  · rename_i isM
    exact ⟨_, List.suffix_rfl, by rw [isM]; rfl⟩
  · split
    · rename_i isX
      exact ⟨_, List.suffix_rfl, by rw [isX]; rfl⟩
    · split
      · rename_i isDollar
        exact ⟨[byte], List.suffix_append _ [byte], by simp only [Reading, state, isDollar]⟩
      · exact ⟨[], List.nil_suffix, rfl⟩

theorem Reading.headerArrow (reading : Reading decoder stretch)
    (state : decoder.state = .headerArrow) (byte : Byte) :
    ∃ stretch', stretch' <:+ stretch ++ [byte] ∧
      Reading (decoder.handleByte byte).1 stretch' := by
  simp only [Reading, state] at reading
  subst reading
  simp only [handleByte, state]
  by_cases is : isDirection byte = true
  · obtain ⟨direction, rfl⟩ := exists_direction is
    rw [if_pos is]
    refine ⟨_, List.suffix_rfl, ?_⟩
    cases version : decoder.v2 with
    | false => exact ⟨⟨⟨direction, rfl⟩, rfl⟩, rfl⟩
    | true => exact ⟨⟨⟨direction, rfl⟩, rfl⟩, rfl⟩
  · rw [if_neg is]
    exact ⟨[], List.nil_suffix, rfl⟩

theorem Reading.v1Size (reading : Reading decoder stretch) (state : decoder.state = .v1Size)
    (byte : Byte) : Reading (decoder.handleByte byte).1 (stretch ++ [byte]) := by
  simp only [Reading, state] at reading
  obtain ⟨body, empty⟩ := reading
  simp only [handleByte, state]
  refine ⟨byte, body.extend empty empty ?_, empty, rfl⟩
  rw [body.checksum_eq_zero empty, UInt8.zero_xor]

theorem Reading.v1Command (reading : Reading decoder stretch)
    (state : decoder.state = .v1Command) (byte : Byte) :
    Reading (decoder.handleByte byte).1 (stretch ++ [byte]) := by
  simp only [Reading, state] at reading
  obtain ⟨size, body, empty, expected⟩ := reading
  simp only [handleByte, state]
  rcases size_cases decoder.expectedSize with zero | positive
  · rw [if_neg (by rw [zero]; decide)]
    refine ⟨size, byte, body.extend empty empty rfl, expected, rfl, ?_⟩
    rw [empty, zero]
    rfl
  · rw [if_pos positive]
    refine ⟨size, byte, body.extend empty empty rfl, expected, rfl, ?_⟩
    rw [empty]
    exact UInt16.lt_iff_toNat_lt.mp positive

theorem Reading.v1Payload (reading : Reading decoder stretch)
    (state : decoder.state = .v1Payload) (byte : Byte) :
    Reading (decoder.handleByte byte).1 (stretch ++ [byte]) := by
  simp only [Reading, state] at reading
  obtain ⟨size, command, body, expected, function, partly⟩ := reading
  simp only [handleByte, state]
  have grown : (decoder.payload ++ [byte]).length = decoder.payload.length + 1 := by
    rw [List.length_append, List.length_singleton]
  by_cases whole : decoder.payload.length + 1 ≥ decoder.expectedSize.toNat
  · rw [if_pos whole]
    refine ⟨size, command, body.pay rfl rfl, expected, function, ?_⟩
    exact grown.trans (Nat.le_antisymm (Nat.succ_le_of_lt partly) whole)
  · rw [if_neg whole]
    refine ⟨size, command, body.pay rfl rfl, expected, function, ?_⟩
    exact grown.trans_lt (Nat.not_le.mp whole)

theorem Reading.v2Flags (reading : Reading decoder stretch) (state : decoder.state = .v2Flags)
    (byte : Byte) : Reading (decoder.handleByte byte).1 (stretch ++ [byte]) := by
  simp only [Reading, state] at reading
  obtain ⟨body, empty⟩ := reading
  simp only [handleByte, state]
  refine ⟨byte, body.extend empty empty ?_, empty⟩
  rw [body.checksum_eq_zero empty]

theorem Reading.v2FunctionLo (reading : Reading decoder stretch)
    (state : decoder.state = .v2FunctionLo) (byte : Byte) :
    Reading (decoder.handleByte byte).1 (stretch ++ [byte]) := by
  simp only [Reading, state] at reading
  obtain ⟨flags, body, empty⟩ := reading
  simp only [handleByte, state]
  exact ⟨flags, byte, body.extend empty empty rfl, empty, rfl⟩

theorem Reading.v2FunctionHi (reading : Reading decoder stretch)
    (state : decoder.state = .v2FunctionHi) (byte : Byte) :
    Reading (decoder.handleByte byte).1 (stretch ++ [byte]) := by
  simp only [Reading, state] at reading
  obtain ⟨flags, low, body, empty, function⟩ := reading
  simp only [handleByte, state]
  exact ⟨flags, low, byte, body.extend empty empty rfl, empty, by rw [function]⟩

theorem Reading.v2SizeLo (reading : Reading decoder stretch) (state : decoder.state = .v2SizeLo)
    (byte : Byte) : Reading (decoder.handleByte byte).1 (stretch ++ [byte]) := by
  simp only [Reading, state] at reading
  obtain ⟨flags, low, high, body, empty, function⟩ := reading
  simp only [handleByte, state]
  exact ⟨flags, low, high, byte, body.extend empty empty rfl, empty, function, rfl⟩

/-- A size above 1024 gives the frame up. -/
theorem Reading.v2SizeHi (reading : Reading decoder stretch) (state : decoder.state = .v2SizeHi)
    (byte : Byte) :
    ∃ stretch', stretch' <:+ stretch ++ [byte] ∧
      Reading (decoder.handleByte byte).1 stretch' := by
  simp only [Reading, state] at reading
  obtain ⟨flags, low, high, sizeLow, body, empty, function, expected⟩ := reading
  simp only [handleByte, state, expected]
  by_cases refused : sizeLow.toUInt16 ||| (byte.toUInt16 <<< 8) > 1024
  · rw [if_pos refused]
    exact ⟨[], List.nil_suffix, rfl⟩
  rw [if_neg refused]
  have accepted := UInt16.not_lt.mp refused
  refine ⟨_, List.suffix_rfl, ?_⟩
  rcases size_cases (sizeLow.toUInt16 ||| (byte.toUInt16 <<< 8)) with zero | positive
  · rw [if_neg (by rw [zero]; decide)]
    refine ⟨flags, low, high, sizeLow, byte, body.extend empty empty rfl, function, rfl,
      accepted, ?_⟩
    rw [empty, zero]
    rfl
  · rw [if_pos positive]
    refine ⟨flags, low, high, sizeLow, byte, body.extend empty empty rfl, function, rfl,
      accepted, ?_⟩
    rw [empty]
    exact UInt16.lt_iff_toNat_lt.mp positive

theorem Reading.v2Payload (reading : Reading decoder stretch)
    (state : decoder.state = .v2Payload) (byte : Byte) :
    Reading (decoder.handleByte byte).1 (stretch ++ [byte]) := by
  simp only [Reading, state] at reading
  obtain ⟨flags, low, high, sizeLow, sizeHigh, body, function, expected, accepted, partly⟩ :=
    reading
  simp only [handleByte, state]
  have grown : (decoder.payload ++ [byte]).length = decoder.payload.length + 1 := by
    rw [List.length_append, List.length_singleton]
  by_cases whole : decoder.payload.length + 1 ≥ decoder.expectedSize.toNat
  · rw [if_pos whole]
    refine ⟨flags, low, high, sizeLow, sizeHigh, body.pay rfl rfl, function, expected,
      accepted, ?_⟩
    exact grown.trans (Nat.le_antisymm (Nat.succ_le_of_lt partly) whole)
  · rw [if_neg whole]
    refine ⟨flags, low, high, sizeLow, sizeHigh, body.pay rfl rfl, function, expected,
      accepted, ?_⟩
    exact grown.trans_lt (Nat.not_le.mp whole)

end States

/-- **Every byte that completes no body keeps the reading**: it extends the bytes taken up, or
they are given up. -/
theorem Reading.step {decoder : MspOsdDecoder} {stretch : List Byte}
    (reading : Reading decoder stretch) (incomplete : ¬ decoder.AtChecksum) (byte : Byte) :
    ∃ stretch', stretch' <:+ stretch ++ [byte] ∧
      Reading (decoder.handleByte byte).1 stretch' := by
  have extended : stretch ++ [byte] <:+ stretch ++ [byte] := List.suffix_rfl
  unfold AtChecksum at incomplete
  cases state : decoder.state with
  | v1Checksum => exact absurd (.inl state) incomplete
  | v2Checksum => exact absurd (.inr state) incomplete
  | idle => exact reading_idle_step state byte
  | headerM => exact reading.headerM state byte
  | headerArrow => exact reading.headerArrow state byte
  | v1Size => exact ⟨_, extended, reading.v1Size state byte⟩
  | v1Command => exact ⟨_, extended, reading.v1Command state byte⟩
  | v1Payload => exact ⟨_, extended, reading.v1Payload state byte⟩
  | v2Flags => exact ⟨_, extended, reading.v2Flags state byte⟩
  | v2FunctionLo => exact ⟨_, extended, reading.v2FunctionLo state byte⟩
  | v2FunctionHi => exact ⟨_, extended, reading.v2FunctionHi state byte⟩
  | v2SizeLo => exact ⟨_, extended, reading.v2SizeLo state byte⟩
  | v2SizeHi => exact reading.v2SizeHi state byte
  | v2Payload => exact ⟨_, extended, reading.v2Payload state byte⟩

/-! ## The checksum -/

theorem handleByte_atChecksum {decoder : MspOsdDecoder} (complete : decoder.AtChecksum)
    (byte : Byte) : decoder.handleByte byte = decoder.checkFrame byte := by
  rcases complete with state | state <;> simp only [handleByte, state]

/-- A wrong checksum is counted, and nothing else happens. -/
theorem checkFrame_wrong {decoder : MspOsdDecoder} {byte : Byte}
    (wrong : decoder.checksum ≠ byte) :
    decoder.checkFrame byte =
      ({ decoder with checksumErrors := decoder.checksumErrors + 1, state := .idle }, []) := by
  rw [checkFrame, if_neg wrong]

theorem checkFrame_right {decoder : MspOsdDecoder} {byte : Byte}
    (right : decoder.checksum = byte) :
    decoder.checkFrame byte =
      ({ decoder.dispatchMessage.1 with state := .idle }, decoder.dispatchMessage.2) := by
  rw [checkFrame, if_pos right]

/-- A dispatch counts the message. Otherwise it touches the frame and the counter of frames
only. -/
theorem dispatchMessage_keeps (decoder : MspOsdDecoder) :
    ∃ frame frames,
      decoder.dispatchMessage.1 =
        { decoder with messages := decoder.messages + 1, frame := frame, frames := frames } := by
  unfold dispatchMessage
  dsimp only
  split
  · exact handleDisplayPort_keeps { decoder with messages := decoder.messages + 1 } decoder.payload
  · exact ⟨_, _, rfl⟩

/-- A checksum byte leaves the decoder idle, with the payload it had. -/
theorem checkFrame_keeps (decoder : MspOsdDecoder) (byte : Byte) :
    (decoder.checkFrame byte).1.state = .idle ∧
      (decoder.checkFrame byte).1.payload = decoder.payload := by
  by_cases right : decoder.checksum = byte
  · obtain ⟨frame, frames, keeps⟩ := dispatchMessage_keeps decoder
    rw [checkFrame_right right, keeps]
    exact ⟨rfl, rfl⟩
  · rw [checkFrame_wrong right]
    exact ⟨rfl, rfl⟩

/-! ## Whole streams -/

/-- The payload does not outgrow the sizes the decoder accepts. -/
theorem Reading.payload_le {decoder : MspOsdDecoder} {stretch : List Byte}
    (reading : Reading decoder stretch) (bounded : decoder.payload.length ≤ 1024) (byte : Byte) :
    (decoder.handleByte byte).1.payload.length ≤ 1024 := by
  have grows (partly : decoder.payload.length < 1024) :
      (decoder.payload ++ [byte]).length ≤ 1024 := by
    rw [List.length_append, List.length_singleton]
    exact partly
  cases state : decoder.state with
  | v1Payload =>
      simp only [Reading, state] at reading
      obtain ⟨size, command, _, expected, _, partly⟩ := reading
      have bound := size.toNat_lt
      rw [expected, UInt8.toNat_toUInt16] at partly
      simp only [handleByte, state]
      exact grows (by omega)
  | v2Payload =>
      simp only [Reading, state] at reading
      obtain ⟨_, _, _, _, _, _, _, _, accepted, partly⟩ := reading
      simp only [handleByte, state]
      exact grows (partly.trans_le (UInt16.le_iff_toNat_le.mp accepted))
  | v1Checksum =>
      rw [handleByte_atChecksum (.inl state), (checkFrame_keeps decoder byte).2]
      exact bounded
  | v2Checksum =>
      rw [handleByte_atChecksum (.inr state), (checkFrame_keeps decoder byte).2]
      exact bounded
  | headerArrow =>
      simp only [handleByte, state]
      split
      · exact Nat.zero_le _
      · exact bounded
  | idle =>
      simp only [handleByte, state]
      split <;> exact bounded
  | headerM =>
      simp only [handleByte, state]
      repeat' split
      all_goals exact bounded
  | _ =>
      simp only [handleByte, state]
      exact bounded

/-- A decoder as it is constructed. -/
abbrev fresh (callback : Bool) : MspOsdDecoder := { callback := callback }

/-- The messages dispatched over a stream. -/
def dispatched (callback : Bool) (stream : List Byte) : List Message :=
  messagesOf (bytewise.outputs (fresh callback) stream)

/-- What a fresh decoder has made of a stream: behind the bytes of everything dispatched come
those taken up since. -/
structure ReadSoFar (callback : Bool) (stream : List Byte) : Prop where
  taken : ∃ front stretch, stream = front ++ stretch ∧
    Reading (bytewise.after (fresh callback) stream) stretch ∧
    dispatched callback front = dispatched callback stream
  payload_le : (bytewise.after (fresh callback) stream).payload.length ≤ 1024

theorem dispatched_append (callback : Bool) (first later : List Byte) :
    dispatched callback (first ++ later) =
      dispatched callback first ++
        messagesOf (bytewise.outputs (bytewise.after (fresh callback) first) later) := by
  rw [dispatched, Mealy.outputs_append, messagesOf_append]
  rfl

theorem dispatched_concat (callback : Bool) (stream : List Byte) (byte : Byte) :
    dispatched callback (stream ++ [byte]) =
      dispatched callback stream ++
        messagesOf ((bytewise.after (fresh callback) stream).handleByte byte).2 := by
  rw [dispatched_append, Mealy.outputs_cons, Mealy.outputs_nil, List.append_nil]
  rfl

/-- Where nothing is dispatched over some bytes, nothing is over the first of them. -/
theorem dispatched_between {callback : Bool} {first between rest : List Byte}
    (same : dispatched callback first = dispatched callback (first ++ between ++ rest)) :
    dispatched callback (first ++ between) = dispatched callback (first ++ between ++ rest) := by
  rw [dispatched_append callback (first ++ between) rest] at same ⊢
  rw [dispatched_append callback first between, List.append_assoc] at same
  have nothing := List.append_eq_nil_iff.mp (List.self_eq_append_right.mp same)
  rw [nothing.2, List.append_nil]

theorem reading_idle {decoder : MspOsdDecoder} (idle : decoder.state = .idle) :
    Reading decoder [] := by
  simp only [Reading, idle]

theorem readSoFar (callback : Bool) (stream : List Byte) : ReadSoFar callback stream := by
  induction stream using List.reverseRecOn with
  | nil => exact ⟨⟨[], [], rfl, rfl, rfl⟩, Nat.zero_le _⟩
  | append_singleton stream byte ih =>
      obtain ⟨⟨front, stretch, split, reading, same⟩, bounded⟩ := ih
      have after := bytewise.after_concat (fresh callback) stream byte
      constructor
      · rw [after]
        by_cases complete : (bytewise.after (fresh callback) stream).AtChecksum
        · refine ⟨stream ++ [byte], [], (List.append_nil _).symm, ?_, rfl⟩
          have idle := (checkFrame_keeps (bytewise.after (fresh callback) stream) byte).1
          rw [← handleByte_atChecksum complete] at idle
          exact reading_idle idle
        · obtain ⟨stretch', ⟨gone, cut⟩, reading'⟩ := reading.step complete byte
          have quiet := handleByte_quiet complete byte
          have silent : dispatched callback (stream ++ [byte]) = dispatched callback stream := by
            rw [dispatched_concat, quiet.silent]
            exact List.append_nil _
          have whole : stream ++ [byte] = front ++ gone ++ stretch' := by
            rw [split, List.append_assoc, List.append_assoc, cut]
          refine ⟨front ++ gone, stretch', whole, reading', ?_⟩
          rw [whole] at silent ⊢
          exact dispatched_between (same.trans silent.symm)
      · rw [after]
        exact reading.payload_le bounded byte

/-- What one more byte does to a decoder behind a stream. A body is complete at its checksum only.
There the bytes taken up are those of a frame. The right checksum dispatches its message and a
wrong one is counted. -/
structure Sound (decoder : MspOsdDecoder) (callback : Bool) (stream : List Byte) (byte : Byte) :
    Prop where
  dispatches : ∀ message ∈ messagesOf (decoder.handleByte byte).2,
    ∃ front, ∃ frame : MspFrame,
      stream ++ [byte] = front ++ frame.bytes ∧
      dispatched callback front = dispatched callback stream ∧
      message = frame.message ∧
      (decoder.function, decoder.payload) = frame.message ∧
      decoder.payload.length = decoder.expectedSize.toNat
  completes : decoder.AtChecksum →
    ∃ front, ∃ frame : MspFrame,
      stream = front ++ frame.body ∧
      (byte = frame.checksum →
        messagesOf (decoder.handleByte byte).2 = [frame.message] ∧
        (decoder.handleByte byte).1.messages = decoder.messages + 1 ∧
        (decoder.handleByte byte).1.checksumErrors = decoder.checksumErrors) ∧
      (byte ≠ frame.checksum →
        decoder.handleByte byte =
          ({ decoder with checksumErrors := decoder.checksumErrors + 1, state := .idle }, []))
  quiet : ¬ decoder.AtChecksum → Quiet decoder (decoder.handleByte byte).1
    (decoder.handleByte byte).2

theorem handleByte_sound (callback : Bool) (stream : List Byte) (byte : Byte) :
    Sound (bytewise.after (fresh callback) stream) callback stream byte := by
  obtain ⟨⟨front, stretch, split, reading, same⟩, _⟩ := readSoFar callback stream
  refine ⟨?_, ?_, fun incomplete => handleByte_quiet incomplete byte⟩
  · intro message member
    by_cases complete : (bytewise.after (fresh callback) stream).AtChecksum
    · obtain ⟨frame, body, checksum, read, size⟩ := reading.body complete
      rw [handleByte_atChecksum complete] at member
      by_cases right : (bytewise.after (fresh callback) stream).checksum = byte
      · rw [checkFrame_right right, messagesOf_dispatchMessage, List.mem_singleton, read] at member
        refine ⟨front, frame, ?_, same, member, read, size⟩
        rw [split, body, List.append_assoc, frame.bytes_eq, ← checksum, right]
      · rw [checkFrame_wrong right] at member
        exact absurd member List.not_mem_nil
    · rw [(handleByte_quiet complete byte).silent] at member
      exact absurd member List.not_mem_nil
  · intro complete
    obtain ⟨frame, body, checksum, read, _⟩ := reading.body complete
    refine ⟨front, frame, by rw [split, body], ?_, ?_⟩
    · intro right
      obtain ⟨_, _, keeps⟩ := dispatchMessage_keeps (bytewise.after (fresh callback) stream)
      rw [handleByte_atChecksum complete, checkFrame_right (checksum.trans right.symm),
        messagesOf_dispatchMessage, read, keeps]
      exact ⟨rfl, rfl, rfl⟩
    · intro wrong
      rw [handleByte_atChecksum complete, checkFrame_wrong (checksum.trans_ne wrong.symm)]

/-- A byte dispatches one message at most. -/
theorem messagesOf_handleByte (decoder : MspOsdDecoder) (byte : Byte) :
    messagesOf (decoder.handleByte byte).2 = [] ∨
      messagesOf (decoder.handleByte byte).2 = [(decoder.function, decoder.payload)] := by
  by_cases complete : decoder.AtChecksum
  · rw [handleByte_atChecksum complete]
    by_cases right : decoder.checksum = byte
    · rw [checkFrame_right right]
      exact .inr (messagesOf_dispatchMessage decoder)
    · rw [checkFrame_wrong right]
      exact .inl rfl
  · rw [(handleByte_quiet complete byte).silent]
    exact .inl rfl

/-- A stream is the frames of its messages, each behind whatever stands in front of it. -/
theorem exists_frames (callback : Bool) (stream : List Byte) :
    ∃ items : List (List Byte × MspFrame), ∃ rest,
      stream = (items.flatMap fun item => item.1 ++ item.2.bytes) ++ rest ∧
      dispatched callback stream = items.map fun item => item.2.message := by
  induction total : stream.length using Nat.strong_induction_on generalizing stream with
  | _ total' ih =>
      rcases List.eq_nil_or_concat stream with rfl | ⟨earlier, byte, rfl⟩
      · exact ⟨[], [], rfl, rfl⟩
      rw [List.concat_eq_append] at total ⊢
      have one_more : earlier.length + 1 = total' := by
        rw [← total, List.length_append, List.length_singleton]
      have sound := handleByte_sound callback earlier byte
      rcases messagesOf_handleByte (bytewise.after (fresh callback) earlier) byte with
        silent | message
      · obtain ⟨items, rest, whole, messages⟩ := ih earlier.length (by omega) earlier rfl
        refine ⟨items, rest ++ [byte], by rw [whole, List.append_assoc], ?_⟩
        rw [dispatched_concat, silent, ← messages, List.append_nil]
      · -- The earlier messages are those dispatched in front of this frame.
        obtain ⟨front, frame, whole, same, read, _⟩ :=
          sound.dispatches _ (by rw [message]; exact List.mem_singleton_self _)
        have longer : front.length < total' := by
          have lengths := congrArg List.length whole
          rw [frame.bytes_eq] at lengths
          simp only [List.length_append, List.length_singleton] at lengths
          omega
        obtain ⟨items, rest, frontWhole, messages⟩ := ih front.length longer front rfl
        refine ⟨items ++ [(rest, frame)], [], ?_, ?_⟩
        · rw [whole, frontWhole, List.flatMap_append]
          simp only [List.flatMap_cons, List.flatMap_nil, List.append_nil, List.append_assoc]
        · rw [dispatched_concat, message, ← same, messages, List.map_append, read]
          rfl

/-- **Whatever is pushed into a fresh decoder, in whatever chunks**: the messages dispatched are
those of frames that stand in the stream one behind the other. Each is dispatched at the last byte
of its frame, a wrong checksum is counted and changes nothing else, and the payload never exceeds
1024 bytes. -/
theorem pushes_sound (callback : Bool) (chunks : List (List Byte)) :
    (∃ items : List (List Byte × MspFrame), ∃ rest,
      chunks.flatten = (items.flatMap fun item => item.1 ++ item.2.bytes) ++ rest ∧
      messagesOf (pushes.outputs (fresh callback) chunks) =
        items.map fun item => item.2.message) ∧
      ∀ stream byte,
        Sound (bytewise.after (fresh callback) stream) callback stream byte ∧
        (bytewise.after (fresh callback) stream).payload.length ≤ 1024 := by
  constructor
  · have blocks : pushes.outputs (fresh callback) chunks =
        bytewise.outputs (fresh callback) chunks.flatten :=
      congrArg Prod.snd (bytewise.run_blocks (fresh callback) chunks)
    rw [blocks]
    exact exists_frames callback chunks.flatten
  · intro stream byte
    exact ⟨handleByte_sound callback stream byte, (readSoFar callback stream).payload_le⟩

end Msp

end MobileGs
