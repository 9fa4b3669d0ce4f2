import MobileGs.Foundations.Mealy
import MobileGs.Rtp.Header

/-!
# The RTP depacketiser

`RtpDepacketizer` turns RTP packets into NAL units behind a start code. `HandleH264` and
`HandleH265` do the same with other numbers, which a `PayloadFormat` collects: a packet
holds one NAL unit, an aggregate of several, or a fragment of one.

`Push` parses the packet, drops an unfinished NAL unit if the sequence number is not the
expected one, and hands the payload to the handler of the codec. A step emits the packet it
heard, with its codec, and the NAL units it gives to the callback.
-/

set_option autoImplicit false

namespace MobileGs

namespace Rtp

/-- `VideoCodec`. -/
inductive VideoCodec where
  | unknown
  | h264
  | h265
  deriving DecidableEq, Repr

/-- `NalUnit`, with the bytes it points to. -/
structure NalUnit where
  data : List Byte
  rtpTimestamp : UInt32
  marker : Bool
  deriving DecidableEq, Repr

def startCode : List Byte := [0x00, 0x00, 0x00, 0x01]

/-! ## The two payload formats -/

/-- What the two handlers do differently. `retype` puts another type into the first byte of
a NAL header. -/
structure PayloadFormat where
  headerSize : ℕ
  nalType : Byte → Byte
  isSingle : Byte → Bool
  aggregation : Byte
  fragmentation : Byte
  fragmentType : Byte → Byte
  retype : Byte → Byte → Byte

/-- The numbers in `HandleH264`. -/
def h264Format : PayloadFormat where
  headerSize := 1
  nalType first := first &&& 0x1f
  isSingle nalType := nalType ≥ 1 ∧ nalType ≤ 23
  aggregation := 24
  fragmentation := 28
  fragmentType fuHeader := fuHeader &&& 0x1f
  retype first realType := (first &&& 0xe0) ||| realType

/-- The numbers in `HandleH265`. -/
def h265Format : PayloadFormat where
  headerSize := 2
  nalType first := (first >>> 1) &&& 0x3f
  isSingle nalType := nalType ≤ 47
  aggregation := 48
  fragmentation := 49
  fragmentType fuHeader := fuHeader &&& 0x3f
  retype first realType := (first &&& (0x81 : Byte)) ||| (realType <<< 1)

/-- `Push` takes every known codec but H.264 for H.265. -/
def VideoCodec.format : VideoCodec → PayloadFormat
  | .h264 => h264Format
  | _ => h265Format

/-- The loop over an aggregate, on the bytes from `offset` on: the NAL units in front of the
first bad size, and whether there was none. Every turn takes at least three bytes. -/
def unpackLoop : ℕ → List Byte → List (List Byte) × Bool
  | fuel + 1, high :: low :: rest =>
      let nalSize := high.toNat <<< 8 ||| low.toNat
      if nalSize = 0 ∨ nalSize > rest.length then ([], false)
      else
        let others := unpackLoop fuel (rest.drop nalSize)
        (rest.take nalSize :: others.1, others.2)
  | _, _ => ([], true)

def unpack (aggregate : List Byte) : List (List Byte) × Bool :=
  unpackLoop aggregate.length aggregate

/-- What is read from a fragment: the bits of its FU header, the NAL header rebuilt from it,
and the piece of the NAL unit behind it. -/
structure FragmentUnit where
  start : Bool
  finish : Bool
  header : List Byte
  piece : List Byte
  deriving DecidableEq, Repr

def PayloadFormat.fragmentUnit (format : PayloadFormat) (payload : List Byte) : FragmentUnit :=
  let fuHeader := payload.getD format.headerSize 0
  { start := fuHeader &&& 0x80 != 0
    finish := fuHeader &&& 0x40 != 0
    header :=
      format.retype (payload.getD 0 0) (format.fragmentType fuHeader) ::
        (payload.take format.headerSize).drop 1
    piece := payload.drop (format.headerSize + 1) }

/-- The fragment a payload holds, if its handler reads one from it. -/
def PayloadFormat.fragment? (format : PayloadFormat) (payload : List Byte) :
    Option FragmentUnit :=
  if payload.length < format.headerSize + 1 then none
  else if format.nalType (payload.getD 0 0) = format.fragmentation then
    some (format.fragmentUnit payload)
  else none

/-- `DetectCodec`. -/
def detectCodec (rtpPacket : List Byte) : VideoCodec :=
  match parseRtp rtpPacket with
  | none => .unknown
  | some header =>
      if payloadSize rtpPacket header.payloadOffset < 2 then .unknown
      else
        let first := (payload rtpPacket header).getD 0 0
        let h265Type := (first >>> 1) &&& 0x3f
        let h265Tid := (payload rtpPacket header).getD 1 0 &&& 0x07
        let h264Type := first &&& 0x1f
        if first &&& 0x80 = 0 ∧ h265Tid ≠ 0 ∧
            (h265Type ≤ 40 ∨ h265Type = 48 ∨ h265Type = 49) then .h265
        else if first &&& 0x80 = 0 ∧ h264Type ≠ 0 ∧
            (h264Type ≤ 23 ∨ h264Type = 24 ∨ h264Type = 28) then .h264
        else .unknown

/-! ## The depacketiser -/

/-- `RtpDepacketizer`. `callback` says whether `callback_` is set. -/
structure RtpDepacketizer where
  codec : VideoCodec := .unknown
  callback : Bool := false
  fragment : List Byte := []
  inFragment : Bool := false
  expectedSeq : UInt16 := 0
  packets : ℕ := 0
  nals : ℕ := 0
  dropped : ℕ := 0
  brokenFragments : ℕ := 0
  deriving DecidableEq, Repr

/-- A parsed packet with a payload, and the codec it is handled as. -/
structure Heard where
  sequence : UInt16
  timestamp : UInt32
  marker : Bool
  codec : VideoCodec
  payload : List Byte
  deriving DecidableEq, Repr

/-- What a step does beyond the state: a packet is heard, or a NAL unit is given to the
callback, from the fragment path or from another. -/
inductive Output where
  | heard (packet : Heard)
  | nal (fragmented : Bool) (unit : NalUnit)
  deriving DecidableEq, Repr

/-- What a call leaves, returns and emits. -/
structure Outcome where
  depacketizer : RtpDepacketizer
  accepted : Bool
  outputs : List Output

namespace RtpDepacketizer

/-- `ResetFragment`. -/
def resetFragment (depacketizer : RtpDepacketizer) : RtpDepacketizer :=
  { depacketizer with fragment := [], inFragment := false }

/-- A packet that is counted as dropped. -/
def drop (depacketizer : RtpDepacketizer) : RtpDepacketizer :=
  { depacketizer with dropped := depacketizer.dropped + 1 }

/-- A fragment that is counted as broken. -/
def breakFragment (depacketizer : RtpDepacketizer) : RtpDepacketizer :=
  { depacketizer with brokenFragments := depacketizer.brokenFragments + 1 }

/-- `EmitNal`. -/
def emitNal (depacketizer : RtpDepacketizer) (fragmented : Bool) (payload : List Byte)
    (timestamp : UInt32) (marker : Bool) : RtpDepacketizer × List Output :=
  if payload.length = 0 ∨ depacketizer.callback = false then (depacketizer, [])
  else
    ({ depacketizer with nals := depacketizer.nals + 1 },
      [.nal fragmented ⟨startCode ++ payload, timestamp, marker⟩])

/-- The NAL units of an aggregate, one after the other. -/
def emitNals (timestamp : UInt32) (marker : Bool) :
    RtpDepacketizer → List (List Byte) → RtpDepacketizer × List Output
  | depacketizer, [] => (depacketizer, [])
  | depacketizer, nal :: rest =>
      let first := depacketizer.emitNal false nal timestamp marker
      let others := emitNals timestamp marker first.1 rest
      (others.1, first.2 ++ others.2)

/-- A fragment is appended to what was collected, or starts over. -/
def extend (depacketizer : RtpDepacketizer) (unit : FragmentUnit) : RtpDepacketizer :=
  { depacketizer with
    fragment := (if unit.start then unit.header else depacketizer.fragment) ++ unit.piece
    inFragment := true }

/-- The branch of the handlers for a fragment, once it is read. -/
def addFragment (depacketizer : RtpDepacketizer) (unit : FragmentUnit) (timestamp : UInt32)
    (marker : Bool) : Outcome :=
  if unit.start = false ∧ depacketizer.inFragment = false then
    ⟨depacketizer.breakFragment, false, []⟩
  else
    let extended := depacketizer.extend unit
    if unit.finish then
      let emitted := extended.emitNal true extended.fragment timestamp marker
      ⟨emitted.1.resetFragment, true, emitted.2⟩
    else ⟨extended, true, []⟩

/-- The branch of the handlers for a fragment. -/
def handleFragment (format : PayloadFormat) (depacketizer : RtpDepacketizer)
    (payload : List Byte) (timestamp : UInt32) (marker : Bool) : Outcome :=
  if payload.length < format.headerSize + 1 then ⟨depacketizer, false, []⟩
  else depacketizer.addFragment (format.fragmentUnit payload) timestamp marker

/-- The handler of a payload format. -/
def handle (format : PayloadFormat) (depacketizer : RtpDepacketizer) (payload : List Byte)
    (timestamp : UInt32) (marker : Bool) : Outcome :=
  if payload.length < format.headerSize then ⟨depacketizer, false, []⟩
  else
    let nalType := format.nalType (payload.getD 0 0)
    if format.isSingle nalType then
      let emitted := depacketizer.emitNal false payload timestamp marker
      ⟨emitted.1, true, emitted.2⟩
    else if nalType = format.aggregation then
      let unpacked := unpack (payload.drop format.headerSize)
      let emitted := emitNals timestamp marker depacketizer unpacked.1
      if unpacked.2 then ⟨emitted.1, true, emitted.2⟩ else ⟨emitted.1.drop, false, emitted.2⟩
    else if nalType = format.fragmentation then
      handleFragment format depacketizer payload timestamp marker
    else ⟨depacketizer.drop, false, []⟩

/-- `HandleH264`. -/
def handleH264 : RtpDepacketizer → List Byte → UInt32 → Bool → Outcome := handle h264Format

/-- `HandleH265`. -/
def handleH265 : RtpDepacketizer → List Byte → UInt32 → Bool → Outcome := handle h265Format

/-- The sequence check of `Push`. An unfinished NAL unit is dropped at a gap. -/
def checkSequence (depacketizer : RtpDepacketizer) (sequence : UInt16) : RtpDepacketizer :=
  let checked :=
    if depacketizer.inFragment = true ∧ sequence ≠ depacketizer.expectedSeq then
      depacketizer.breakFragment.resetFragment
    else depacketizer
  { checked with expectedSeq := sequence + 1 }

/-- The codec a packet is handled as. -/
def codecFor (depacketizer : RtpDepacketizer) (data : List Byte) : VideoCodec :=
  if depacketizer.codec = .unknown then detectCodec data else depacketizer.codec

/-- `Push`. -/
def push (depacketizer : RtpDepacketizer) (data : List Byte) : Outcome :=
  let counted := { depacketizer with packets := depacketizer.packets + 1 }
  match parseRtp data with
  | none => ⟨counted.drop, false, []⟩
  | some header =>
      if payloadSize data header.payloadOffset = 0 then ⟨counted.drop, false, []⟩
      else
        let codec := depacketizer.codecFor data
        let checked := { counted.checkSequence header.sequence with codec := codec }
        let heard :=
          Output.heard
            ⟨header.sequence, header.timestamp, header.marker, codec, payload data header⟩
        if codec = .unknown then ⟨checked.drop, false, [heard]⟩
        else
          let handled :=
            if codec = .h264 then
              checked.handleH264 (payload data header) header.timestamp header.marker
            else checked.handleH265 (payload data header) header.timestamp header.marker
          ⟨handled.depacketizer, handled.accepted, heard :: handled.outputs⟩

end RtpDepacketizer

inductive Event where
  | push (data : List Byte)
  | setCodec (codec : VideoCodec)
  deriving DecidableEq, Repr

/-- The depacketiser as a machine. -/
def machine : Mealy RtpDepacketizer Event Output where
  step depacketizer
    | .push data => ((depacketizer.push data).depacketizer, (depacketizer.push data).outputs)
    | .setCodec codec => ({ depacketizer with codec := codec }, [])

/-! ## What a run heard and emitted -/

/-- The packets heard in a run. -/
def heardIn (outputs : List Output) : List Heard :=
  outputs.filterMap fun output =>
    match output with
    | .heard packet => some packet
    | .nal _ _ => none

/-- The NAL units given to the callback in a run. -/
def nalsIn (outputs : List Output) : List NalUnit :=
  outputs.filterMap fun output =>
    match output with
    | .heard _ => none
    | .nal _ unit => some unit

theorem heardIn_append (first later : List Output) :
    heardIn (first ++ later) = heardIn first ++ heardIn later := List.filterMap_append

theorem nalsIn_append (first later : List Output) :
    nalsIn (first ++ later) = nalsIn first ++ nalsIn later := List.filterMap_append

@[simp] theorem heardIn_nal (fragmented : Bool) (unit : NalUnit) (rest : List Output) :
    heardIn (.nal fragmented unit :: rest) = heardIn rest := rfl

@[simp] theorem nalsIn_heard (packet : Heard) (rest : List Output) :
    nalsIn (.heard packet :: rest) = nalsIn rest := rfl

@[simp] theorem nalsIn_nal (fragmented : Bool) (unit : NalUnit) (rest : List Output) :
    nalsIn (.nal fragmented unit :: rest) = unit :: nalsIn rest := rfl

/-! ## The loop over an aggregate -/

/-- More turns than bytes change nothing. -/
theorem unpackLoop_enough {fuel : ℕ} {bytes : List Byte} (enough : bytes.length ≤ fuel) :
    unpackLoop fuel bytes = unpack bytes := by
  induction fuel using Nat.strong_induction_on generalizing bytes with
  | h fuel ih =>
      match fuel, bytes with
      | 0, [] => rfl
      | _ + 1, [] => rfl
      | _ + 1, [_] => rfl
      | fuel + 1, high :: low :: rest =>
          simp only [List.length_cons] at enough
          simp only [unpack, List.length_cons, unpackLoop]
          have shorter : ∀ size, (rest.drop size).length ≤ rest.length := fun size => by
            rw [List.length_drop]
            exact Nat.sub_le _ _
          split
          · rfl
          · rw [ih fuel (Nat.lt_succ_self _) (Nat.le_trans (shorter _) (by omega)),
              ih (rest.length + 1) (by omega) (Nat.le_trans (shorter _) (by omega))]

/-- One turn of the loop. -/
theorem unpack_cons (high low : Byte) (rest : List Byte) :
    unpack (high :: low :: rest) =
      let nalSize := high.toNat <<< 8 ||| low.toNat
      if nalSize = 0 ∨ nalSize > rest.length then ([], false)
      else
        (rest.take nalSize :: (unpack (rest.drop nalSize)).1, (unpack (rest.drop nalSize)).2) := by
  simp only [unpack, List.length_cons, unpackLoop]
  split
  · rfl
  · rw [unpackLoop_enough (by rw [List.length_drop]; omega)]
    rfl

/-! ## The numbers of the formats -/

/-- What the two formats have in common: the types of a single NAL unit, an aggregate and a
fragment are different, and a NAL header has a first byte. -/
structure PayloadFormat.Lawful (format : PayloadFormat) : Prop where
  headerSize_pos : 0 < format.headerSize
  aggregation_not_single : format.isSingle format.aggregation = false
  fragmentation_not_single : format.isSingle format.fragmentation = false
  fragmentation_ne : format.fragmentation ≠ format.aggregation

theorem VideoCodec.lawful (codec : VideoCodec) : codec.format.Lawful := by
  cases codec <;> exact ⟨by decide, by decide, by decide, by decide⟩

namespace RtpDepacketizer

variable (depacketizer : RtpDepacketizer)

/-! ## One call at a time -/

/-- A NAL unit for a callback. -/
theorem emitNal_callback {depacketizer : RtpDepacketizer} (callback : depacketizer.callback = true)
    (fragmented : Bool) {payload : List Byte} (nonempty : payload ≠ []) (timestamp : UInt32)
    (marker : Bool) :
    depacketizer.emitNal fragmented payload timestamp marker =
      ({ depacketizer with nals := depacketizer.nals + 1 },
        [.nal fragmented ⟨startCode ++ payload, timestamp, marker⟩]) := by
  rw [emitNal, if_neg]
  rintro (empty | unset)
  · exact nonempty (List.length_eq_zero_iff.mp empty)
  · rw [callback] at unset
    cases unset

/-- A fragment of a NAL unit whose start is missing. -/
theorem addFragment_orphan {depacketizer : RtpDepacketizer} {unit : FragmentUnit}
    (continuation : unit.start = false) (closed : depacketizer.inFragment = false)
    (timestamp : UInt32) (marker : Bool) :
    depacketizer.addFragment unit timestamp marker = ⟨depacketizer.breakFragment, false, []⟩ := by
  rw [addFragment, if_pos ⟨continuation, closed⟩]

/-- A fragment with a place, after which more is to come. -/
theorem addFragment_more {depacketizer : RtpDepacketizer} {unit : FragmentUnit}
    (placed : unit.start = true ∨ depacketizer.inFragment = true) (more : unit.finish = false)
    (timestamp : UInt32) (marker : Bool) :
    depacketizer.addFragment unit timestamp marker = ⟨depacketizer.extend unit, true, []⟩ := by
  rw [addFragment, if_neg (by rcases placed with yes | yes <;> simp [yes])]
  simp only [more, Bool.false_eq_true, if_false]

/-- A fragment with a place that ends the NAL unit. -/
theorem addFragment_finish {depacketizer : RtpDepacketizer} {unit : FragmentUnit}
    (placed : unit.start = true ∨ depacketizer.inFragment = true) (finish : unit.finish = true)
    (timestamp : UInt32) (marker : Bool) :
    depacketizer.addFragment unit timestamp marker =
      let emitted := (depacketizer.extend unit).emitNal true (depacketizer.extend unit).fragment
        timestamp marker
      ⟨emitted.1.resetFragment, true, emitted.2⟩ := by
  rw [addFragment, if_neg (by rcases placed with yes | yes <;> simp [yes])]
  simp only [finish, if_true]

/-- **A fragment goes to the fragment branch.** -/
theorem handle_of_fragment {format : PayloadFormat} (lawful : format.Lawful)
    {payload : List Byte} {unit : FragmentUnit} (read : format.fragment? payload = some unit)
    (timestamp : UInt32) (marker : Bool) :
    handle format depacketizer payload timestamp marker =
      depacketizer.addFragment unit timestamp marker := by
  unfold PayloadFormat.fragment? at read
  split at read
  · cases read
  · rename_i long
    split at read
    · rename_i typed
      cases read
      rw [handle, if_neg (by omega)]
      simp only [typed, lawful.fragmentation_not_single, Bool.false_eq_true, if_false,
        if_neg lawful.fragmentation_ne, if_true, handleFragment, if_neg long]
    · cases read

/-- The members the fragment path works on are left as they are. -/
structure KeepsFragment (before after : RtpDepacketizer) : Prop where
  inFragment : after.inFragment = before.inFragment
  fragment : after.fragment = before.fragment
  expectedSeq : after.expectedSeq = before.expectedSeq

theorem KeepsFragment.refl : KeepsFragment depacketizer depacketizer := ⟨rfl, rfl, rfl⟩

theorem emitNal_plain (payload : List Byte) (timestamp : UInt32) (marker : Bool) :
    KeepsFragment depacketizer (depacketizer.emitNal false payload timestamp marker).1 ∧
      ∀ output ∈ (depacketizer.emitNal false payload timestamp marker).2,
        ∃ unit, output = .nal false unit := by
  unfold emitNal
  split
  · exact ⟨.refl depacketizer, fun output member => absurd member List.not_mem_nil⟩
  · exact ⟨⟨rfl, rfl, rfl⟩, fun output member => ⟨_, List.mem_singleton.mp member⟩⟩

theorem emitNals_plain (nals : List (List Byte)) (timestamp : UInt32) (marker : Bool) :
    KeepsFragment depacketizer (emitNals timestamp marker depacketizer nals).1 ∧
      ∀ output ∈ (emitNals timestamp marker depacketizer nals).2,
        ∃ unit, output = .nal false unit := by
  induction nals generalizing depacketizer with
  | nil => exact ⟨.refl depacketizer, fun output member => absurd member List.not_mem_nil⟩
  | cons nal rest ih =>
      obtain ⟨first, plain⟩ := depacketizer.emitNal_plain nal timestamp marker
      obtain ⟨others, plains⟩ := ih (depacketizer.emitNal false nal timestamp marker).1
      refine ⟨⟨others.inFragment.trans first.inFragment, others.fragment.trans first.fragment,
        others.expectedSeq.trans first.expectedSeq⟩, ?_⟩
      intro output member
      rcases List.mem_append.mp member with inside | inside
      · exact plain output inside
      · exact plains output inside

/-- **Any other payload leaves the fragment path alone.** -/
theorem handle_plain {format : PayloadFormat} {payload : List Byte}
    (unread : format.fragment? payload = none) (timestamp : UInt32) (marker : Bool) :
    KeepsFragment depacketizer (handle format depacketizer payload timestamp marker).depacketizer ∧
      ∀ output ∈ (handle format depacketizer payload timestamp marker).outputs,
        ∃ unit, output = .nal false unit := by
  have silent : ∀ output ∈ ([] : List Output), ∃ unit, output = .nal false unit :=
    fun output member => absurd member List.not_mem_nil
  unfold handle
  split
  · exact ⟨.refl depacketizer, silent⟩
  · dsimp only
    split
    · exact depacketizer.emitNal_plain payload timestamp marker
    · split
      · obtain ⟨keeps, plain⟩ := depacketizer.emitNals_plain
          (unpack (payload.drop format.headerSize)).1 timestamp marker
        split
        · exact ⟨keeps, plain⟩
        · exact ⟨⟨keeps.inFragment, keeps.fragment, keeps.expectedSeq⟩, plain⟩
      · split
        · rename_i typed
          -- A fragment too short for its FU header.
          unfold PayloadFormat.fragment? at unread
          rw [handleFragment]
          split
          · exact ⟨.refl depacketizer, silent⟩
          · rename_i long
            rw [if_neg long, if_pos typed] at unread
            cases unread
        · exact ⟨⟨rfl, rfl, rfl⟩, silent⟩

/-- The packet `Push` hears, if it parses and has a payload. -/
def hears (data : List Byte) : Option Heard :=
  match parseRtp data with
  | none => none
  | some header =>
      if payloadSize data header.payloadOffset = 0 then none
      else
        some
          ⟨header.sequence, header.timestamp, header.marker, depacketizer.codecFor data,
            payload data header⟩

/-- A packet that is not heard is counted and nothing else. -/
theorem push_unheard {data : List Byte} (unheard : depacketizer.hears data = none) :
    depacketizer.push data =
      ⟨{ depacketizer with packets := depacketizer.packets + 1 }.drop, false, []⟩ := by
  unfold hears at unheard
  unfold push
  cases parsed : parseRtp data with
  | none => rfl
  | some header =>
      simp only [parsed] at unheard
      split at unheard
      · rename_i empty
        simp only [if_pos empty]
      · cases unheard

/-- What the handlers find: the packet is counted and its sequence number checked. -/
def checkedFor (packet : Heard) : RtpDepacketizer :=
  { { depacketizer with packets := depacketizer.packets + 1 }.checkSequence packet.sequence with
    codec := packet.codec }

/-- A packet that is heard goes to the handler of its codec, if that is known. -/
theorem push_heard {data : List Byte} {packet : Heard}
    (heard : depacketizer.hears data = some packet) :
    depacketizer.push data =
      if packet.codec = .unknown then
        ⟨(depacketizer.checkedFor packet).drop, false, [.heard packet]⟩
      else
        let handled := handle packet.codec.format (depacketizer.checkedFor packet) packet.payload
          packet.timestamp packet.marker
        ⟨handled.depacketizer, handled.accepted, .heard packet :: handled.outputs⟩ := by
  unfold hears at heard
  unfold push
  cases parsed : parseRtp data with
  | none => simp only [parsed, reduceCtorEq] at heard
  | some header =>
      simp only [parsed] at heard
      split at heard
      · cases heard
      · rename_i some
        cases heard
        simp only [if_neg some, checkedFor]
        cases depacketizer.codecFor data <;> rfl

end RtpDepacketizer

end Rtp

end MobileGs
