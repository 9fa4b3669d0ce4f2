import MobileGs.Rtp.Depacketizer

/-!
# What the fragment path emits

`Push` compares the sequence number of every packet with the expected one, but only a
fragment changes the buffer. So any other packet between two fragments advances the expected
number and leaves the unfinished NAL unit open: the fragment behind it is appended across a
hole (`not_assembled_hole`). The same happens with fragments of another codec after
`set_codec`, and with a fragment too short to be read.

If each packet that continues an open NAL unit is a fragment of its codec, then every NAL
unit from the fragment path is whole: its packets have the numbers from the start fragment
to the end fragment, each once, and its bytes are theirs (`assembled_of_everyStep`).
-/

set_option autoImplicit false

namespace MobileGs

namespace Rtp

open RtpDepacketizer

namespace Heard

/-- The fragment in a packet, if its handler reads one from it. -/
def fragment? (packet : Heard) : Option FragmentUnit :=
  if packet.codec = .unknown then none else packet.codec.format.fragment? packet.payload

def isFragment (packet : Heard) : Bool := packet.fragment?.isSome

def starts (packet : Heard) : Bool := packet.fragment?.any FragmentUnit.start

def finishes (packet : Heard) : Bool := packet.fragment?.any FragmentUnit.finish

/-- The NAL header rebuilt from a fragment. -/
def header (packet : Heard) : List Byte := packet.fragment?.elim [] FragmentUnit.header

/-- The bytes of the NAL unit in a fragment. -/
def piece (packet : Heard) : List Byte := packet.fragment?.elim [] FragmentUnit.piece

end Heard

/-! ## Packets since the start fragment -/

def extendSpan (span : List Heard) (packet : Heard) : List Heard :=
  if packet.starts then [packet] else if span = [] then [] else span ++ [packet]

/-- The packets heard from the latest start fragment on. -/
def openSpan (packets : List Heard) : List Heard := packets.foldl extendSpan []

theorem openSpan_concat (packets : List Heard) (packet : Heard) :
    openSpan (packets ++ [packet]) = extendSpan (openSpan packets) packet := by
  rw [openSpan, List.foldl_append]
  rfl

/-- The span starts with a start fragment and reaches to the last packet, and there is no
start fragment behind. -/
theorem openSpan_spec (packets : List Heard) :
    (openSpan packets = [] ∧ ∀ packet ∈ packets, packet.starts = false) ∨
      ∃ before first rest, packets = before ++ first :: rest ∧
        openSpan packets = first :: rest ∧ first.starts = true ∧
          ∀ packet ∈ rest, packet.starts = false := by
  induction packets using List.reverseRecOn with
  | nil => exact .inl ⟨rfl, fun packet member => absurd member List.not_mem_nil⟩
  | append_singleton packets packet ih =>
      rw [openSpan_concat, extendSpan]
      cases starts : packet.starts with
      | true =>
          refine .inr ⟨packets, packet, [], rfl, if_pos rfl, starts, ?_⟩
          exact fun other member => absurd member List.not_mem_nil
      | false =>
          rw [if_neg Bool.false_ne_true]
          rcases ih with ⟨empty, none⟩ | ⟨before, first, rest, split, span, start, others⟩
          · refine .inl ⟨if_pos empty, ?_⟩
            intro other member
            rcases List.mem_append.mp member with inside | final
            · exact none other inside
            · rw [List.mem_singleton.mp final, starts]
          · refine .inr ⟨before, first, rest ++ [packet], ?_, ?_, start, ?_⟩
            · rw [split, List.append_assoc, List.cons_append]
            · rw [span, if_neg (List.cons_ne_nil _ _), List.cons_append]
            · intro other member
              rcases List.mem_append.mp member with inside | final
              · exact others other inside
              · rw [List.mem_singleton.mp final, starts]

/-- Fragments of one codec with consecutive sequence numbers, one packet a number. -/
structure Consecutive (first : Heard) (rest : List Heard) : Prop where
  fragments : ∀ packet ∈ first :: rest, packet.isFragment = true ∧ packet.codec = first.codec
  numbers : (first :: rest).map Heard.sequence =
    (List.range (rest.length + 1)).map fun step => first.sequence + UInt16.ofNat step

/-- The bytes collected from a start fragment and the packets behind it. -/
def collected (first : Heard) (rest : List Heard) : List Byte :=
  first.header ++ (first :: rest).flatMap Heard.piece

/-- A NAL unit is whole: from its start fragment to its end fragment every packet was a
fragment of the same codec, each number was there once, and the bytes are theirs. -/
def Assembled (packets : List Heard) (unit : NalUnit) : Prop :=
  match openSpan packets with
  | [] => False
  | first :: rest =>
      let last := rest.getLastD first
      last.finishes = true ∧
        (∀ packet ∈ first :: rest, packet.isFragment = true ∧ packet.codec = first.codec) ∧
        (first :: rest).map Heard.sequence =
          (List.range ((last.sequence - first.sequence).toNat + 1)).map
            (fun step => first.sequence + UInt16.ofNat step) ∧
        unit.data = startCode ++ collected first rest

instance (packets : List Heard) (unit : NalUnit) : Decidable (Assembled packets unit) := by
  unfold Assembled
  split <;> infer_instance

/-- Every NAL unit from the fragment path was whole when it was emitted. -/
def AllAssembled (log : List Output) : Prop :=
  ∀ earlier unit later, log = earlier ++ .nal true unit :: later →
    Assembled (heardIn earlier) unit

theorem allAssembled_concat {log : List Output} {output : Output} :
    AllAssembled (log ++ [output]) ↔
      AllAssembled log ∧ ∀ unit, output = .nal true unit → Assembled (heardIn log) unit := by
  constructor
  · intro all
    constructor
    · intro earlier unit later split
      apply all earlier unit (later ++ [output])
      rw [split, List.append_assoc, List.cons_append]
    · intro unit same
      exact all log unit [] (by rw [same])
  · rintro ⟨all, last⟩ earlier unit later split
    rcases Mealy.split_concat split with ⟨rfl, same⟩ | ⟨front, inside⟩
    · exact last unit same.symm
    · exact all earlier unit front inside

theorem AllAssembled.heard {log : List Output} (all : AllAssembled log) (packet : Heard) :
    AllAssembled (log ++ [.heard packet]) :=
  allAssembled_concat.mpr ⟨all, fun _ same => Output.noConfusion same⟩

/-- NAL units from other paths change nothing. -/
theorem AllAssembled.plain {log outputs : List Output} (all : AllAssembled log)
    (plain : ∀ output ∈ outputs, ∃ unit, output = .nal false unit) :
    AllAssembled (log ++ outputs) := by
  induction outputs generalizing log with
  | nil => rwa [List.append_nil]
  | cons output rest ih =>
      obtain ⟨unit, rfl⟩ := plain output List.mem_cons_self
      have step : AllAssembled (log ++ [.nal false unit]) := by
        refine allAssembled_concat.mpr ⟨all, ?_⟩
        intro other same
        cases same
      have others := ih step fun other member => plain other (List.mem_cons_of_mem _ member)
      rwa [List.append_assoc, List.singleton_append] at others

/-! ## The open NAL unit -/

/-- What the depacketiser holds while a NAL unit is open: the bytes of consecutive fragments,
and the number of the next. -/
structure Holds (depacketizer : RtpDepacketizer) (first : Heard) (rest : List Heard) : Prop where
  consecutive : Consecutive first rest
  short : rest.length < 65536
  fragment : depacketizer.fragment = collected first rest
  expected : depacketizer.expectedSeq = first.sequence + UInt16.ofNat (rest.length + 1)

/-- The invariant. -/
structure Tracked (depacketizer : RtpDepacketizer) (log : List Output) : Prop where
  all : AllAssembled log
  holds : depacketizer.inFragment = true →
    ∃ first rest, openSpan (heardIn log) = first :: rest ∧ Holds depacketizer first rest

/-- A packet that continues the open NAL unit is a fragment of its codec, or starts over. -/
def ContinuedBy (depacketizer : RtpDepacketizer) (span : List Heard) (packet : Heard) : Prop :=
  depacketizer.inFragment = true → packet.sequence = depacketizer.expectedSeq →
    packet.starts = true ∨
      packet.isFragment = true ∧ span.head?.map Heard.codec = some packet.codec ∧
        span.length < 65536

instance (depacketizer : RtpDepacketizer) (span : List Heard) (packet : Heard) :
    Decidable (ContinuedBy depacketizer span packet) := by
  unfold ContinuedBy
  infer_instance

/-- The condition on a step, with what was emitted before it. -/
def Continues (depacketizer : RtpDepacketizer) (log : List Output) : Event → Prop
  | .push data =>
      ∀ packet ∈ depacketizer.hears data,
        ContinuedBy depacketizer (openSpan (heardIn log)) packet
  | .setCodec _ => True

instance (depacketizer : RtpDepacketizer) (log : List Output) (event : Event) :
    Decidable (Continues depacketizer log event) := by
  cases event with
  | push data => exact inferInstanceAs (Decidable (∀ packet ∈ depacketizer.hears data, _))
  | setCodec codec => exact inferInstanceAs (Decidable True)

/-- A start fragment begins a span. -/
theorem consecutive_single {first : Heard} (fragment : first.isFragment = true) :
    Consecutive first [] := by
  constructor
  · intro packet member
    rw [List.mem_singleton.mp member]
    exact ⟨fragment, rfl⟩
  · simp

/-- The next fragment continues a span. -/
theorem Consecutive.concat {first packet : Heard} {rest : List Heard}
    (consecutive : Consecutive first rest) (fragment : packet.isFragment = true)
    (codec_eq : packet.codec = first.codec)
    (next : packet.sequence = first.sequence + UInt16.ofNat (rest.length + 1)) :
    Consecutive first (rest ++ [packet]) := by
  constructor
  · intro other member
    rw [← List.cons_append] at member
    rcases List.mem_append.mp member with inside | final
    · exact consecutive.fragments other inside
    · rw [List.mem_singleton.mp final]
      exact ⟨fragment, codec_eq⟩
  · have longer : List.range (rest.length + 1 + 1) =
        List.range (rest.length + 1) ++ [rest.length + 1] := List.range_succ
    rw [← List.cons_append, List.map_append, consecutive.numbers, List.length_append,
      List.length_singleton, longer, List.map_append]
    simp only [List.map_cons, List.map_nil, next]

/-- The number of the last packet of a span. -/
theorem Consecutive.last_sequence {first : Heard} {rest : List Heard}
    (consecutive : Consecutive first rest) :
    (rest.getLastD first).sequence = first.sequence + UInt16.ofNat rest.length := by
  rcases List.eq_nil_or_concat rest with rfl | ⟨front, final, rfl⟩
  · exact (UInt16.add_zero first.sequence).symm
  · have numbers := consecutive.numbers
    rw [List.concat_eq_append, List.length_append, List.length_singleton, List.range_succ,
      ← List.cons_append, List.map_append, List.map_append] at numbers
    have last := (List.append_inj' numbers rfl).2
    rw [List.concat_eq_append, List.length_append, List.length_singleton,
      List.getLastD_concat]
    exact (List.cons.inj last).1

/-- What is held when the end fragment comes is a whole NAL unit. -/
theorem Holds.assembled {depacketizer : RtpDepacketizer} {first : Heard} {rest packets : List Heard}
    (holds : Holds depacketizer first rest) (span : openSpan packets = first :: rest)
    (finishes : (rest.getLastD first).finishes = true) (timestamp : UInt32) (marker : Bool) :
    Assembled packets ⟨startCode ++ depacketizer.fragment, timestamp, marker⟩ := by
  have steps : ((rest.getLastD first).sequence - first.sequence).toNat = rest.length := by
    rw [holds.consecutive.last_sequence, UInt16.add_comm, UInt16.add_sub_cancel,
      UInt16.toNat_ofNat', Nat.mod_eq_of_lt holds.short]
  rw [Assembled, span]
  refine ⟨finishes, holds.consecutive.fragments, ?_, ?_⟩
  · rw [steps]
    exact holds.consecutive.numbers
  · rw [holds.fragment]

/-! ## One packet -/

section Step

variable {depacketizer : RtpDepacketizer} {log : List Output} {packet : Heard}

/-- What the sequence check leaves open. -/
theorem checkedFor_inFragment (depacketizer : RtpDepacketizer) (packet : Heard) :
    (depacketizer.checkedFor packet).inFragment = true ↔
      depacketizer.inFragment = true ∧ packet.sequence = depacketizer.expectedSeq := by
  unfold checkedFor checkSequence
  split
  · rename_i gap
    exact ⟨fun opened => Bool.noConfusion opened, fun both => absurd both.2 gap.2⟩
  · rename_i continues
    refine ⟨fun opened => ⟨opened, ?_⟩, fun both => both.1⟩
    by_contra gap
    exact continues ⟨opened, gap⟩

theorem checkedFor_fragment (opened : (depacketizer.checkedFor packet).inFragment = true) :
    (depacketizer.checkedFor packet).fragment = depacketizer.fragment := by
  obtain ⟨-, same⟩ := (checkedFor_inFragment depacketizer packet).mp opened
  unfold checkedFor checkSequence
  rw [if_neg fun gap => gap.2 same]

theorem heardIn_concat (log : List Output) (packet : Heard) :
    heardIn (log ++ [.heard packet]) = heardIn log ++ [packet] := heardIn_append log [.heard packet]

theorem starts_eq {unit : FragmentUnit} (read : packet.fragment? = some unit) :
    packet.starts = unit.start := by
  rw [Heard.starts, read, Option.any_some]

/-- **A fragment with a place extends the span and what is held of it.** -/
theorem Tracked.extend (tracked : Tracked depacketizer log)
    (continued : ContinuedBy depacketizer (openSpan (heardIn log)) packet) {unit : FragmentUnit}
    (read : packet.fragment? = some unit)
    (placed : unit.start = true ∨ (depacketizer.checkedFor packet).inFragment = true) :
    ∃ first rest, openSpan (heardIn (log ++ [.heard packet])) = first :: rest ∧
      Holds ((depacketizer.checkedFor packet).extend unit) first rest ∧
        rest.getLastD first = packet := by
  have header : packet.header = unit.header := by rw [Heard.header, read]; rfl
  have piece : packet.piece = unit.piece := by rw [Heard.piece, read]; rfl
  have fragment : packet.isFragment = true := by rw [Heard.isFragment, read]; rfl
  rw [heardIn_concat, openSpan_concat, extendSpan, starts_eq read]
  cases start : unit.start with
  | true =>
      refine ⟨packet, [], if_pos rfl, ⟨consecutive_single fragment, by decide, ?_, rfl⟩, rfl⟩
      simp only [RtpDepacketizer.extend, start, if_true, collected, header,
        List.flatMap_singleton, piece]
  | false =>
      have opened := placed.resolve_left (by rw [start]; exact Bool.false_ne_true)
      obtain ⟨open', same⟩ := (checkedFor_inFragment depacketizer packet).mp opened
      obtain ⟨first, rest, span, holds⟩ := tracked.holds open'
      have next := holds.expected
      rw [← same] at next
      rcases continued open' same with starts | ⟨-, codec_eq, short⟩
      · rw [starts_eq read, start] at starts
        cases starts
      · rw [span] at codec_eq short ⊢
        have codec' : packet.codec = first.codec := (Option.some.inj codec_eq).symm
        refine ⟨first, rest ++ [packet], ?_, ⟨holds.consecutive.concat fragment codec' next, ?_, ?_,
          ?_⟩, List.getLastD_concat⟩
        · rw [if_neg Bool.false_ne_true, if_neg (List.cons_ne_nil _ _), List.cons_append]
        · rw [List.length_append, List.length_singleton]
          exact short
        · simp only [RtpDepacketizer.extend, start, Bool.false_eq_true, if_false,
            checkedFor_fragment opened, holds.fragment, collected, ← List.cons_append,
            List.flatMap_append, List.flatMap_singleton, piece, List.append_assoc]
        · change packet.sequence + 1 = _
          rw [next, List.length_append, List.length_singleton, UInt16.add_assoc,
            UInt16.ofNat_add (rest.length + 1) 1]
          rfl

/-- A packet that is not read as a fragment must not continue an open NAL unit. -/
theorem ContinuedBy.closed (continued : ContinuedBy depacketizer (openSpan (heardIn log)) packet)
    (unread : packet.fragment? = none) : (depacketizer.checkedFor packet).inFragment = false := by
  by_contra opened
  obtain ⟨open', same⟩ := (checkedFor_inFragment depacketizer packet).mp
    (Bool.not_eq_false _ ▸ opened)
  rcases continued open' same with starts | ⟨fragment, -⟩
  · rw [Heard.starts, unread] at starts
    cases starts
  · rw [Heard.isFragment, unread] at fragment
    cases fragment

/-- After a step that leaves no NAL unit open. -/
theorem tracked_closed (all : AllAssembled log) (closed : depacketizer.inFragment = false) :
    Tracked depacketizer log :=
  ⟨all, fun opened => by rw [closed] at opened; cases opened⟩

/-- A step that leaves the fragment path alone. -/
theorem Tracked.keeps {after : RtpDepacketizer} (tracked : Tracked depacketizer log)
    (keeps : KeepsFragment depacketizer after) : Tracked after log := by
  refine ⟨tracked.all, ?_⟩
  intro opened
  rw [keeps.inFragment] at opened
  obtain ⟨first, rest, span, holds⟩ := tracked.holds opened
  exact ⟨first, rest, span, holds.consecutive, holds.short,
    keeps.fragment.trans holds.fragment, keeps.expectedSeq.trans holds.expected⟩

/-- A fragment, in the fragment branch. -/
theorem Tracked.addFragment (tracked : Tracked depacketizer log)
    (continued : ContinuedBy depacketizer (openSpan (heardIn log)) packet) {unit : FragmentUnit}
    (read : packet.fragment? = some unit) (timestamp : UInt32) (marker : Bool) :
    Tracked ((depacketizer.checkedFor packet).addFragment unit timestamp marker).depacketizer
      (log ++ .heard packet ::
        ((depacketizer.checkedFor packet).addFragment unit timestamp marker).outputs) := by
  have all := tracked.all.heard packet
  by_cases placed : unit.start = true ∨ (depacketizer.checkedFor packet).inFragment = true
  · obtain ⟨first, rest, span, holds, last⟩ := tracked.extend continued read placed
    cases finish : unit.finish with
    | false =>
        rw [addFragment_more placed finish]
        exact ⟨all, fun _ => ⟨first, rest, span, holds⟩⟩
    | true =>
        have finishes : packet.finishes = true := by
          rw [Heard.finishes, read, Option.any_some, finish]
        have assembled := holds.assembled span (last ▸ finishes) timestamp marker
        rw [addFragment_finish placed finish]
        refine tracked_closed ?_ rfl
        rw [List.append_cons]
        simp only [emitNal]
        split
        · rwa [List.append_nil]
        · refine allAssembled_concat.mpr ⟨all, ?_⟩
          intro emitted same
          cases same
          exact assembled
  · obtain ⟨continuation, closed⟩ := not_or.mp placed
    rw [addFragment_orphan (Bool.eq_false_of_not_eq_true continuation)
      (Bool.eq_false_of_not_eq_true closed)]
    exact tracked_closed all (Bool.eq_false_of_not_eq_true closed)

/-- **One packet.** -/
theorem Tracked.push (tracked : Tracked depacketizer log) (data : List Byte)
    (continues : Continues depacketizer log (.push data)) :
    Tracked (depacketizer.push data).depacketizer
      (log ++ (depacketizer.push data).outputs) := by
  cases heard : depacketizer.hears data with
  | none =>
      rw [depacketizer.push_unheard heard, List.append_nil]
      exact tracked.keeps ⟨rfl, rfl, rfl⟩
  | some packet =>
      have continued := continues packet heard
      rw [depacketizer.push_heard heard]
      split
      · rename_i unknown
        apply tracked_closed (tracked.all.heard packet)
        exact continued.closed (by rw [Heard.fragment?, if_pos unknown])
      · rename_i known
        have read_eq : packet.fragment? = packet.codec.format.fragment? packet.payload := by
          rw [Heard.fragment?, if_neg known]
        cases read : packet.fragment? with
        | none =>
            obtain ⟨keeps, plain⟩ := (depacketizer.checkedFor packet).handle_plain
              (read_eq.symm.trans read) packet.timestamp packet.marker
            refine tracked_closed ?_ (keeps.inFragment.trans (continued.closed read))
            rw [List.append_cons]
            exact (tracked.all.heard packet).plain plain
        | some unit =>
            have handled := (depacketizer.checkedFor packet).handle_of_fragment
              packet.codec.lawful (read_eq.symm.trans read) packet.timestamp packet.marker
            simp only [handled]
            exact tracked.addFragment continued read packet.timestamp packet.marker

end Step

/-! ## Runs -/

/-- **A NAL unit from the fragment path is whole**, in every run in which each packet that
continues an open NAL unit is a fragment of its codec, fewer than 65536 behind each other. -/
theorem assembled_of_everyStep {codec : VideoCodec} {callback : Bool} {events : List Event}
    (met : machine.EveryStep Continues { codec := codec, callback := callback } events) :
    AllAssembled (machine.outputs { codec := codec, callback := callback } events) := by
  have start : Tracked { codec := codec, callback := callback } [] :=
    tracked_closed (fun earlier unit later split => absurd split (by simp)) rfl
  refine (Mealy.invariant_of_everyStep Tracked start ?_ met).all
  intro depacketizer log event tracked continues
  cases event with
  | push data => exact tracked.push data continues
  | setCodec codec =>
      change Tracked { depacketizer with codec := codec } (log ++ [])
      rw [List.append_nil]
      exact tracked.keeps ⟨rfl, rfl, rfl⟩

/-- An RTP packet with a header of 12 bytes. -/
def plainPacket (sequence : UInt16) (payload : List Byte) : List Byte :=
  (Dressing.plain 0 false).bytes sequence payload

/-- A start fragment, a middle fragment and an end fragment in sequence. -/
theorem assembled_threeFragments :
    AllAssembled (machine.outputs { codec := .h264, callback := true }
      [.push (plainPacket 65535 [0x7c, 0x85, 0xaa, 0xbb]), .push (plainPacket 0 [0x7c, 0x05, 0xcc]),
        .push (plainPacket 1 [0x7c, 0x45, 0xdd])]) :=
  assembled_of_everyStep (by decide)

/-- **A hole is spliced**: a packet with another NAL unit stands between the start fragment
and the end fragment, and the two pieces around it are emitted as one NAL unit. -/
theorem not_assembled_hole :
    ¬ ∀ (codec : VideoCodec) (callback : Bool) (events : List Event),
      AllAssembled (machine.outputs { codec := codec, callback := callback } events) := by
  intro all
  have emitted : machine.outputs { codec := .h264, callback := true }
      [.push (plainPacket 1 [0x7c, 0x85, 0xaa]), .push (plainPacket 2 [0x61, 0x11]),
        .push (plainPacket 3 [0x7c, 0x45, 0xdd])] =
      [.heard ⟨1, 0, false, .h264, [0x7c, 0x85, 0xaa]⟩, .heard ⟨2, 0, false, .h264, [0x61, 0x11]⟩,
        .nal false ⟨[0, 0, 0, 1, 0x61, 0x11], 0, false⟩,
        .heard ⟨3, 0, false, .h264, [0x7c, 0x45, 0xdd]⟩,
        .nal true ⟨[0, 0, 0, 1, 0x65, 0xaa, 0xdd], 0, false⟩] := by decide
  have assembled := all .h264 true _ (_ :: _ :: _ :: [_]) _ [] emitted
  exact absurd assembled (by decide)

end Rtp

end MobileGs
