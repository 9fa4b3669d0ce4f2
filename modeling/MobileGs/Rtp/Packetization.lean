import MobileGs.Rtp.Depacketizer

/-!
# Packetisations

A sender cuts NAL units into the payloads of RTP packets: one packet for a NAL unit, an
aggregate of several, or two fragments and more. A `Parcel` is one such group, with the
dressing of each packet and whether it arrives.

The handler of the format undoes each kind: it emits the unit of a single packet
(`handle_single`) and all units of an aggregate (`handle_aggregate`), and it reads from a
fragment the header of the NAL unit, the two bits and the piece (`fragmentUnit_fragment`).
-/

set_option autoImplicit false

namespace MobileGs

namespace Rtp

/-- A NAL unit a sender can put into a packet of its own. -/
structure Nal (format : PayloadFormat) where
  bytes : List Byte
  long : format.headerSize ≤ bytes.length
  single : format.isSingle (format.nalType (bytes.getD 0 0)) = true

/-- The header of an aggregate. -/
structure AggregateHeader (format : PayloadFormat) where
  bytes : List Byte
  length_eq : bytes.length = format.headerSize
  typed : format.nalType (bytes.getD 0 0) = format.aggregation

/-- What is around a payload, and whether the packet arrives. -/
structure Envelope where
  dressing : Dressing
  arrives : Bool

/-- A packet without its sequence number. -/
structure Sent where
  envelope : Envelope
  payload : List Byte

/-- A piece of a NAL unit in a packet of its own. -/
structure Fragment where
  envelope : Envelope
  piece : List Byte
  nonempty : piece ≠ []

/-- The FU header of a fragment. -/
def fuHeader (start finish : Bool) (nalType : Byte) : Byte :=
  (if start then 0x80 else 0) ||| (if finish then 0x40 else 0) ||| nalType

/-- A NAL unit behind its size. -/
def entry (nal : List Byte) : List Byte := be16 nal.length ++ nal

namespace Nal

variable {format : PayloadFormat} (nal : Nal format)

def header : List Byte := nal.bytes.take format.headerSize

/-- What is left of the NAL unit once its header is in the FU headers. -/
def body : List Byte := nal.bytes.drop format.headerSize

/-- The payload of a fragment. -/
def fragment (start finish : Bool) (piece : List Byte) : List Byte :=
  format.retype (nal.bytes.getD 0 0) format.fragmentation :: nal.header.drop 1 ++
    fuHeader start finish (format.nalType (nal.bytes.getD 0 0)) :: piece

/-- The packet of a fragment. -/
def fragmentPacket (start finish : Bool) (fragment : Fragment) : Sent where
  envelope := fragment.envelope
  payload := nal.fragment start finish fragment.piece

@[simp] theorem fragmentPacket_envelope (start finish : Bool) (fragment : Fragment) :
    (nal.fragmentPacket start finish fragment).envelope = fragment.envelope := rfl

/-- The NAL unit as the callback should receive it when a packet completes it. -/
def completedBy (envelope : Envelope) : NalUnit where
  data := startCode ++ nal.bytes
  rtpTimestamp := envelope.dressing.timestamp
  marker := envelope.dressing.marker

end Nal

/-- A group of packets that carries one NAL unit or several. The pieces of a fragmented NAL
unit are its body. -/
inductive Parcel (format : PayloadFormat) where
  | single (nal : Nal format) (envelope : Envelope)
  | aggregate (header : AggregateHeader format) (nals : List (Nal format))
      (sizes : ∀ nal ∈ nals, nal.bytes.length ≤ 65535) (envelope : Envelope)
  | fragments (nal : Nal format) (first : Fragment) (middle : List Fragment) (last : Fragment)
      (cut : nal.body = first.piece ++ middle.flatMap Fragment.piece ++ last.piece)

namespace Parcel

variable {format : PayloadFormat}

/-- The NAL units of a parcel. -/
def nals : Parcel format → List (Nal format)
  | single nal _ => [nal]
  | aggregate _ nals _ _ => nals
  | fragments nal _ _ _ _ => [nal]

/-- The packets of a parcel. -/
def sent : Parcel format → List Sent
  | single nal envelope => [⟨envelope, nal.bytes⟩]
  | aggregate header nals _ envelope =>
      [⟨envelope, header.bytes ++ nals.flatMap fun nal => entry nal.bytes⟩]
  | fragments nal first middle last _ =>
      nal.fragmentPacket true false first ::
        (middle.map (nal.fragmentPacket false false) ++ [nal.fragmentPacket false true last])

/-- The packet that completes the NAL units of a parcel. -/
def completing : Parcel format → Envelope
  | single _ envelope => envelope
  | aggregate _ _ _ envelope => envelope
  | fragments _ _ _ last _ => last.envelope

/-- The NAL units of a parcel whose packets all arrive, as the callback should receive them. -/
def survivors (parcel : Parcel format) : List NalUnit :=
  if parcel.sent.all (fun packet => packet.envelope.arrives) then
    parcel.nals.map fun nal => nal.completedBy parcel.completing
  else []

end Parcel

/-! ## The numbers of the formats -/

/-- What the handlers undo: the type of a fragment is recognised, and the FU header gives its
bits and the first byte of the NAL unit back. -/
structure PayloadFormat.Undoes (format : PayloadFormat) : Prop where
  nalType_retype : ∀ first,
    format.nalType (format.retype first format.fragmentation) = format.fragmentation
  start_fuHeader : ∀ start finish first,
    (fuHeader start finish (format.nalType first) &&& 0x80 != 0) = start
  finish_fuHeader : ∀ start finish first,
    (fuHeader start finish (format.nalType first) &&& 0x40 != 0) = finish
  retype_retype : ∀ start finish first,
    format.retype (format.retype first format.fragmentation)
      (format.fragmentType (fuHeader start finish (format.nalType first))) = first

/-- The facts about one first byte. -/
def PayloadFormat.UndoesAt (format : PayloadFormat) (first : Byte) : Prop :=
  format.nalType (format.retype first format.fragmentation) = format.fragmentation ∧
    ∀ start finish,
      (fuHeader start finish (format.nalType first) &&& 0x80 != 0) = start ∧
        (fuHeader start finish (format.nalType first) &&& 0x40 != 0) = finish ∧
          format.retype (format.retype first format.fragmentation)
            (format.fragmentType (fuHeader start finish (format.nalType first))) = first

instance (format : PayloadFormat) (first : Byte) : Decidable (format.UndoesAt first) :=
  inferInstanceAs (Decidable (_ ∧ _))

/-- The facts are checked on the 256 bytes. -/
theorem PayloadFormat.undoes_of_table {format : PayloadFormat}
    (table : ∀ n < 256, format.UndoesAt (UInt8.ofNat n)) : format.Undoes := by
  have all : ∀ first, format.UndoesAt first := by
    intro first
    have entry := table first.toNat first.toNat_lt
    rwa [UInt8.ofNat_toNat] at entry
  constructor
  · intro first
    exact (all first).1
  · intro start finish first
    exact ((all first).2 start finish).1
  · intro start finish first
    exact ((all first).2 start finish).2.1
  · intro start finish first
    exact ((all first).2 start finish).2.2

theorem h264Format_undoes : h264Format.Undoes :=
  PayloadFormat.undoes_of_table (by decide +kernel)

theorem h265Format_undoes : h265Format.Undoes :=
  PayloadFormat.undoes_of_table (by decide +kernel)

theorem VideoCodec.undoes (codec : VideoCodec) : codec.format.Undoes := by
  cases codec
  · exact h265Format_undoes
  · exact h264Format_undoes
  · exact h265Format_undoes

/-! ## Each kind of packet undone -/

/-- **An aggregate is taken apart into its NAL units.** -/
theorem unpack_entries {nals : List (List Byte)}
    (sizes : ∀ nal ∈ nals, nal ≠ [] ∧ nal.length < 2 ^ 16) :
    unpack (nals.flatMap entry) = (nals, true) := by
  induction nals with
  | nil => rfl
  | cons nal rest ih =>
      obtain ⟨nonempty, small⟩ := sizes nal List.mem_cons_self
      have others := ih fun other member => sizes other (List.mem_cons_of_mem _ member)
      have positive := List.length_pos_iff.mpr nonempty
      rw [List.flatMap_cons, entry, be16]
      simp only [List.cons_append, List.nil_append, unpack_cons, be16_joinNat small]
      rw [if_neg (by rw [List.length_append]; omega), List.take_left, List.drop_left, others]

section Handled

open RtpDepacketizer

variable {format : PayloadFormat} {depacketizer : RtpDepacketizer}

theorem Nal.nonempty (lawful : format.Lawful) (nal : Nal format) : nal.bytes ≠ [] :=
  List.ne_nil_of_length_pos (Nat.lt_of_lt_of_le lawful.headerSize_pos nal.long)

theorem emitNals_callback (callback : depacketizer.callback = true) {nals : List (List Byte)}
    (nonempty : ∀ nal ∈ nals, nal ≠ []) (timestamp : UInt32) (marker : Bool) :
    emitNals timestamp marker depacketizer nals =
      ({ depacketizer with nals := depacketizer.nals + nals.length },
        nals.map fun nal => .nal false ⟨startCode ++ nal, timestamp, marker⟩) := by
  induction nals generalizing depacketizer with
  | nil => rfl
  | cons nal rest ih =>
      have first := emitNal_callback callback false (nonempty nal List.mem_cons_self) timestamp
        marker
      rw [emitNals, first, ih (by exact callback)
        fun other member => nonempty other (List.mem_cons_of_mem _ member)]
      simp only [List.length_cons, List.map_cons, List.singleton_append, Nat.add_assoc,
        Nat.add_comm 1]

/-- A packet with one NAL unit. -/
theorem handle_single (lawful : format.Lawful) (callback : depacketizer.callback = true)
    (nal : Nal format) (timestamp : UInt32) (marker : Bool) :
    handle format depacketizer nal.bytes timestamp marker =
      ⟨{ depacketizer with nals := depacketizer.nals + 1 }, true,
        [.nal false ⟨startCode ++ nal.bytes, timestamp, marker⟩]⟩ := by
  rw [handle, if_neg (Nat.not_lt.mpr nal.long)]
  simp only [nal.single, if_true, emitNal_callback callback false (nal.nonempty lawful)]

/-- A packet with an aggregate. -/
theorem handle_aggregate (lawful : format.Lawful) (callback : depacketizer.callback = true)
    (header : AggregateHeader format) {nals : List (Nal format)}
    (sizes : ∀ nal ∈ nals, nal.bytes.length ≤ 65535) (timestamp : UInt32) (marker : Bool) :
    handle format depacketizer (header.bytes ++ nals.flatMap fun nal => entry nal.bytes)
        timestamp marker =
      ⟨{ depacketizer with nals := depacketizer.nals + nals.length }, true,
        nals.map fun nal => .nal false ⟨startCode ++ nal.bytes, timestamp, marker⟩⟩ := by
  have entries : nals.flatMap (fun nal => entry nal.bytes) =
      (nals.map Nal.bytes).flatMap entry := by
    rw [List.flatMap_map]
  have first : (header.bytes ++ (nals.map Nal.bytes).flatMap entry).getD 0 0 =
      header.bytes.getD 0 0 :=
    List.getD_append _ _ _ _ (by rw [header.length_eq]; exact lawful.headerSize_pos)
  have rest : (header.bytes ++ (nals.map Nal.bytes).flatMap entry).drop format.headerSize =
      (nals.map Nal.bytes).flatMap entry := by
    rw [← header.length_eq]
    exact List.drop_left
  have unpacked : unpack ((nals.map Nal.bytes).flatMap entry) = (nals.map Nal.bytes, true) := by
    apply unpack_entries
    intro bytes member
    obtain ⟨nal, inside, rfl⟩ := List.mem_map.mp member
    exact ⟨nal.nonempty lawful, Nat.lt_succ_of_le (sizes nal inside)⟩
  have nonempty : ∀ bytes ∈ nals.map Nal.bytes, bytes ≠ [] := by
    intro bytes member
    obtain ⟨nal, -, rfl⟩ := List.mem_map.mp member
    exact nal.nonempty lawful
  have emitted := emitNals_callback callback nonempty timestamp marker
  rw [entries, handle, if_neg (by rw [List.length_append, header.length_eq]; omega)]
  simp only [first, header.typed, lawful.aggregation_not_single, Bool.false_eq_true, if_false,
    if_true, rest, unpacked, emitted, List.length_map, List.map_map, Function.comp_def]

theorem Nal.length_fragmentHeader (lawful : format.Lawful) (nal : Nal format) (first : Byte) :
    (first :: nal.header.drop 1).length = format.headerSize := by
  have positive := lawful.headerSize_pos
  rw [List.length_cons, List.length_drop, Nal.header, List.length_take,
    Nat.min_eq_left nal.long]
  omega

/-- **What is read from a fragment**: its bits, its piece and the header of the NAL unit. -/
theorem fragmentUnit_fragment (lawful : format.Lawful) (undoes : format.Undoes)
    (nal : Nal format) (start finish : Bool) (piece : List Byte) :
    format.fragmentUnit (nal.fragment start finish piece) =
      ⟨start, finish, nal.header, piece⟩ := by
  have length := nal.length_fragmentHeader lawful
    (format.retype (nal.bytes.getD 0 0) format.fragmentation)
  have bits : (nal.fragment start finish piece).getD format.headerSize 0 =
      fuHeader start finish (format.nalType (nal.bytes.getD 0 0)) := by
    rw [Nal.fragment, ← length]
    exact getD_length_add _ _ 0 0
  have taken : (nal.fragment start finish piece).take format.headerSize =
      format.retype (nal.bytes.getD 0 0) format.fragmentation :: nal.header.drop 1 := by
    rw [Nal.fragment]
    exact List.take_left' length
  have behind : (nal.fragment start finish piece).drop (format.headerSize + 1) = piece := by
    rw [Nal.fragment, ← List.drop_drop, List.drop_left' length]
    rfl
  have header : nal.bytes.getD 0 0 :: nal.header.drop 1 = nal.header := by
    have positive := lawful.headerSize_pos
    rw [Nal.header]
    cases bytes : nal.bytes with
    | nil => exact absurd bytes (nal.nonempty lawful)
    | cons first others =>
        obtain ⟨size, size_eq⟩ := Nat.exists_eq_add_of_lt positive
        rw [Nat.zero_add] at size_eq
        rw [size_eq]
        rfl
  have first : (nal.fragment start finish piece).getD 0 0 =
      format.retype (nal.bytes.getD 0 0) format.fragmentation := rfl
  simp only [PayloadFormat.fragmentUnit, bits, taken, behind, first, undoes.start_fuHeader,
    undoes.finish_fuHeader, undoes.retype_retype, List.drop_succ_cons, List.drop_zero, header]

/-- A packet with a fragment. -/
theorem handle_fragment (lawful : format.Lawful) (undoes : format.Undoes) (nal : Nal format)
    (start finish : Bool) (piece : List Byte) (timestamp : UInt32) (marker : Bool) :
    handle format depacketizer (nal.fragment start finish piece) timestamp marker =
      depacketizer.addFragment ⟨start, finish, nal.header, piece⟩ timestamp marker := by
  have long : format.headerSize + 1 ≤ (nal.fragment start finish piece).length := by
    rw [Nal.fragment, List.length_append, nal.length_fragmentHeader lawful, List.length_cons]
    omega
  have typed : format.nalType ((nal.fragment start finish piece).getD 0 0) =
      format.fragmentation := undoes.nalType_retype (nal.bytes.getD 0 0)
  refine depacketizer.handle_of_fragment lawful ?_ timestamp marker
  rw [PayloadFormat.fragment?, if_neg (Nat.not_lt.mpr long), if_pos typed,
    fragmentUnit_fragment lawful undoes]

end Handled

end Rtp

end MobileGs
