import MobileGs.Rtp.Packetization

/-!
# Streams with losses

A sender numbers the packets of its parcels one after the other and some of them are lost.
The depacketiser gives the callback exactly the NAL units of the parcels that arrive whole
(`nals_survive`).

Between parcels the depacketiser is `Ready`: if it still holds an unfinished NAL unit, then
packets were lost since, so the next packet that arrives is not taken for its continuation.
This is where the length of a gap matters, because sequence numbers repeat after 65536
packets. Inside a fragmented NAL unit of which nothing is missing so far it is `Collecting`,
and holds the header and the pieces.
-/

set_option autoImplicit false

namespace MobileGs

namespace Rtp

open RtpDepacketizer

/-! ## Gaps -/

/-- No `bound` failures stand in a row, if `missed` more of them stand in front. -/
def ShortGaps (bound missed : ℕ) (flags : List Bool) : Prop :=
  ¬ List.replicate bound false <:+: List.replicate missed false ++ flags

section ShortGaps

variable {bound missed : ℕ} {flags : List Bool}

theorem shortGaps_of_length (short : flags.length < bound) : ShortGaps bound 0 flags := by
  intro gap
  have le := gap.length_le
  rw [List.length_replicate, List.replicate_zero, List.nil_append] at le
  omega

theorem ShortGaps.miss (gaps : ShortGaps bound missed (false :: flags)) :
    ShortGaps bound (missed + 1) flags := by
  rwa [ShortGaps, List.replicate_succ', List.append_assoc, List.singleton_append]

theorem ShortGaps.missed_lt (gaps : ShortGaps bound missed flags) : missed < bound := by
  by_contra long
  have enough : missed = bound + (missed - bound) := by omega
  refine gaps ⟨[], List.replicate (missed - bound) false ++ flags, ?_⟩
  rw [List.nil_append, ← List.append_assoc, List.replicate_append_replicate, ← enough]

theorem ShortGaps.hit (gaps : ShortGaps bound missed (true :: flags)) :
    ShortGaps bound 0 flags := by
  refine fun gap => gaps (gap.trans ?_)
  exact (List.suffix_append_of_suffix (List.suffix_cons true flags)).isInfix

end ShortGaps

/-! ## The stream -/

/-- The packets that arrive, with consecutive sequence numbers from `next` on. -/
def arrivals (next : UInt16) : List Sent → List Event
  | [] => []
  | packet :: rest =>
      if packet.envelope.arrives then
        .push (packet.envelope.dressing.bytes next packet.payload) :: arrivals (next + 1) rest
      else arrivals (next + 1) rest

/-- Which packets arrive. -/
def flags (sent : List Sent) : List Bool := sent.map fun packet => packet.envelope.arrives

/-- The NAL units a depacketiser gives to the callback over a stream. -/
def emitted (depacketizer : RtpDepacketizer) (next : UInt16) (sent : List Sent) : List NalUnit :=
  nalsIn (machine.outputs depacketizer (arrivals next sent))

theorem emitted_lost {packet : Sent} (lost : packet.envelope.arrives = false)
    (depacketizer : RtpDepacketizer) (next : UInt16) (rest : List Sent) :
    emitted depacketizer next (packet :: rest) = emitted depacketizer (next + 1) rest := by
  simp only [emitted, arrivals, lost, Bool.false_eq_true, if_false]

namespace RtpDepacketizer

/-- The depacketiser in front of the handler. -/
def checked (depacketizer : RtpDepacketizer) (next : UInt16) : RtpDepacketizer :=
  { depacketizer with packets := depacketizer.packets + 1 }.checkSequence next

/-- What the handler does with the next packet. -/
def received (depacketizer : RtpDepacketizer) (next : UInt16) (packet : Sent) : Outcome :=
  handle depacketizer.codec.format (depacketizer.checked next) packet.payload
    packet.envelope.dressing.timestamp packet.envelope.dressing.marker

theorem hears_bytes {depacketizer : RtpDepacketizer} (known : depacketizer.codec ≠ .unknown)
    (dressing : Dressing) (sequence : UInt16) {payload : List Byte} (nonempty : payload ≠ []) :
    depacketizer.hears (dressing.bytes sequence payload) =
      some ⟨sequence, dressing.timestamp, dressing.marker, depacketizer.codec, payload⟩ := by
  have positive := mt List.length_eq_zero_iff.mp nonempty
  rw [hears, dressing.parseRtp_bytes]
  simp only [dressing.payloadSize_bytes, if_neg positive, codecFor, if_neg known,
    dressing.payload_bytes]
  rfl

end RtpDepacketizer

theorem emitted_arrives {depacketizer : RtpDepacketizer} (known : depacketizer.codec ≠ .unknown)
    {packet : Sent} (arrives : packet.envelope.arrives = true) (nonempty : packet.payload ≠ [])
    (next : UInt16) (rest : List Sent) :
    emitted depacketizer next (packet :: rest) =
      nalsIn (depacketizer.received next packet).outputs ++
        emitted (depacketizer.received next packet).depacketizer (next + 1) rest := by
  have heard := depacketizer.push_heard
    (hears_bytes known packet.envelope.dressing next nonempty)
  simp only [if_neg known] at heard
  have checked : depacketizer.checkedFor
      ⟨next, packet.envelope.dressing.timestamp, packet.envelope.dressing.marker,
        depacketizer.codec, packet.payload⟩ = depacketizer.checked next := by
    unfold checkedFor checked checkSequence
    split <;> rfl
  rw [checked] at heard
  simp only [emitted, arrivals, arrives, if_true, Mealy.outputs_cons, machine, heard,
    nalsIn_append, nalsIn_heard, received]

/-! ## Between parcels -/

/-- Where the depacketiser stands when no NAL unit is being collected with success: what it
may still hold is behind a gap. `coming` says which packets arrive from here on. -/
structure Ready (codec : VideoCodec) (depacketizer : RtpDepacketizer) (next : UInt16)
    (coming : List Bool) : Prop where
  codec_eq : depacketizer.codec = codec
  callback : depacketizer.callback = true
  gaps : ∃ missed, ShortGaps 65536 missed coming ∧
    (depacketizer.inFragment = true →
      0 < missed ∧ next = depacketizer.expectedSeq + UInt16.ofNat missed)

/-- Where the depacketiser stands inside a NAL unit of which nothing is missing. -/
structure Collecting (codec : VideoCodec) (depacketizer : RtpDepacketizer) (next : UInt16)
    (coming : List Bool) (collected : List Byte) : Prop where
  codec_eq : depacketizer.codec = codec
  callback : depacketizer.callback = true
  gaps : ShortGaps 65536 0 coming
  inFragment : depacketizer.inFragment = true
  fragment : depacketizer.fragment = collected
  expected : depacketizer.expectedSeq = next

section Steps

variable {codec : VideoCodec} {depacketizer : RtpDepacketizer} {next : UInt16}
  {coming : List Bool} {collected : List Byte}

/-- After a packet that leaves no NAL unit open. -/
theorem ready_of_closed (codec_eq : depacketizer.codec = codec)
    (callback : depacketizer.callback = true) (gaps : ShortGaps 65536 0 coming)
    (closed : depacketizer.inFragment = false) : Ready codec depacketizer next coming := by
  refine ⟨codec_eq, callback, 0, gaps, ?_⟩
  intro opened
  rw [closed] at opened
  cases opened

theorem Ready.lose (ready : Ready codec depacketizer next (false :: coming)) :
    Ready codec depacketizer (next + 1) coming := by
  obtain ⟨missed, gaps, stale⟩ := ready.gaps
  refine ⟨ready.codec_eq, ready.callback, missed + 1, gaps.miss, ?_⟩
  intro opened
  obtain ⟨-, next_eq⟩ := stale opened
  refine ⟨Nat.succ_pos _, ?_⟩
  rw [next_eq, UInt16.ofNat_add, ← UInt16.add_assoc]
  rfl

theorem Collecting.lose
    (collecting : Collecting codec depacketizer next (false :: coming) collected) :
    Ready codec depacketizer (next + 1) coming := by
  refine ⟨collecting.codec_eq, collecting.callback, 1, collecting.gaps.miss, fun _ => ?_⟩
  exact ⟨Nat.one_pos, by rw [collecting.expected]; rfl⟩

theorem checked_keeps (depacketizer : RtpDepacketizer) (next : UInt16) :
    (depacketizer.checked next).codec = depacketizer.codec ∧
      (depacketizer.checked next).callback = depacketizer.callback ∧
        (depacketizer.checked next).expectedSeq = next + 1 := by
  unfold checked checkSequence
  split <;> exact ⟨rfl, rfl, rfl⟩

/-- **A packet behind a gap is not a continuation**: no NAL unit is open when the handler
gets it. -/
theorem Ready.closed (ready : Ready codec depacketizer next (true :: coming)) :
    (depacketizer.checked next).inFragment = false := by
  obtain ⟨missed, gaps, stale⟩ := ready.gaps
  unfold checked checkSequence
  split
  · rfl
  · rename_i continues
    -- Fewer than 65536 packets are missing, so the number cannot be the expected one again.
    by_contra opened
    rw [Bool.not_eq_false] at opened
    obtain ⟨positive, next_eq⟩ := stale opened
    refine continues ⟨opened, ?_⟩
    intro same
    have zero : UInt16.ofNat missed = 0 := by
      rw [next_eq] at same
      exact UInt16.add_eq_left.mp same
    have small := gaps.missed_lt
    have number := congrArg UInt16.toNat zero
    rw [UInt16.toNat_ofNat', Nat.mod_eq_of_lt small] at number
    exact absurd number (Nat.pos_iff_ne_zero.mp positive)

/-- The next packet of a NAL unit finds what was collected. -/
theorem Collecting.open
    (collecting : Collecting codec depacketizer next (true :: coming) collected) :
    (depacketizer.checked next).inFragment = true ∧
      (depacketizer.checked next).fragment = collected := by
  have continues : ¬ (depacketizer.inFragment = true ∧ next ≠ depacketizer.expectedSeq) :=
    fun gap => gap.2 collecting.expected.symm
  unfold checked checkSequence
  rw [if_neg continues]
  exact ⟨collecting.inFragment, collecting.fragment⟩

end Steps

/-! ## One packet -/

/-- What a run over some packets emits, when it starts and ends between parcels. -/
def Conveys (codec : VideoCodec) (depacketizer : RtpDepacketizer) (next : UInt16)
    (sent : List Sent) (units : List NalUnit) (rest : List Sent) : Prop :=
  ∃ depacketizer' next', Ready codec depacketizer' next' (flags rest) ∧
    emitted depacketizer next (sent ++ rest) = units ++ emitted depacketizer' next' rest

/-- A packet that leaves no NAL unit open, handled while none is open. -/
def Settles (codec : VideoCodec) (packet : Sent) (units : List NalUnit) : Prop :=
  packet.payload ≠ [] ∧
    ∀ depacketizer : RtpDepacketizer, depacketizer.codec = codec →
      depacketizer.callback = true → depacketizer.inFragment = false →
        ∃ settled accepted outputs,
          handle codec.format depacketizer packet.payload packet.envelope.dressing.timestamp
              packet.envelope.dressing.marker = ⟨settled, accepted, outputs⟩ ∧
            nalsIn outputs = units ∧ settled.codec = codec ∧ settled.callback = true ∧
              settled.inFragment = false

section Packets

variable {codec : VideoCodec} {depacketizer : RtpDepacketizer} {next : UInt16}
  {rest : List Sent}

theorem Ready.packet (known : codec ≠ .unknown) {packet : Sent} {units : List NalUnit}
    (settles : Settles codec packet units)
    (ready : Ready codec depacketizer next (flags (packet :: rest))) :
    Conveys codec depacketizer next [packet] (if packet.envelope.arrives then units else [])
      rest := by
  rw [flags, List.map_cons] at ready
  cases arrives : packet.envelope.arrives with
  | false =>
      rw [arrives] at ready
      exact ⟨depacketizer, next + 1, ready.lose, emitted_lost arrives depacketizer next rest⟩
  | true =>
      rw [arrives] at ready
      obtain ⟨missed, gaps, -⟩ := ready.gaps
      obtain ⟨codec_eq, callback, -⟩ := checked_keeps depacketizer next
      obtain ⟨settled, accepted, outputs, handled, emits, codec', callback', closed⟩ :=
        settles.2 (depacketizer.checked next) (codec_eq.trans ready.codec_eq)
          (callback.trans ready.callback) ready.closed
      have received : depacketizer.received next packet = ⟨settled, accepted, outputs⟩ := by
        rw [received, ready.codec_eq, handled]
      have step := emitted_arrives (ready.codec_eq ▸ known) arrives settles.1 next rest
      rw [received, emits] at step
      exact ⟨settled, next + 1, ready_of_closed codec' callback' gaps.hit closed, step⟩

/-- Packets that emit nothing while no NAL unit is open. -/
theorem Ready.silent (known : codec ≠ .unknown) {packets : List Sent}
    (settle : ∀ packet ∈ packets, Settles codec packet [])
    (ready : Ready codec depacketizer next (flags (packets ++ rest))) :
    Conveys codec depacketizer next packets [] rest := by
  induction packets generalizing depacketizer next with
  | nil => exact ⟨depacketizer, next, ready, rfl⟩
  | cons packet packets ih =>
      obtain ⟨depacketizer', next', ready', emits⟩ :=
        ready.packet known (settle packet List.mem_cons_self)
      obtain ⟨final, last, ready'', others⟩ :=
        ih (fun other member => settle other (List.mem_cons_of_mem _ member)) ready'
      refine ⟨final, last, ready'', ?_⟩
      rw [ite_self] at emits
      exact emits.trans others

/-- Once a packet is lost, the ones behind it emit nothing, so a group of packets that is
emitted whole or not at all is not emitted. -/
theorem Ready.behind_loss (known : codec ≠ .unknown) {packet : Sent} {packets : List Sent}
    (lost : packet.envelope.arrives = false)
    (settle : ∀ packet ∈ packets, Settles codec packet [])
    (ready : Ready codec depacketizer (next + 1) (flags (packets ++ rest)))
    (units : List NalUnit) :
    Conveys codec depacketizer next (packet :: packets)
      (if (packet :: packets).all fun packet => packet.envelope.arrives then units else [])
      rest := by
  obtain ⟨final, last, ready', silent⟩ := ready.silent known settle
  refine ⟨final, last, ready', ?_⟩
  rw [List.all_cons, lost, Bool.false_and, if_neg Bool.false_ne_true]
  exact (emitted_lost lost depacketizer next _).trans silent

end Packets

section Parcels

variable {codec : VideoCodec} {depacketizer : RtpDepacketizer} {next : UInt16}
  {rest : List Sent} {collected : List Byte} {nal : Nal codec.format}

theorem settles_single (nal : Nal codec.format) (envelope : Envelope) :
    Settles codec ⟨envelope, nal.bytes⟩ [nal.completedBy envelope] := by
  refine ⟨nal.nonempty codec.lawful, ?_⟩
  intro depacketizer codec_eq callback closed
  exact ⟨_, _, _, handle_single codec.lawful callback nal _ _, rfl, codec_eq, callback, closed⟩

theorem nalsIn_map_nal {source : Type} (units : List source) (unit : source → NalUnit) :
    nalsIn (units.map fun one => .nal false (unit one)) = units.map unit := by
  induction units with
  | nil => rfl
  | cons one rest ih => rw [List.map_cons, nalsIn_nal, ih, List.map_cons]

theorem settles_aggregate (header : AggregateHeader codec.format)
    {nals : List (Nal codec.format)} (sizes : ∀ nal ∈ nals, nal.bytes.length ≤ 65535)
    (envelope : Envelope) :
    Settles codec ⟨envelope, header.bytes ++ nals.flatMap fun nal => entry nal.bytes⟩
      (nals.map fun nal => nal.completedBy envelope) := by
  have nonempty : header.bytes ≠ [] := by
    apply List.ne_nil_of_length_pos
    rw [header.length_eq]
    exact codec.lawful.headerSize_pos
  refine ⟨List.append_ne_nil_of_left_ne_nil nonempty _, ?_⟩
  intro depacketizer codec_eq callback closed
  exact ⟨_, _, _, handle_aggregate codec.lawful callback header sizes _ _,
    nalsIn_map_nal nals _, codec_eq, callback, closed⟩

theorem fragment_nonempty (nal : Nal codec.format) (start finish : Bool) (fragment : Fragment) :
    (nal.fragmentPacket start finish fragment).payload ≠ [] :=
  List.append_ne_nil_of_left_ne_nil (List.cons_ne_nil _ _) _

/-- A fragment other than the first, when none is open. -/
theorem settles_continuation (nal : Nal codec.format) (finish : Bool) (fragment : Fragment) :
    Settles codec (nal.fragmentPacket false finish fragment) [] := by
  refine ⟨fragment_nonempty nal false finish fragment, ?_⟩
  intro depacketizer codec_eq callback closed
  refine ⟨depacketizer.breakFragment, false, [], ?_, rfl, codec_eq, callback, closed⟩
  rw [Nal.fragmentPacket, handle_fragment codec.lawful codec.undoes,
    addFragment_orphan rfl closed]

/-- The handler gets a fragment. -/
theorem emitted_fragment (known : codec ≠ .unknown) (codec_eq : depacketizer.codec = codec)
    (next : UInt16) (rest : List Sent) (nal : Nal codec.format) (start finish : Bool)
    {fragment : Fragment} (arrives : fragment.envelope.arrives = true)
    {after : RtpDepacketizer} {accepted : Bool} {outputs : List Output}
    (added : (depacketizer.checked next).addFragment
        ⟨start, finish, nal.header, fragment.piece⟩ fragment.envelope.dressing.timestamp
        fragment.envelope.dressing.marker = ⟨after, accepted, outputs⟩) :
    emitted depacketizer next (nal.fragmentPacket start finish fragment :: rest) =
      nalsIn outputs ++ emitted after (next + 1) rest := by
  have received : depacketizer.received next (nal.fragmentPacket start finish fragment) =
      ⟨after, accepted, outputs⟩ := by
    rw [RtpDepacketizer.received, codec_eq, ← added]
    exact handle_fragment codec.lawful codec.undoes nal start finish fragment.piece _ _
  have step := emitted_arrives (codec_eq ▸ known) arrives
    (fragment_nonempty nal start finish fragment) next rest
  rwa [received] at step

/-- The first fragment opens a NAL unit. -/
theorem Ready.first (known : codec ≠ .unknown) (nal : Nal codec.format) {fragment : Fragment}
    (arrives : fragment.envelope.arrives = true)
    (ready : Ready codec depacketizer next (true :: flags rest)) :
    ∃ depacketizer', Collecting codec depacketizer' (next + 1) (flags rest)
        (nal.header ++ fragment.piece) ∧
      emitted depacketizer next (nal.fragmentPacket true false fragment :: rest) =
        emitted depacketizer' (next + 1) rest := by
  obtain ⟨missed, gaps, -⟩ := ready.gaps
  obtain ⟨codec_eq, callback, expected⟩ := checked_keeps depacketizer next
  have emits := emitted_fragment known ready.codec_eq next rest nal true false arrives
    (addFragment_more (.inl rfl) rfl _ _)
  exact ⟨(depacketizer.checked next).extend ⟨true, false, nal.header, fragment.piece⟩,
    ⟨codec_eq.trans ready.codec_eq, callback.trans ready.callback, gaps.hit, rfl, rfl, expected⟩,
    emits⟩

/-- A middle fragment is appended. -/
theorem Collecting.middle (known : codec ≠ .unknown) (nal : Nal codec.format)
    {fragment : Fragment} (arrives : fragment.envelope.arrives = true)
    (collecting : Collecting codec depacketizer next (true :: flags rest) collected) :
    ∃ depacketizer', Collecting codec depacketizer' (next + 1) (flags rest)
        (collected ++ fragment.piece) ∧
      emitted depacketizer next (nal.fragmentPacket false false fragment :: rest) =
        emitted depacketizer' (next + 1) rest := by
  obtain ⟨codec_eq, callback, expected⟩ := checked_keeps depacketizer next
  obtain ⟨opened, held⟩ := collecting.open
  have emits := emitted_fragment known collecting.codec_eq next rest nal false false arrives
    (addFragment_more (.inr opened) rfl _ _)
  exact ⟨(depacketizer.checked next).extend ⟨false, false, nal.header, fragment.piece⟩,
    ⟨codec_eq.trans collecting.codec_eq, callback.trans collecting.callback,
      collecting.gaps.hit, rfl, congrArg (· ++ fragment.piece) held, expected⟩, emits⟩

/-- The last fragment completes the NAL unit. -/
theorem Collecting.last (known : codec ≠ .unknown) (nal : Nal codec.format)
    {fragment : Fragment} (arrives : fragment.envelope.arrives = true)
    (whole : collected ++ fragment.piece = nal.bytes)
    (collecting : Collecting codec depacketizer next (true :: flags rest) collected) :
    ∃ depacketizer', Ready codec depacketizer' (next + 1) (flags rest) ∧
      emitted depacketizer next (nal.fragmentPacket false true fragment :: rest) =
        nal.completedBy fragment.envelope :: emitted depacketizer' (next + 1) rest := by
  obtain ⟨codec_eq, callback, expected⟩ := checked_keeps depacketizer next
  obtain ⟨opened, held⟩ := collecting.open
  let unit : FragmentUnit := ⟨false, true, nal.header, fragment.piece⟩
  have extended : ((depacketizer.checked next).extend unit).fragment = nal.bytes := by
    rw [← whole, ← held]
    rfl
  have callback' : ((depacketizer.checked next).extend unit).callback = true :=
    callback.trans collecting.callback
  have added := addFragment_finish (.inr opened) (show unit.finish = true from rfl)
    fragment.envelope.dressing.timestamp fragment.envelope.dressing.marker
  rw [extended, emitNal_callback callback' true (nal.nonempty codec.lawful)] at added
  have emits := emitted_fragment known collecting.codec_eq next rest nal false true arrives added
  refine ⟨_, ?_, emits⟩
  exact ready_of_closed (codec_eq.trans collecting.codec_eq) callback' collecting.gaps.hit rfl

/-! ## Parcels -/

/-- The packets behind the first fragment. -/
def continuations (nal : Nal codec.format) (middle : List Fragment) (last : Fragment) :
    List Sent :=
  middle.map (nal.fragmentPacket false false) ++ [nal.fragmentPacket false true last]

theorem settles_continuations (nal : Nal codec.format) (middle : List Fragment)
    (last : Fragment) : ∀ packet ∈ continuations nal middle last, Settles codec packet [] := by
  intro packet member
  rcases List.mem_append.mp member with inside | final
  · obtain ⟨fragment, -, rfl⟩ := List.mem_map.mp inside
    exact settles_continuation nal false fragment
  · rw [List.mem_singleton.mp final]
    exact settles_continuation nal true last

/-- The NAL unit is emitted if all packets behind its first fragment arrive. -/
theorem Collecting.remaining (known : codec ≠ .unknown) (nal : Nal codec.format)
    {middle : List Fragment} {last : Fragment}
    (whole : collected ++ (middle.flatMap Fragment.piece ++ last.piece) = nal.bytes)
    (collecting : Collecting codec depacketizer next
      (flags (continuations nal middle last ++ rest)) collected) :
    Conveys codec depacketizer next (continuations nal middle last)
      (if (continuations nal middle last).all fun packet => packet.envelope.arrives then
        [nal.completedBy last.envelope] else []) rest := by
  -- Over the middle fragments: what is collected grows by one, or a packet is missing and
  -- the depacketiser is ready for the next parcel.
  induction middle generalizing depacketizer next collected with
  | nil =>
      have single : continuations nal [] last = [nal.fragmentPacket false true last] := rfl
      rw [single, List.singleton_append, flags, List.map_cons] at collecting
      rw [single]
      cases arrives : last.envelope.arrives with
      | true =>
          obtain ⟨depacketizer', ready, emits⟩ :=
            Collecting.last known nal arrives whole (arrives ▸ collecting)
          refine ⟨depacketizer', next + 1, ready, emits.trans ?_⟩
          rw [List.all_cons, List.all_nil, Nal.fragmentPacket_envelope, arrives]
          rfl
      | false =>
          have ready : Ready codec depacketizer (next + 1) (flags rest) :=
            Collecting.lose (arrives ▸ collecting)
          exact Ready.behind_loss known arrives
            (fun _ member => absurd member List.not_mem_nil) ready _
  | cons fragment middle ih =>
      have front : continuations nal (fragment :: middle) last =
          nal.fragmentPacket false false fragment :: continuations nal middle last := rfl
      rw [front, List.cons_append, flags, List.map_cons] at collecting
      rw [front]
      cases arrives : fragment.envelope.arrives with
      | true =>
          obtain ⟨depacketizer', collecting', emits⟩ :=
            Collecting.middle known nal arrives (arrives ▸ collecting)
          rw [List.flatMap_cons, List.append_assoc, ← List.append_assoc] at whole
          obtain ⟨final, last', ready, others⟩ := ih whole collecting'
          refine ⟨final, last', ready, emits.trans (others.trans ?_)⟩
          rw [List.all_cons, Nal.fragmentPacket_envelope, arrives, Bool.true_and]
      | false =>
          have ready := Collecting.lose (arrives ▸ collecting)
          exact Ready.behind_loss known arrives (settles_continuations nal middle last) ready _

end Parcels

/-- **A parcel yields its NAL units if all its packets arrive, and nothing otherwise.** -/
theorem Ready.parcel {codec : VideoCodec} {depacketizer : RtpDepacketizer} {next : UInt16}
    {rest : List Sent} (known : codec ≠ .unknown) (parcel : Parcel codec.format)
    (ready : Ready codec depacketizer next (flags (parcel.sent ++ rest))) :
    Conveys codec depacketizer next parcel.sent parcel.survivors rest := by
  cases parcel with
  | single nal envelope =>
      have conveys := ready.packet known (settles_single nal envelope)
      simpa [Parcel.survivors, Parcel.sent, Parcel.nals, Parcel.completing] using conveys
  | aggregate header nals sizes envelope =>
      have conveys := ready.packet known (settles_aggregate header sizes envelope)
      simpa [Parcel.survivors, Parcel.sent, Parcel.nals, Parcel.completing] using conveys
  | fragments nal first middle last cut =>
      have sent : (Parcel.fragments nal first middle last cut).sent =
          nal.fragmentPacket true false first :: continuations nal middle last := rfl
      rw [sent, List.cons_append, flags, List.map_cons] at ready
      rw [Parcel.survivors, sent]
      cases arrives : first.envelope.arrives with
      | true =>
          obtain ⟨depacketizer', collecting, emits⟩ :=
            Ready.first known nal arrives (arrives ▸ ready)
          have whole : nal.header ++ first.piece ++
              (middle.flatMap Fragment.piece ++ last.piece) = nal.bytes := by
            rw [List.append_assoc, ← List.append_assoc first.piece, ← cut]
            exact List.take_append_drop codec.format.headerSize nal.bytes
          obtain ⟨final, last', ready', others⟩ := collecting.remaining known nal whole
          refine ⟨final, last', ready', emits.trans (others.trans ?_)⟩
          rw [List.all_cons, Nal.fragmentPacket_envelope, arrives, Bool.true_and]
          rfl
      | false =>
          have ready' := Ready.lose (arrives ▸ ready)
          exact Ready.behind_loss known arrives (settles_continuations nal middle last) ready' _

/-- A stream of parcels. -/
theorem Ready.stream {codec : VideoCodec} {depacketizer : RtpDepacketizer} {next : UInt16}
    (known : codec ≠ .unknown) {parcels : List (Parcel codec.format)}
    (ready : Ready codec depacketizer next (flags (parcels.flatMap Parcel.sent))) :
    emitted depacketizer next (parcels.flatMap Parcel.sent) =
      parcels.flatMap Parcel.survivors := by
  induction parcels generalizing depacketizer next with
  | nil => rfl
  | cons parcel rest ih =>
      rw [List.flatMap_cons] at ready ⊢
      obtain ⟨depacketizer', next', ready', emits⟩ := ready.parcel known parcel
      rw [emits, ih ready', List.flatMap_cons]

/-- Two fragments across the end of the sequence numbers, and a NAL unit that is lost. -/
def wrappedParcels : List (Parcel h264Format) :=
  [.fragments ⟨[0x65, 0xaa, 0xbb], by decide, by decide⟩
      ⟨⟨.plain 9000 false, true⟩, [0xaa], by decide⟩ []
      ⟨⟨.plain 9000 true, true⟩, [0xbb], by decide⟩ (by decide),
    .single ⟨[0x67], by decide, by decide⟩ ⟨.plain 9000 true, false⟩]

end Rtp

end MobileGs
