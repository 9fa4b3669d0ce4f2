import MobileGs.Rtp.Header

/-!
# What the header parser accepts

The parser accepts the packets a `Dressing` makes and no others (`exists_dressing`). Each part of
an accepted packet is split off the front of what is left: a number or a list of words, then the
extension, and last the padding off the end.

`parseRtpVia` and `payloadSizeVia` are the two functions again, over a reader of single bytes.
With a reader that fails outside the packet they give what `parseRtp` and `payloadSize` give, so
no byte outside the packet is read (`parseRtpVia_getElem?`, `payloadSizeVia_getElem?`).
-/

set_option autoImplicit false

namespace MobileGs

namespace Rtp

/-! ## Splitting a number off the front -/

/-- Any two bytes are those of a number. -/
theorem exists_be16 (high low : Byte) : ∃ value : UInt16, be16 value.toNat = [high, low] := by
  have high_lt := high.toNat_lt
  have low_lt := low.toNat_lt
  have first : UInt8.ofNat ((high.toNat * 2 ^ 8 + low.toNat) / 2 ^ 8) = high := by
    apply UInt8.toNat_inj.mp
    rw [UInt8.toNat_ofNat']
    omega
  have second : UInt8.ofNat (high.toNat * 2 ^ 8 + low.toNat) = low := by
    apply UInt8.toNat_inj.mp
    rw [UInt8.toNat_ofNat']
    omega
  refine ⟨UInt16.ofNat (high.toNat * 2 ^ 8 + low.toNat), ?_⟩
  rw [UInt16.toNat_ofNat', Nat.mod_eq_of_lt (by omega), be16, first, second]

/-- Any four bytes are those of a number. -/
theorem exists_be32 (first second third fourth : Byte) :
    ∃ value : UInt32, be32 value.toNat = [first, second, third, fourth] := by
  have bound : beNat [first, second, third, fourth] < 256 ^ 4 :=
    leNat_lt [fourth, third, second, first]
  refine ⟨UInt32.ofNat (beNat [first, second, third, fourth]), beNat_inj rfl ?_⟩
  rw [UInt32.toNat_ofNat', Nat.mod_eq_of_lt (by omega), beNat_be32 (by omega)]

theorem split_be16 {data : List Byte} (long : 2 ≤ data.length) :
    ∃ (value : UInt16) (rest : List Byte), data = be16 value.toNat ++ rest := by
  obtain ⟨high, low, rest, rfl⟩ : ∃ high low rest, data = high :: low :: rest := by
    match data, long with
    | high :: low :: rest, _ => exact ⟨_, _, _, rfl⟩
  obtain ⟨value, bytes⟩ := exists_be16 high low
  exact ⟨value, rest, by rw [bytes]; rfl⟩

theorem split_be32 {data : List Byte} (long : 4 ≤ data.length) :
    ∃ (value : UInt32) (rest : List Byte), data = be32 value.toNat ++ rest := by
  obtain ⟨first, second, third, fourth, rest, rfl⟩ :
      ∃ first second third fourth rest, data = first :: second :: third :: fourth :: rest := by
    match data, long with
    | first :: second :: third :: fourth :: rest, _ => exact ⟨_, _, _, _, _, rfl⟩
  obtain ⟨value, bytes⟩ := exists_be32 first second third fourth
  exact ⟨value, rest, by rw [bytes]; rfl⟩

/-- A list of words is split off word by word. -/
theorem split_words (count : ℕ) {data : List Byte} (long : count * 4 ≤ data.length) :
    ∃ (words : List UInt32) (rest : List Byte),
      words.length = count ∧ data = wordsBytes words ++ rest := by
  induction count generalizing data with
  | zero => exact ⟨[], data, rfl, rfl⟩
  | succ count ih =>
      obtain ⟨word, data, rfl⟩ := split_be32 (show 4 ≤ data.length by omega)
      rw [List.length_append, length_be32] at long
      obtain ⟨words, rest, length, rfl⟩ := ih (show count * 4 ≤ data.length by omega)
      refine ⟨word :: words, rest, by rw [List.length_cons, length], ?_⟩
      rw [wordsBytes, wordsBytes, List.flatMap_cons, List.append_assoc]

/-! ## The bits of the first two bytes -/

theorem eq_firstByte {first : Byte} (version : (first >>> 6) &&& 0x03 = 2) :
    first = firstByte (first &&& 0x20 != 0) (first &&& 0x10 != 0) (first &&& 0x0f).toNat := by
  have table : ∀ n < 256, (UInt8.ofNat n >>> 6) &&& 0x03 = 2 →
      UInt8.ofNat n = firstByte (UInt8.ofNat n &&& 0x20 != 0) (UInt8.ofNat n &&& 0x10 != 0)
        (UInt8.ofNat n &&& 0x0f).toNat := by decide +kernel
  have entry := table first.toNat first.toNat_lt
  rw [UInt8.ofNat_toNat] at entry
  exact entry version

theorem eq_secondByte (second : Byte) :
    second &&& 0x7f < 128 ∧ second = secondByte (second &&& 0x80 != 0) (second &&& 0x7f) := by
  have table : ∀ n < 256, UInt8.ofNat n &&& 0x7f < 128 ∧
      UInt8.ofNat n = secondByte (UInt8.ofNat n &&& 0x80 != 0) (UInt8.ofNat n &&& 0x7f) := by
    decide +kernel
  have entry := table second.toNat second.toNat_lt
  rwa [UInt8.ofNat_toNat] at entry

theorem sources_lt (first : Byte) : (first &&& 0x0f).toNat < 16 := by
  rw [UInt8.toNat_and]
  exact Nat.and_lt_two_pow _ (show (0x0f : Byte).toNat < 2 ^ 4 by decide)

/-! ## Splitting an accepted packet -/

/-- The extension is split off, when the parser finds its end. -/
theorem split_extension {front rest : List Byte} {offset : ℕ}
    (found : behindExtension (front ++ rest) front.length = some offset) :
    ∃ (extension : Option Extension) (behind : List Byte),
      extension.isSome = ((front ++ rest).getD 0 0 &&& 0x10 != 0) ∧
        rest = extensionBytes extension ++ behind ∧
          offset = front.length + (extensionBytes extension).length := by
  rw [behindExtension] at found
  by_cases bit : (front ++ rest).getD 0 0 &&& 0x10 ≠ 0
  · rw [if_pos bit, List.length_append] at found
    split at found
    · exact absurd found (Option.some_ne_none offset).symm
    · rename_i holds
      obtain ⟨profile, rest, rfl⟩ := split_be16 (show 2 ≤ rest.length by omega)
      rw [List.length_append, length_be16] at holds
      obtain ⟨count, rest, rfl⟩ := split_be16 (show 2 ≤ rest.length by omega)
      have high : (front ++ (be16 profile.toNat ++ (be16 count.toNat ++ rest))).getD
          (front.length + 2) 0 = UInt8.ofNat (count.toNat / 2 ^ 8) := by
        rw [getD_length_add]
        rfl
      have low : (front ++ (be16 profile.toNat ++ (be16 count.toNat ++ rest))).getD
          (front.length + 3) 0 = UInt8.ofNat count.toNat := by
        rw [getD_length_add]
        rfl
      simp only [high, low, be16_joinNat count.toNat_lt] at found
      split at found
      · exact absurd found (Option.some_ne_none offset).symm
      · rename_i whole
        simp only [List.length_append, length_be16] at whole
        obtain ⟨words, behind, length, rfl⟩ :=
          split_words count.toNat (show count.toNat * 4 ≤ rest.length by omega)
        refine ⟨some ⟨profile, words, by rw [length]; exact count.toNat_lt⟩, behind, ?_, ?_, ?_⟩
        · rw [Option.isSome_some, bne_iff_ne.mpr bit]
        · simp only [extensionBytes, length, List.append_assoc]
        · rw [← Option.some.inj found]
          simp only [extensionBytes, List.length_append, length_be16, length_wordsBytes, length]
  · rw [if_neg bit] at found
    refine ⟨none, rest, ?_, rfl, (Option.some.inj found).symm⟩
    rw [not_not] at bit
    rw [bit]
    rfl

/-- The padding is split off the end, when the parser accepts its count. -/
theorem split_padding {before behind : List Byte}
    (accepted : padding (before ++ behind) = true →
      pad (before ++ behind) ≠ 0 ∧
        before.length + (pad (before ++ behind)).toNat ≤ (before ++ behind).length) :
    ∃ (filled : Option Padding) (payload : List Byte),
      filled.isSome = padding (before ++ behind) ∧ behind = payload ++ paddingBytes filled := by
  cases bit : padding (before ++ behind) with
  | false => exact ⟨none, behind, rfl, (List.append_nil behind).symm⟩
  | true =>
      obtain ⟨positive, fits⟩ := accepted bit
      have small := (pad (before ++ behind)).toNat_lt
      have positive : 0 < (pad (before ++ behind)).toNat :=
        Nat.pos_of_ne_zero fun zero => positive (UInt8.toNat_inj.mp zero)
      rw [List.length_append] at fits
      obtain ⟨front, last, rfl⟩ : ∃ front last, behind = front ++ [last] := by
        have some : behind ≠ [] := List.ne_nil_of_length_pos (by omega)
        exact ⟨_, _, (List.dropLast_append_getLast some).symm⟩
      rw [← List.append_assoc, pad_concat] at fits small positive
      rw [List.length_append, List.length_singleton] at fits
      let keep := front.length + 1 - last.toNat
      refine ⟨some ⟨front.drop keep, ?_⟩, front.take keep, rfl, ?_⟩
      · rw [List.length_drop]
        omega
      · have count : (front.drop keep).length + 1 = last.toNat := by
          rw [List.length_drop]
          omega
        rw [paddingBytes, count, UInt8.ofNat_toNat, ← List.append_assoc,
          List.take_append_drop]

/-- What the parser has checked of a packet it accepts. -/
theorem checked_of_parseRtp {data : List Byte} {header : RtpHeader}
    (accepted : parseRtp data = some header) :
    (data.getD 0 0 >>> 6) &&& 0x03 = 2 ∧
      rtpHeaderSize + (data.getD 0 0 &&& 0x0f).toNat * 4 ≤ data.length ∧
      ∃ offset,
        behindExtension data (rtpHeaderSize + (data.getD 0 0 &&& 0x0f).toNat * 4) = some offset ∧
          (padding data = true → pad data ≠ 0 ∧ offset + (pad data).toNat ≤ data.length) := by
  rw [parseRtp] at accepted
  split at accepted
  · exact absurd accepted (Option.some_ne_none header).symm
  · split at accepted
    · exact absurd accepted (Option.some_ne_none header).symm
    · rename_i version
      simp only at accepted
      split at accepted
      · exact absurd accepted (Option.some_ne_none header).symm
      · rename_i long
        split at accepted
        · exact absurd accepted (Option.some_ne_none header).symm
        · rename_i offset found
          split at accepted
          · exact absurd accepted (Option.some_ne_none header).symm
          · rename_i padded
            refine ⟨not_not.mp version, not_lt.mp long, offset, found, fun bit => ?_⟩
            have right := not_or.mp (fun wrong => padded ⟨bit, wrong⟩)
            exact ⟨right.1, not_lt.mp right.2⟩

/-- **An accepted packet is made by a sender.** -/
theorem exists_dressing {data : List Byte} {header : RtpHeader}
    (accepted : parseRtp data = some header) :
    ∃ (dressing : Dressing) (sequence : UInt16) (payload : List Byte),
      data = dressing.bytes sequence payload := by
  obtain ⟨version, long, offset, found, padded⟩ := checked_of_parseRtp accepted
  -- The fixed header and the sources, one part behind the other.
  obtain ⟨first, second, rest, rfl⟩ : ∃ first second rest, data = first :: second :: rest := by
    match data, long with
    | first :: second :: rest, _ => exact ⟨_, _, _, rfl⟩
  rw [List.getD_cons_zero] at version long found
  simp only [List.length_cons, rtpHeaderSize] at long
  obtain ⟨sequence, rest, rfl⟩ := split_be16 (show 2 ≤ rest.length by omega)
  rw [List.length_append, length_be16] at long
  obtain ⟨timestamp, rest, rfl⟩ := split_be32 (show 4 ≤ rest.length by omega)
  rw [List.length_append, length_be32] at long
  obtain ⟨ssrc, rest, rfl⟩ := split_be32 (show 4 ≤ rest.length by omega)
  rw [List.length_append, length_be32] at long
  obtain ⟨csrcs, rest, count, rfl⟩ := split_words (first &&& 0x0f).toNat
    (show (first &&& 0x0f).toNat * 4 ≤ rest.length by omega)
  let front := first :: second :: (be16 sequence.toNat ++ be32 timestamp.toNat ++
    be32 ssrc.toNat ++ wordsBytes csrcs)
  have split : first :: second :: (be16 sequence.toNat ++ (be32 timestamp.toNat ++
      (be32 ssrc.toNat ++ (wordsBytes csrcs ++ rest)))) = front ++ rest := by
    simp only [front, List.cons_append, List.append_assoc]
  have front_length : rtpHeaderSize + (first &&& 0x0f).toNat * 4 = front.length := by
    simp only [front, List.length_cons, List.length_append, length_be16, length_be32,
      length_wordsBytes, count, rtpHeaderSize]
    omega
  rw [split, front_length] at found
  rw [split] at padded ⊢
  -- The extension in front, and the padding behind.
  obtain ⟨extension, behind, extended, rfl, rfl⟩ := split_extension found
  rw [← List.append_assoc, ← List.length_append] at padded
  obtain ⟨filled, payload, filling, rfl⟩ := split_padding padded
  obtain ⟨small, second_eq⟩ := eq_secondByte second
  let dressing : Dressing :=
    { payloadType := second &&& 0x7f
      payloadType_lt := small
      marker := second &&& 0x80 != 0
      timestamp := timestamp
      ssrc := ssrc
      csrcs := csrcs
      csrcs_lt := by rw [count]; exact sources_lt first
      extension := extension
      padding := filled }
  refine ⟨dressing, sequence, payload, ?_⟩
  have first_eq : firstByte filled.isSome extension.isSome csrcs.length = first := by
    rw [filling, extended, count]
    exact (eq_firstByte version).symm
  have front_eq : dressing.front sequence = front := by
    simp only [Dressing.front, dressing, front, first_eq, ← second_eq]
  rw [Dressing.bytes, front_eq]

/-- The bytes of padding the last byte counts. -/
def paddingCount (data : List Byte) : ℕ := if padding data then (pad data).toNat else 0

theorem paddingCount_bytes (dressing : Dressing) (sequence : UInt16) (payload : List Byte) :
    paddingCount (dressing.bytes sequence payload) = (paddingBytes dressing.padding).length := by
  rw [paddingCount, dressing.padding_bytes]
  cases padded : dressing.padding with
  | none => rfl
  | some filled =>
      rw [if_pos Option.isSome_some, dressing.pad_bytes sequence payload padded, padded]

/-! ## The bytes that are read -/

section Reads

variable {m : Type → Type} [Monad m]

/-- The extension in `ParseRtp`, over a reader of the packet's bytes. -/
def behindExtensionVia (read : ℕ → m Byte) (size : ℕ) (first : Byte) (offset : ℕ) :
    m (Option ℕ) :=
  if first &&& 0x10 ≠ 0 then
    if offset + 4 > size then pure none
    else do
      let high ← read (offset + 2)
      let low ← read (offset + 3)
      let extWords := high.toNat <<< 8 ||| low.toNat
      if offset + (4 + extWords * 4) > size then pure none
      else pure (some (offset + (4 + extWords * 4)))
  else pure (some offset)

/-- The padding in `ParseRtp`: whether it is refused. -/
def paddingRefusedVia (read : ℕ → m Byte) (size : ℕ) (first : Byte) (offset : ℕ) : m Bool :=
  if first &&& 0x20 != 0 then
    if size = 0 then pure true
    else do
      let pad ← read (size - 1)
      pure (pad = 0 ∨ offset + pad.toNat > size)
  else pure false

/-- `ParseRtp`, over a reader of the packet's bytes. -/
def parseRtpVia (read : ℕ → m Byte) (size : ℕ) : m (Option RtpHeader) :=
  if size < rtpHeaderSize then pure none
  else do
    let first ← read 0
    if (first >>> 6) &&& 0x03 ≠ 2 then pure none
    else
      let second ← read 1
      let sequenceHigh ← read 2
      let sequenceLow ← read 3
      let time0 ← read 4
      let time1 ← read 5
      let time2 ← read 6
      let time3 ← read 7
      let offset := rtpHeaderSize + (first &&& 0x0f).toNat * 4
      if offset > size then pure none
      else
        match ← behindExtensionVia read size first offset with
        | none => pure none
        | some offset =>
            if ← paddingRefusedVia read size first offset then pure none
            else
              pure (some
                { marker := second &&& 0x80 != 0
                  payloadType := second &&& 0x7f
                  sequence := sequenceHigh.toUInt16 <<< 8 ||| sequenceLow.toUInt16
                  timestamp :=
                    time0.toUInt32 <<< 24 ||| time1.toUInt32 <<< 16 ||| time2.toUInt32 <<< 8 |||
                      time3.toUInt32
                  payloadOffset := offset })

/-- `PayloadSize`, over a reader of the packet's bytes. -/
def payloadSizeVia (read : ℕ → m Byte) (size offset : ℕ) : m ℕ := do
  let first ← read 0
  let payloadEnd ←
    if first &&& 0x20 != 0 ∧ size > 0 then do
      let pad ← read (size - 1)
      pure (if pad > 0 ∧ offset + pad.toNat ≤ size then size - pad.toNat else size)
    else pure size
  pure (if payloadEnd > offset then payloadEnd - offset else 0)

variable [LawfulMonad m] {read : ℕ → m Byte} {data : List Byte}

/-- A reader that gives the bytes of a packet. Nothing is said about other places. -/
def Reads (read : ℕ → m Byte) (data : List Byte) : Prop :=
  ∀ index < data.length, read index = pure (data.getD index 0)

theorem Reads.behindExtension (reads : Reads read data) (offset : ℕ) :
    behindExtensionVia read data.length (data.getD 0 0) offset =
      pure (behindExtension data offset) := by
  rw [behindExtensionVia, Rtp.behindExtension]
  split
  · split
    · rfl
    · rename_i holds
      rw [reads (offset + 2) (by omega), reads (offset + 3) (by omega), pure_bind, pure_bind]
      simp only
      split <;> rfl
  · rfl

theorem Reads.paddingRefused (reads : Reads read data) (some : 0 < data.length) (offset : ℕ) :
    paddingRefusedVia read data.length (data.getD 0 0) offset =
      pure (decide (padding data ∧
        (pad data = 0 ∨ offset + (pad data).toNat > data.length))) := by
  rw [paddingRefusedVia, ← Rtp.padding]
  cases padding data with
  | false => rw [if_neg Bool.false_ne_true]; simp
  | true =>
      rw [if_pos rfl, if_neg (by omega), reads (data.length - 1) (by omega), pure_bind, ← pad]
      simp only [true_and]

/-- **No other byte matters to the parser.** -/
theorem Reads.parseRtp (reads : Reads read data) :
    parseRtpVia read data.length = pure (parseRtp data) := by
  rw [parseRtpVia, Rtp.parseRtp]
  split
  · rfl
  · rename_i long
    rw [rtpHeaderSize] at long
    rw [reads 0 (by omega), pure_bind]
    split
    · rfl
    · rw [reads 1 (by omega), reads 2 (by omega), reads 3 (by omega), reads 4 (by omega),
        reads 5 (by omega), reads 6 (by omega), reads 7 (by omega)]
      simp only [pure_bind]
      split
      · rfl
      · rw [reads.behindExtension, pure_bind]
        cases Rtp.behindExtension data _ with
        | none => rfl
        | some offset =>
            simp only [reads.paddingRefused (by omega), pure_bind, decide_eq_true_eq]
            split <;> rfl

/-- **No other byte matters to the size of the payload.** -/
theorem Reads.payloadSize (reads : Reads read data) (some : 0 < data.length) (offset : ℕ) :
    payloadSizeVia read data.length offset = pure (payloadSize data offset) := by
  rw [payloadSizeVia, reads 0 some, pure_bind, Rtp.payloadSize, payloadEnd, ← Rtp.padding]
  simp only
  split
  · rw [reads (data.length - 1) (by omega), pure_bind, pure_bind, ← pad]
  · rw [pure_bind]

end Reads

/-- A reader that fails outside the packet. -/
theorem reads_getElem? (data : List Byte) : Reads (fun index => data[index]?) data := by
  intro index inside
  change data[index]? = some (data.getD index 0)
  rw [List.getElem?_eq_getElem inside, List.getD_eq_getElem _ _ inside]

/-- **The parser accepts the packets a sender makes, and no others.** It finds the sender's fields
and payload, nothing of the packet is left over besides the padding, and neither function reads
outside the packet. -/
theorem parseRtp_exact (data : List Byte) :
    parseRtpVia (fun index => data[index]?) data.length = some (parseRtp data) ∧
      (∀ header, parseRtp data = some header ↔
        ∃ (dressing : Dressing) (sequence : UInt16) (carried : List Byte),
          data = dressing.bytes sequence carried ∧ header = dressing.header sequence ∧
            payload data header = carried) ∧
      ∀ header, parseRtp data = some header →
        payloadSizeVia (fun index => data[index]?) data.length header.payloadOffset =
            some (payloadSize data header.payloadOffset) ∧
          header.payloadOffset + payloadSize data header.payloadOffset + paddingCount data =
            data.length := by
  refine ⟨(reads_getElem? data).parseRtp, fun header => ⟨fun accepted => ?_, ?_⟩,
    fun header accepted => ?_⟩
  · obtain ⟨dressing, sequence, carried, rfl⟩ := exists_dressing accepted
    rw [dressing.parseRtp_bytes] at accepted
    obtain rfl := Option.some.inj accepted
    exact ⟨dressing, sequence, carried, rfl, rfl, dressing.payload_bytes sequence carried⟩
  · rintro ⟨dressing, sequence, carried, rfl, rfl, -⟩
    exact dressing.parseRtp_bytes sequence carried
  · obtain ⟨dressing, sequence, carried, rfl⟩ := exists_dressing accepted
    rw [dressing.parseRtp_bytes] at accepted
    obtain rfl := Option.some.inj accepted
    have some : 0 < (dressing.bytes sequence carried).length := Nat.succ_pos _
    refine ⟨(reads_getElem? _).payloadSize some _, ?_⟩
    rw [dressing.payloadSize_bytes, paddingCount_bytes, dressing.length_bytes]

/-- A packet with a source, an extension of one word and two bytes of padding. -/
def samplePacket : List Byte :=
  [0xb1, 96, 0, 1, 0, 0, 0, 1, 0xde, 0xad, 0xbe, 0xef, 0x11, 0x22, 0x33, 0x44,
    0xbe, 0xde, 0, 1, 0, 0, 0, 0, 0x65, 0xaa, 0, 2]

theorem parseRtp_exact_sample :
    ∃ header, parseRtp samplePacket = some header ∧
      header.payloadOffset + payloadSize samplePacket header.payloadOffset +
        paddingCount samplePacket = samplePacket.length := by
  have accepted : parseRtp samplePacket =
      some { payloadType := 96, sequence := 1, timestamp := 1, payloadOffset := 24 } := by decide
  exact ⟨_, accepted, ((parseRtp_exact samplePacket).2.2 _ accepted).2⟩

end Rtp

end MobileGs
