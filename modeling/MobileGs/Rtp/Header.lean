import Mathlib.Data.List.GetD
import MobileGs.Foundations.BigEndian

/-!
# RTP headers

`ParseRtp` reads the fixed header, the CSRC list, an extension and the padding count, and
finds where the payload starts. `PayloadSize` subtracts the padding.

A `Dressing` is everything a sender puts around a payload. The packet it makes is parsed
back to its fields (`parseRtp_bytes`) and its payload is found (`payload_bytes`), whatever
sources, extension and padding it carries.
-/

set_option autoImplicit false

namespace MobileGs

namespace Rtp

def rtpHeaderSize : ℕ := 12

/-- `RtpHeader`. -/
structure RtpHeader where
  payloadType : Byte := 0
  sequence : UInt16 := 0
  timestamp : UInt32 := 0
  marker : Bool := false
  payloadOffset : ℕ := 0
  deriving DecidableEq, Repr

/-- The offset behind the extension, if the packet has none or holds it whole. -/
def behindExtension (data : List Byte) (offset : ℕ) : Option ℕ :=
  if data.getD 0 0 &&& 0x10 ≠ 0 then
    if offset + 4 > data.length then none
    else
      let extWords := (data.getD (offset + 2) 0).toNat <<< 8 ||| (data.getD (offset + 3) 0).toNat
      if offset + (4 + extWords * 4) > data.length then none
      else some (offset + (4 + extWords * 4))
  else some offset

/-- The padding bit of the first byte. -/
def padding (data : List Byte) : Bool := data.getD 0 0 &&& 0x20 != 0

/-- The padding count, which is the last byte. -/
def pad (data : List Byte) : Byte := data.getD (data.length - 1) 0

/-- `ParseRtp`. -/
def parseRtp (data : List Byte) : Option RtpHeader :=
  if data.length < rtpHeaderSize then none
  else if (data.getD 0 0 >>> 6) &&& 0x03 ≠ 2 then none
  else
    let csrcCount := data.getD 0 0 &&& 0x0f
    if rtpHeaderSize + csrcCount.toNat * 4 > data.length then none
    else
      match behindExtension data (rtpHeaderSize + csrcCount.toNat * 4) with
      | none => none
      | some offset =>
          if padding data ∧ (pad data = 0 ∨ offset + (pad data).toNat > data.length) then none
          else
            some
              { marker := data.getD 1 0 &&& 0x80 != 0
                payloadType := data.getD 1 0 &&& 0x7f
                sequence := (data.getD 2 0).toUInt16 <<< 8 ||| (data.getD 3 0).toUInt16
                timestamp :=
                  (data.getD 4 0).toUInt32 <<< 24 ||| (data.getD 5 0).toUInt32 <<< 16 |||
                    (data.getD 6 0).toUInt32 <<< 8 ||| (data.getD 7 0).toUInt32
                payloadOffset := offset }

/-- `end` in `PayloadSize`. -/
def payloadEnd (data : List Byte) (offset : ℕ) : ℕ :=
  if padding data ∧ data.length > 0 then
    if pad data > 0 ∧ offset + (pad data).toNat ≤ data.length then
      data.length - (pad data).toNat
    else data.length
  else data.length

/-- `PayloadSize`. -/
def payloadSize (data : List Byte) (offset : ℕ) : ℕ :=
  if payloadEnd data offset > offset then payloadEnd data offset - offset else 0

/-- The bytes of the payload of a packet with a parsed header. -/
def payload (data : List Byte) (header : RtpHeader) : List Byte :=
  (data.drop header.payloadOffset).take (payloadSize data header.payloadOffset)

/-! ## What a sender puts around a payload -/

/-- A header extension. -/
structure Extension where
  profile : UInt16
  words : List UInt32
  words_lt : words.length < 2 ^ 16

/-- Padding: some filler and the count of all padding bytes. -/
structure Padding where
  filler : List Byte
  filler_lt : filler.length < 255

/-- The fields of a packet other than its sequence number and its payload. -/
structure Dressing where
  payloadType : Byte
  payloadType_lt : payloadType < 128
  marker : Bool
  timestamp : UInt32
  ssrc : UInt32
  csrcs : List UInt32
  csrcs_lt : csrcs.length < 16
  extension : Option Extension
  padding : Option Padding

/-- A header of 12 bytes. -/
def Dressing.plain (timestamp : UInt32) (marker : Bool) : Dressing where
  payloadType := 96
  payloadType_lt := by decide
  marker := marker
  timestamp := timestamp
  ssrc := 0
  csrcs := []
  csrcs_lt := by decide
  extension := none
  padding := none

/-- Version 2, the padding and extension bits and the number of contributing sources. -/
def firstByte (padded extended : Bool) (sources : ℕ) : Byte :=
  0x80 ||| (if padded then 0x20 else 0) ||| (if extended then 0x10 else 0) ||| UInt8.ofNat sources

/-- The marker bit and the payload type. -/
def secondByte (marker : Bool) (payloadType : Byte) : Byte :=
  (if marker then 0x80 else 0) ||| payloadType

def wordsBytes (words : List UInt32) : List Byte := words.flatMap fun word => be32 word.toNat

def extensionBytes : Option Extension → List Byte
  | none => []
  | some extension =>
      be16 extension.profile.toNat ++ be16 extension.words.length ++ wordsBytes extension.words

def paddingBytes : Option Padding → List Byte
  | none => []
  | some padding => padding.filler ++ [UInt8.ofNat (padding.filler.length + 1)]

namespace Dressing

/-- Everything in front of the extension. -/
def front (dressing : Dressing) (sequence : UInt16) : List Byte :=
  firstByte dressing.padding.isSome dressing.extension.isSome dressing.csrcs.length ::
    secondByte dressing.marker dressing.payloadType ::
      (be16 sequence.toNat ++ be32 dressing.timestamp.toNat ++ be32 dressing.ssrc.toNat ++
        wordsBytes dressing.csrcs)

/-- The packet. -/
def bytes (dressing : Dressing) (sequence : UInt16) (payload : List Byte) : List Byte :=
  dressing.front sequence ++
    (extensionBytes dressing.extension ++ (payload ++ paddingBytes dressing.padding))

/-- The header a reader should find. -/
def header (dressing : Dressing) (sequence : UInt16) : RtpHeader where
  payloadType := dressing.payloadType
  sequence := sequence
  timestamp := dressing.timestamp
  marker := dressing.marker
  payloadOffset := (dressing.front sequence ++ extensionBytes dressing.extension).length

end Dressing

/-! ## Reading the packet back -/

theorem firstByte_version (padded extended : Bool) {sources : ℕ} (few : sources < 16) :
    (firstByte padded extended sources >>> 6) &&& 0x03 = 2 := by
  revert padded extended sources
  decide

theorem firstByte_sources (padded extended : Bool) {sources : ℕ} (few : sources < 16) :
    (firstByte padded extended sources &&& 0x0f).toNat = sources := by
  revert padded extended sources
  decide

theorem firstByte_padded (padded extended : Bool) {sources : ℕ} (few : sources < 16) :
    (firstByte padded extended sources &&& 0x20 != 0) = padded := by
  revert padded extended sources
  decide

theorem firstByte_extended (padded extended : Bool) {sources : ℕ} (few : sources < 16) :
    firstByte padded extended sources &&& 0x10 ≠ 0 ↔ extended = true := by
  revert padded extended sources
  decide

theorem secondByte_fields (marker : Bool) {payloadType : Byte} (small : payloadType < 128) :
    (secondByte marker payloadType &&& 0x80 != 0) = marker ∧
      secondByte marker payloadType &&& 0x7f = payloadType := by
  have table : ∀ marker : Bool, ∀ n < 128,
      (secondByte marker (UInt8.ofNat n) &&& 0x80 != 0) = marker ∧
        secondByte marker (UInt8.ofNat n) &&& 0x7f = UInt8.ofNat n := by decide
  have entry := table marker payloadType.toNat small
  rwa [UInt8.ofNat_toNat] at entry

theorem length_wordsBytes (words : List UInt32) :
    (wordsBytes words).length = words.length * 4 := by
  induction words with
  | nil => rfl
  | cons word rest ih =>
      rw [wordsBytes, List.flatMap_cons, List.length_append, length_be32, ← wordsBytes, ih,
        List.length_cons]
      omega

theorem getD_length_add (first later : List Byte) (offset : ℕ) (default : Byte) :
    (first ++ later).getD (first.length + offset) default = later.getD offset default := by
  rw [List.getD_append_right _ _ _ _ (Nat.le_add_right _ _), Nat.add_sub_cancel_left]

theorem pad_concat (first : List Byte) (last : Byte) : pad (first ++ [last]) = last := by
  rw [pad, List.length_append, List.length_singleton, Nat.add_sub_cancel]
  exact getD_length_add first [last] 0 0

namespace Dressing

variable (dressing : Dressing) (sequence : UInt16) (payload : List Byte)

theorem length_front :
    (dressing.front sequence).length = rtpHeaderSize + dressing.csrcs.length * 4 := by
  simp only [front, List.length_cons, List.length_append, length_be16, length_be32,
    length_wordsBytes, rtpHeaderSize]
  omega

theorem first_bytes :
    (dressing.bytes sequence payload).getD 0 0 =
      firstByte dressing.padding.isSome dressing.extension.isSome dressing.csrcs.length := rfl

/-- The extension is skipped, whatever it holds. -/
theorem behindExtension_bytes :
    behindExtension (dressing.bytes sequence payload)
        (rtpHeaderSize + dressing.csrcs.length * 4) =
      some (dressing.header sequence).payloadOffset := by
  have bit := firstByte_extended dressing.padding.isSome dressing.extension.isSome
    dressing.csrcs_lt
  rw [behindExtension, first_bytes, ← dressing.length_front sequence]
  simp only [bit, header, bytes, getD_length_add, List.length_append]
  cases dressing.extension with
  | none => simp [extensionBytes]
  | some extension =>
      have words := be16_joinNat extension.words_lt
      have length : (extensionBytes (some extension)).length =
          4 + extension.words.length * 4 := by
        simp only [extensionBytes, List.length_append, length_be16, length_wordsBytes]
      have high : (extensionBytes (some extension) ++
          (payload ++ paddingBytes dressing.padding)).getD 2 0 =
            UInt8.ofNat (extension.words.length / 2 ^ 8) := rfl
      have low : (extensionBytes (some extension) ++
          (payload ++ paddingBytes dressing.padding)).getD 3 0 =
            UInt8.ofNat extension.words.length := rfl
      rw [if_pos Option.isSome_some, if_neg (by omega), high, low, words, length,
        if_neg (by omega)]

theorem padding_bytes : Rtp.padding (dressing.bytes sequence payload) = dressing.padding.isSome :=
  firstByte_padded _ _ dressing.csrcs_lt

/-- The last byte of a padded packet counts the padding. -/
theorem pad_bytes {filled : Padding} (padded : dressing.padding = some filled) :
    (pad (dressing.bytes sequence payload)).toNat = (paddingBytes dressing.padding).length := by
  have small := filled.filler_lt
  rw [bytes, padded]
  simp only [paddingBytes, ← List.append_assoc, List.length_append, List.length_singleton]
  rw [pad_concat, UInt8.toNat_ofNat', Nat.mod_eq_of_lt (by omega)]

theorem length_bytes :
    (dressing.bytes sequence payload).length =
      (dressing.header sequence).payloadOffset + payload.length +
        (paddingBytes dressing.padding).length := by
  simp only [bytes, header, List.length_append, Nat.add_assoc]

/-- The padding is there and fits behind the payload. -/
theorem padding_fits (padded : dressing.padding.isSome = true) :
    0 < (pad (dressing.bytes sequence payload)).toNat ∧
      (dressing.header sequence).payloadOffset +
          (pad (dressing.bytes sequence payload)).toNat ≤
        (dressing.bytes sequence payload).length := by
  obtain ⟨filled, some⟩ := Option.isSome_iff_exists.mp padded
  rw [dressing.pad_bytes sequence payload some, length_bytes, some]
  simp only [paddingBytes, List.length_append, List.length_singleton]
  omega

/-- **A packet is parsed back to its fields.** -/
theorem parseRtp_bytes :
    parseRtp (dressing.bytes sequence payload) = some (dressing.header sequence) := by
  have fields := secondByte_fields dressing.marker dressing.payloadType_lt
  have long : rtpHeaderSize + dressing.csrcs.length * 4 ≤
      (dressing.bytes sequence payload).length := by
    rw [bytes, List.length_append, length_front]
    omega
  have padded : ¬ (Rtp.padding (dressing.bytes sequence payload) = true ∧
      (pad (dressing.bytes sequence payload) = 0 ∨
        (dressing.header sequence).payloadOffset +
            (pad (dressing.bytes sequence payload)).toNat >
          (dressing.bytes sequence payload).length)) := by
    rintro ⟨bit, wrong⟩
    rw [padding_bytes] at bit
    obtain ⟨positive, fits⟩ := dressing.padding_fits sequence payload bit
    rcases wrong with zero | long
    · rw [zero] at positive
      exact absurd positive (by decide)
    · omega
  have number : ((dressing.bytes sequence payload).getD 2 0).toUInt16 <<< 8 |||
      ((dressing.bytes sequence payload).getD 3 0).toUInt16 = sequence := be16_join sequence
  have time : ((dressing.bytes sequence payload).getD 4 0).toUInt32 <<< 24 |||
      ((dressing.bytes sequence payload).getD 5 0).toUInt32 <<< 16 |||
      ((dressing.bytes sequence payload).getD 6 0).toUInt32 <<< 8 |||
      ((dressing.bytes sequence payload).getD 7 0).toUInt32 = dressing.timestamp :=
    be32_join dressing.timestamp
  have second : (dressing.bytes sequence payload).getD 1 0 =
      secondByte dressing.marker dressing.payloadType := rfl
  rw [parseRtp, if_neg (by omega), first_bytes,
    if_neg (not_not.mpr (firstByte_version _ _ dressing.csrcs_lt))]
  simp only [firstByte_sources _ _ dressing.csrcs_lt, behindExtension_bytes]
  rw [if_neg (by omega), if_neg padded, number, time, second, fields.1, fields.2]
  rfl

/-- The payload ends where the padding starts. -/
theorem payloadEnd_bytes :
    payloadEnd (dressing.bytes sequence payload) (dressing.header sequence).payloadOffset =
      (dressing.header sequence).payloadOffset + payload.length := by
  have total := dressing.length_bytes sequence payload
  rw [payloadEnd, padding_bytes]
  cases padded : dressing.padding with
  | none =>
      rw [padded, paddingBytes, List.length_nil] at total
      rw [if_neg (fun both => Bool.false_ne_true both.1), total, Nat.add_zero]
  | some filled =>
      have isSome : dressing.padding.isSome = true := by rw [padded]; rfl
      obtain ⟨positive, fits⟩ := dressing.padding_fits sequence payload isSome
      have count := dressing.pad_bytes sequence payload padded
      rw [if_pos ⟨Option.isSome_some, by omega⟩, if_pos ⟨positive, fits⟩]
      omega

theorem payloadSize_bytes :
    payloadSize (dressing.bytes sequence payload) (dressing.header sequence).payloadOffset =
      payload.length := by
  rw [payloadSize, payloadEnd_bytes]
  split <;> omega

/-- **The payload of a packet is found.** -/
theorem payload_bytes :
    Rtp.payload (dressing.bytes sequence payload) (dressing.header sequence) = payload := by
  have split : dressing.bytes sequence payload =
      (dressing.front sequence ++ extensionBytes dressing.extension) ++
        (payload ++ paddingBytes dressing.padding) := by
    rw [bytes, List.append_assoc]
  have found : (dressing.bytes sequence payload).drop (dressing.header sequence).payloadOffset =
      payload ++ paddingBytes dressing.padding := by
    rw [split]
    exact List.drop_left
  rw [Rtp.payload, payloadSize_bytes, found]
  exact List.take_left

end Dressing

end Rtp

end MobileGs
