import MobileGs.Alink.Conversions
import MobileGs.Alink.Requests

/-!
# Datagrams read back

What the air unit does with a datagram: it takes the message off its length (`readFrame`) and reads
the numbers between the colons (`readMessage`). Printed numbers are read back
(`readDecimal_decimal`), so a message that was framed says what the snapshot and the result say.

Two of the numbers are counters of 32 bits without a sign, and they are printed as an `int`, as is
the penalty. What does not fit one is read back as another number, whatever the conversion makes of
it. So a datagram says what it should exactly when all three of them fit (`reads_iff`). The penalty
does under weights of a mean and a deduction that is a part of the whole (`penaltyFits`).
-/

set_option autoImplicit false

namespace MobileGs

namespace Alink

open Wfb Binary64

/-! ## Numbers -/

def readDigits (digits : List Char) : Option ℕ :=
  if digits ≠ [] ∧ digits.all Char.isDigit = true then some (Nat.ofDigitChars 10 digits 0)
  else none

/-- Digits, with a sign in front of them or none. -/
def readDecimal (field : List Char) : Option ℤ :=
  if field.head? = some '-' then (readDigits field.tail).map fun n : ℕ => -(n : ℤ)
  else (readDigits field).map fun n : ℕ => (n : ℤ)

theorem readDigits_toDigits (n : ℕ) : readDigits (Nat.toDigits 10 n) = some n := by
  have digits : (Nat.toDigits 10 n).all Char.isDigit = true :=
    List.all_eq_true.mpr fun _ member =>
      Nat.isDigit_of_mem_toDigits (by decide) (by decide) member
  rw [readDigits, if_pos ⟨Nat.toDigits_ne_nil, digits⟩, Nat.ofDigitChars_ten_toDigits]

theorem head?_toDigits (n : ℕ) : (Nat.toDigits 10 n).head? ≠ some '-' := by
  intro sign
  have digit := Nat.isDigit_of_mem_toDigits (by decide) (by decide) (List.mem_of_head? sign)
  exact absurd digit (by decide)

/-- **A printed number is read back.** -/
theorem readDecimal_decimal (value : ℤ) : readDecimal (decimal value) = some value := by
  rw [readDecimal, decimal]
  split
  · rename_i negative
    rw [if_pos List.head?_cons, List.tail_cons, readDigits_toDigits, Option.map_some]
    congr 1
    omega
  · rw [if_neg (head?_toDigits _), readDigits_toDigits, Option.map_some]
    congr 1
    omega

/-! ## Frames -/

/-- The message behind a big-endian length, and what follows it. -/
def readFrame : List Byte → Option (List Char × List Byte)
  | first :: second :: third :: fourth :: rest =>
      let size := beNat [first, second, third, fourth]
      if size ≤ rest.length then
        some ((rest.take size).map fun byte => Char.ofNat byte.toNat, rest.drop size)
      else none
  | _ => none

theorem ofNat_toNat_byte {char : Char} (ascii : char.toNat < 128) :
    Char.ofNat (UInt8.ofNat char.toNat).toNat = char := by
  rw [UInt8.toNat_ofNat_of_lt' (by rw [UInt8.size]; omega), Char.ofNat_toNat]

/-- **A framed message is read back**, and nothing is left of the frame. -/
theorem readFrame_frame {message : List Char} (short : message.length < 2 ^ 32)
    (ascii : ∀ char ∈ message, char.toNat < 128) :
    readFrame (frame message) = some (message, []) := by
  have size := beNat_be32 short
  have same : (message.map fun char => UInt8.ofNat char.toNat).map
      (fun byte => Char.ofNat byte.toNat) = message := by
    rw [List.map_map]
    calc message.map _ = message.map id :=
          List.map_congr_left fun char member => ofNat_toNat_byte (ascii char member)
      _ = message := List.map_id message
  rw [frame, be32, be16, be16]
  simp only [List.cons_append, List.nil_append, readFrame]
  rw [be32, be16, be16] at size
  simp only [List.cons_append, List.nil_append] at size
  rw [size, List.length_map, if_pos (le_refl _), List.take_of_length_le (by simp), same,
    List.drop_of_length_le (by simp)]

/-! ## Messages -/

/-- What a message says. -/
structure WireMessage where
  unixTimeS : ℤ
  score : ℤ
  scoreAgain : ℤ
  recovered : ℤ
  lost : ℤ
  bestRssi : ℤ
  bestSnr : ℤ
  numAntennas : ℤ
  penalty : ℤ
  fecChange : ℤ
  idrCode : List Char
  deriving DecidableEq

/-- What stands behind the numbers: nothing, or the code of a request. -/
def readRequest : List (List Char) → Option (List Char)
  | [] => some []
  | [code] => some code
  | _ => none

/-- Ten numbers, and what stands behind them. -/
def readFields : List (List Char) → Option WireMessage
  | unixTimeS :: score :: scoreAgain :: recovered :: lost :: bestRssi :: bestSnr :: numAntennas ::
      penalty :: fecChange :: request => do
      return {
        unixTimeS := ← readDecimal unixTimeS
        score := ← readDecimal score
        scoreAgain := ← readDecimal scoreAgain
        recovered := ← readDecimal recovered
        lost := ← readDecimal lost
        bestRssi := ← readDecimal bestRssi
        bestSnr := ← readDecimal bestSnr
        numAntennas := ← readDecimal numAntennas
        penalty := ← readDecimal penalty
        fecChange := ← readDecimal fecChange
        idrCode := ← readRequest request }
  | _ => none

def readMessage (message : List Char) : Option WireMessage := readFields (fieldsOf message)

/-! ## Characters -/

/-- Every character of a field is one byte on the wire. -/
def Ascii (field : List Char) : Prop := ∀ char ∈ field, char.toNat < 128

theorem ascii_digits (n : ℕ) : Ascii (Nat.toDigits 10 n) := by
  intro char member
  have digit := Nat.isDigit_of_mem_toDigits (by decide) (by decide) member
  exact Nat.lt_of_le_of_lt (Char.isDigit_iff_toNat.mp digit).2 (by decide)

theorem ascii_decimal (value : ℤ) : Ascii (decimal value) := by
  rw [decimal]
  split
  · rintro char (_ | ⟨_, digit⟩)
    · decide
    · exact ascii_digits _ char digit
  · exact ascii_digits _

theorem IdrCode.ascii (code : IdrCode) : Ascii code.letters := by
  intro char member
  have lower : (decide (char.val ≥ 'a'.val) && decide (char.val ≤ 'z'.val)) = true :=
    List.all_eq_true.mp code.lowercase char member
  rw [Bool.and_eq_true, decide_eq_true_eq, decide_eq_true_eq] at lower
  exact Nat.lt_of_le_of_lt (UInt32.le_iff_toNat_le.mp lower.2) (by decide)

theorem ascii_intercalate {fields : List (List Char)} (ascii : ∀ field ∈ fields, Ascii field) :
    Ascii (List.intercalate [':'] fields) := by
  induction fields with
  | nil => exact fun _ none => absurd none List.not_mem_nil
  | cons field rest ih =>
      have head := ascii field List.mem_cons_self
      have tail := ih fun other among => ascii other (List.mem_cons_of_mem _ among)
      cases rest with
      | nil => rwa [List.intercalate_singleton]
      | cons second rest =>
          rw [List.intercalate_cons_cons]
          intro char member
          rcases List.mem_append.mp member with front | later
          · rcases List.mem_append.mp front with inside | colon
            · exact head char inside
            · rw [List.mem_singleton.mp colon]
              decide
          · exact tail char later

/-! ## Codes -/

/-- There is no code, or it is one that was drawn. -/
def Drawn (code : List Char) : Prop := code = [] ∨ ∃ idr : IdrCode, code = idr.letters

theorem Drawn.colon_notMem {code : List Char} (drawn : Drawn code) : ':' ∉ code := by
  rcases drawn with rfl | ⟨idr, rfl⟩
  · exact List.not_mem_nil
  · exact idr.colon_notMem

theorem Drawn.ascii {code : List Char} (drawn : Drawn code) : Ascii code := by
  rcases drawn with rfl | ⟨idr, rfl⟩
  · exact fun _ none => absurd none List.not_mem_nil
  · exact idr.ascii

theorem Drawn.length_le {code : List Char} (drawn : Drawn code) : code.length ≤ 4 := by
  rcases drawn with rfl | ⟨idr, rfl⟩
  · exact Nat.zero_le 4
  · exact idr.length_eq.le

section Requests

variable {R : Type} [Neg R] [OfScientific R]

theorem AlinkController.drawn_requestIdr {controller : AlinkController R}
    (drawn : Drawn controller.idrCode) (call : Call) :
    Drawn (controller.requestIdr call.snapshot call.drawn).idrCode := by
  unfold requestIdr
  split
  · exact .inr ⟨call.drawn, rfl⟩
  · exact drawn

theorem AlinkController.drawn_repeatIdr {controller : AlinkController R}
    (drawn : Drawn controller.idrCode) :
    Drawn controller.repeatIdr.1.idrCode ∧ Drawn controller.repeatIdr.2 := by
  unfold repeatIdr
  split
  · refine ⟨?_, drawn⟩
    dsimp only
    split
    · exact .inl rfl
    · exact drawn
  · exact ⟨drawn, .inl rfl⟩

end Requests

/-! ## Fields -/

section Fields

variable {R : Type} [NatCast R]

/-- Printed numbers are read back, whatever stands behind them. -/
theorem readFields_messageFields (libm : Libm R) (snapshot : LinkSnapshot) (unixTimeS : UInt64)
    (score change : Int32) (penalty : R) (request : List (List Char)) :
    readFields (messageFields libm snapshot unixTimeS score penalty change ++ request) =
      (readRequest request).map fun idrCode =>
        { unixTimeS := unixTimeS.toNat
          score := score.toInt
          scoreAgain := score.toInt
          recovered := (libm.toInt (snapshot.packetsFecRecovered : R)).toInt
          lost := (libm.toInt (snapshot.packetsLost : R)).toInt
          bestRssi := snapshot.bestRssi.toInt
          bestSnr := snapshot.bestSnr.toInt
          numAntennas := snapshot.numAntennas.toInt
          penalty := (libm.toInt penalty).toInt
          fecChange := change.toInt
          idrCode } := by
  simp only [messageFields, List.cons_append, List.nil_append, readFields, readDecimal_decimal]
  cases readRequest request with
  | none => rfl
  | some idrCode => rfl

end Fields

/-! ## What a datagram says -/

variable {R : Type} [Add R] [Sub R] [Mul R] [Div R] [Neg R] [LT R] [DecidableLT R] [LE R]
  [DecidableLE R] [BEq R] [NatCast R] [IntCast R] [OfScientific R] (libm : Libm R)

/-- An update keeps the code one that was drawn, and so is the one in its message. -/
theorem AlinkController.drawn_update {controller : AlinkController R}
    (drawn : Drawn controller.idrCode) (call : Call) :
    Drawn (controller.update libm call).1.idrCode ∧
      Drawn (controller.update libm call).2.idrCode := by
  have requested := drawn_requestIdr drawn call
  apply drawn_repeatIdr
  rw [((controller.requestIdr call.snapshot call.drawn).request_filterNoise call.snapshot).2.1]
  exact requested

/-- So does every run of updates and of changes of the configuration. -/
theorem drawn_machine (config : AlinkConfig R) (events : List (Event R)) :
    Drawn ((machine libm).after (AlinkController.create config) events).idrCode := by
  refine Mealy.invariant_of_step
    (fun (controller : AlinkController R) _ => Drawn controller.idrCode) (.inl rfl) ?_ events
  intro controller _ event drawn
  cases event with
  | update call => exact (AlinkController.drawn_update libm drawn call).1
  | setConfig config => exact drawn

/-- What the message of an update says, with the counters of the snapshot and a penalty. -/
def AlinkController.meaning (controller : AlinkController R) (call : Call) (penalty : ℤ) :
    WireMessage :=
  let result := (controller.update libm call).2
  { unixTimeS := call.unixTimeS.toNat
    score := result.score.toInt
    scoreAgain := result.score.toInt
    recovered := call.snapshot.packetsFecRecovered
    lost := call.snapshot.packetsLost
    bestRssi := call.snapshot.bestRssi.toInt
    bestSnr := call.snapshot.bestSnr.toInt
    numAntennas := call.snapshot.numAntennas.toInt
    penalty
    fecChange := result.fecChange.toInt
    idrCode := result.idrCode }

/-- **The message of an update read back.** The counters and the penalty are what the conversion
makes of them. -/
theorem readMessage_update {controller : AlinkController R} {call : Call}
    (drawn : Drawn (controller.update libm call).2.idrCode) :
    readMessage (controller.update libm call).2.message =
      some { controller.meaning libm call
          (libm.toInt (controller.update libm call).2.penalty).toInt with
        recovered := (libm.toInt (call.snapshot.packetsFecRecovered : R)).toInt
        lost := (libm.toInt (call.snapshot.packetsLost : R)).toInt } := by
  rw [readMessage, fieldsOf_update libm controller call drawn.colon_notMem]
  split
  · rename_i none
    rw [← List.append_nil (controller.reported libm call), AlinkController.reported,
      readFields_messageFields, AlinkController.meaning, none]
    rfl
  · rw [AlinkController.reported, readFields_messageFields]
    rfl

/-- The message of an update is of bytes, and short. -/
theorem ascii_update {controller : AlinkController R} {call : Call}
    (drawn : Drawn (controller.update libm call).2.idrCode) :
    Ascii (controller.update libm call).2.message ∧
      (controller.update libm call).2.message.length ≤ 260 := by
  have message : (controller.update libm call).2.message =
      if (controller.update libm call).2.idrCode = [] then
        printed (controller.reported libm call)
      else printed (controller.reported libm call) ++
        ':' :: (controller.update libm call).2.idrCode := rfl
  have numbers : ∀ field ∈ controller.reported libm call, Ascii field := by
    intro field member
    simp only [AlinkController.reported, messageFields, List.mem_cons, List.not_mem_nil,
      or_false] at member
    rcases member with rfl | rfl | rfl | rfl | rfl | rfl | rfl | rfl | rfl | rfl
    all_goals exact ascii_decimal _
  have buffer : Ascii (printed (controller.reported libm call)) := fun char member =>
    ascii_intercalate numbers char (List.mem_of_mem_take member)
  have size : (printed (controller.reported libm call)).length ≤ 255 := List.length_take_le _ _
  have code := drawn.length_le
  rw [message]
  split
  · exact ⟨buffer, by omega⟩
  · constructor
    · intro char member
      rcases List.mem_append.mp member with front | _ | ⟨_, last⟩
      · exact buffer char front
      · decide
      · exact drawn.ascii char last
    · rw [List.length_append, List.length_cons]
      omega

/-! ## Datagrams -/

/-- The penalty of an update. -/
def AlinkController.penaltyOf (libm : Libm Float) (controller : AlinkController Float)
    (call : Call) : Float :=
  let raw := rawScore controller.config call.snapshot
  penalty controller.config raw (finalScore libm controller.config raw (controller.noiseOf call))

/-- Without its fraction, the penalty of an update fits an `int`. -/
def AlinkController.PenaltyFits (libm : Libm Float) (controller : AlinkController Float)
    (call : Call) : Prop :=
  ∃ n, wholePart (controller.penaltyOf libm call) = some n ∧ -2147483648 ≤ n ∧ n < 2147483648

/-- A datagram says what it should: the buffer held all of the message, the frame is taken up to its
end, and the numbers are those of the snapshot and of the result, the penalty without its
fraction. -/
structure Reads (libm : Libm Float) (controller : AlinkController Float) (call : Call) : Prop where
  uncut : printed (controller.reported libm call) =
    List.intercalate [':'] (controller.reported libm call)
  whole : readFrame (frame (controller.update libm call).2.message) =
    some ((controller.update libm call).2.message, [])
  meaning : ∃ penalty, wholePart (controller.update libm call).2.penalty = some penalty ∧
    readMessage (controller.update libm call).2.message =
      some (controller.meaning libm call penalty)

/-- **One datagram** says what it should exactly when both counters and the penalty fit an `int`. -/
theorem reads_update_iff {libm : Libm Float} (truncates : libm.Truncates)
    {controller : AlinkController Float} (drawn : Drawn controller.idrCode) (call : Call) :
    Reads libm controller call ↔
      call.snapshot.packetsFecRecovered < 2147483648 ∧
        call.snapshot.packetsLost < 2147483648 ∧ controller.PenaltyFits libm call := by
  obtain ⟨-, carried⟩ := AlinkController.drawn_update libm drawn call
  have read := readMessage_update libm carried
  obtain ⟨ascii, short⟩ := ascii_update libm carried
  rw [← truncates.counter_iff, ← truncates.counter_iff]
  constructor
  · intro reads
    obtain ⟨penalty, whole, message⟩ := reads.meaning
    have same := Option.some.inj (read.symm.trans message)
    have printed : (libm.toInt (controller.update libm call).2.penalty).toInt = penalty :=
      congrArg WireMessage.penalty same
    have lower := (libm.toInt (controller.update libm call).2.penalty).le_toInt
    have upper := (libm.toInt (controller.update libm call).2.penalty).toInt_lt
    rw [printed] at lower upper
    exact ⟨congrArg WireMessage.recovered same, congrArg WireMessage.lost same, penalty, whole,
      lower, upper⟩
  · rintro ⟨recovered, lost, penalty, whole, lower, upper⟩
    have printed : (libm.toInt (controller.update libm call).2.penalty).toInt = penalty :=
      truncates whole lower upper
    refine ⟨printed_messageFields libm _ _ _ _ _, readFrame_frame (by omega) ascii, penalty, whole,
      ?_⟩
    rw [read, recovered, lost, printed]
    rfl

/-- **When a datagram says what it should**, after any updates and changes of the configuration. -/
theorem reads_iff {libm : Libm Float} (truncates : libm.Truncates) (config : AlinkConfig Float)
    (events : List (Event Float)) (call : Call) :
    Reads libm ((machine libm).after (AlinkController.create config) events) call ↔
      call.snapshot.packetsFecRecovered < 2147483648 ∧
        call.snapshot.packetsLost < 2147483648 ∧
        ((machine libm).after (AlinkController.create config) events).PenaltyFits libm call :=
  reads_update_iff truncates (drawn_machine libm config events) call

/-! ## Penalties that fit -/

theorem within_one : (toDouble 1.0).Within 1 1 :=
  ⟨1, toDouble_one, Int.cast_one.le, Int.cast_one.ge⟩

theorem within_thousand : (toDouble 1000.0).Within 1000 1000 :=
  ⟨1000, by decide +kernel, by norm_num, by norm_num⟩

/-- What is no less than zero and not more than one. -/
theorem within_of_not_lt {x : Float} (least : 0.0 ≤ x) (most : ¬ 1.0 < x) :
    (toDouble x).Within 0 1 := by
  rw [le_iff, toDouble_zero] at least
  rw [lt_iff, toDouble_one] at most
  cases view : toDouble x with
  | nan =>
      rw [view] at least
      exact least.elim
  | infinity negative =>
      rw [view] at least most
      exact absurd least most
  | number q =>
      rw [view] at least most
      have lower : 0 ≤ q := least
      have upper : q ≤ 1 := not_lt.mp most
      exact ⟨q, rfl, by rwa [Int.cast_zero], by rwa [Int.cast_one]⟩

theorem clamp01_within (v : Float) : (toDouble (clamp01 v)).Within 0 1 := by
  rw [clamp01, stdMax, stdMin]
  by_cases below : v < 1.0
  · rw [if_pos below]
    rw [lt_iff] at below
    split
    · rename_i above
      rw [lt_iff] at above
      exact within_of_not_lt (le_iff.mpr above.le) fun beyond => below.asymm (lt_iff.mp beyond)
    · exact within_of_not_lt (by decide +kernel) (by decide +kernel)
  · rw [if_neg below, if_pos (by decide +kernel)]
    exact within_of_not_lt (by decide +kernel) (by decide +kernel)

theorem normalized_within (value low high : Float) :
    (toDouble (normalized value low high)).Within 0 1 := by
  rw [normalized]
  split
  · exact clamp01_within _
  · exact within_of_not_lt (by decide +kernel) (by decide +kernel)

/-- Each weight is a part of the whole. -/
structure AlinkConfig.Parts (config : AlinkConfig Float) : Prop where
  snrNonneg : 0.0 ≤ config.snrWeight
  snrMost : ¬ 1.0 < config.snrWeight
  rssiNonneg : 0.0 ≤ config.rssiWeight
  rssiMost : ¬ 1.0 < config.rssiWeight

theorem rawScore_within {config : AlinkConfig Float} (parts : config.Parts)
    (snapshot : LinkSnapshot) : (toDouble (rawScore config snapshot)).Within 1000 3000 := by
  have snr := (within_of_not_lt parts.snrNonneg parts.snrMost).mul
    (normalized_within ((snapshot.bestSnr.toInt : ℤ) : Float) config.snrMin config.snrMax)
    (by decide) (by decide) (by decide)
  have rssi := (within_of_not_lt parts.rssiNonneg parts.rssiMost).mul
    (normalized_within ((snapshot.bestRssi.toInt : ℤ) : Float) config.rssiMin config.rssiMax)
    (by decide) (by decide) (by decide)
  have mean := (snr.add rssi (by decide) (by decide)).mul within_thousand (by decide) (by decide)
    (by decide)
  rw [rawScore, toDouble_add, toDouble_mul, toDouble_add, toDouble_mul, toDouble_mul]
  exact within_thousand.add mean (by decide) (by decide)

/-- The score keeps the part of the raw one that is not deducted. -/
theorem finalScore_within {libm : Libm Float} {config : AlinkConfig Float} {raw noise : Float}
    (scale : (toDouble raw).Within 1000 3000) (part : 0.0 ≤ deductionRatio libm config noise)
    (most : ¬ 1.0 < deductionRatio libm config noise) :
    (toDouble (finalScore libm config raw noise)).Within 1000 3000 := by
  have above := scale.sub within_thousand (by decide) (by decide)
  have kept := within_one.sub (within_of_not_lt part most) (by decide) (by decide)
  rw [finalScore]
  split
  · rw [toDouble_add, toDouble_mul, toDouble_sub, toDouble_sub]
    exact within_thousand.add (above.mul kept (by decide) (by decide) (by decide)) (by decide)
      (by decide)
  · exact scale

theorem stdMin_one_not_gt (x : Float) : ¬ 1.0 < stdMin x 1.0 := by
  rw [stdMin]
  split
  · decide +kernel
  · assumption

/-- No deduction is more than the whole. -/
theorem deductionRatio_not_gt (libm : Libm Float) (config : AlinkConfig Float) (noise : Float) :
    ¬ 1.0 < deductionRatio libm config noise := by
  rw [deductionRatio]
  split
  · decide +kernel
  · exact stdMin_one_not_gt _

/-- **The penalty fits** where none is allowed, and where the weights are parts of the whole and the
deduction is one. -/
theorem penaltyFits {libm : Libm Float} {controller : AlinkController Float} {call : Call}
    (part : controller.config.allowPenalty = true → controller.config.Parts ∧
      0.0 ≤ deductionRatio libm controller.config (controller.noiseOf call)) :
    controller.PenaltyFits libm call := by
  have penalty : (toDouble (controller.penaltyOf libm call)).Within (-2000) 2000 := by
    rw [AlinkController.penaltyOf, penalty]
    split
    · rename_i allowed
      obtain ⟨parts, part⟩ := part allowed
      have raw := rawScore_within parts call.snapshot
      have final := finalScore_within raw part (deductionRatio_not_gt libm _ _)
      rw [toDouble_sub]
      exact final.sub raw (by decide) (by decide)
    · exact ⟨0, toDouble_zero, by norm_num, by norm_num⟩
  obtain ⟨q, number, least, most⟩ := penalty
  have lower := trunc_mono least
  have upper := trunc_mono most
  rw [trunc_intCast] at lower upper
  exact ⟨trunc q, wholePart_of_number number, by omega, by omega⟩

/-- A controller with the penalty allowed, behind a loss of five packets among a hundred. -/
theorem reads_iff_loss :
    Reads conversions
      ((machine conversions).after (AlinkController.create { allowPenalty := true }) [])
      (trafficCall 5) :=
  (reads_iff conversions_truncates { allowPenalty := true } [] (trafficCall 5)).mpr
    ⟨by decide, by decide,
      penaltyFits fun _ => ⟨by constructor <;> decide +kernel, by decide +kernel⟩⟩

/-- A counter of 2 147 483 648 lost packets is read back as another number. -/
theorem not_reads_overflow :
    ¬ Reads conversions ((machine conversions).after (AlinkController.create {}) [])
      (lossCall 2147483648) := by
  intro reads
  have fits := ((reads_update_iff conversions_truncates (.inl rfl) (lossCall 2147483648)).mp
    reads).2.1
  exact absurd fits (Nat.lt_irrefl _)

end Alink

end MobileGs
