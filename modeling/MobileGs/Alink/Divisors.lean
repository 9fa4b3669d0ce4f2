import MobileGs.Alink.Conversions
import MobileGs.Alink.Kalman
import MobileGs.Alink.Requests

/-!
# The divisors of an update

`Update` divides in seven places, behind guards of different kinds. Its functions are written here
once more, over a division that may fail (`updateBy`): there is no other in them. With the division
that always gives its quotient they are those of the controller (`updateBy_quotient`), with one that
fails on a zero (`checkedQuotient`) an update comes to its result exactly when none of the divisors
it computes on its way is a zero.

The arithmetic is that of doubles. The spans are compared with zero before they are divided by. The
divisor of the gain is not zero because the filter keeps its variances and its error does not become
negative, and the mean per antenna is not because there is traffic. The weight of a recovery is not
guarded: its divisor is one more than `fec_n - fec_k`, zero where `fec_n` is the number before
`fec_k`, and negative below that, where the adjusted count is negative too. Every update of a run is
sound exactly when no call with traffic has such a code (`updates_sound_iff`).
-/

set_option autoImplicit false

namespace MobileGs

namespace Alink

open Wfb Binary64

/-- Two numbers that are not negative do not wrap when they are subtracted. -/
theorem toInt_redundancy {fecK fecN : Int32} (set : ¬ (fecK < 0 ∨ fecN ≤ 0)) :
    (fecN - fecK).toInt = fecN.toInt - fecK.toInt := by
  obtain ⟨notNegative, positive⟩ := not_or.mp set
  rw [Int32.not_lt, Int32.le_iff_toInt_le, Int32.toInt_zero] at notNegative
  rw [Int32.not_le, Int32.lt_iff_toInt_lt, Int32.toInt_zero] at positive
  have upper := fecN.toInt_lt
  have upper' := fecK.toInt_lt
  rw [Int32.toInt_sub]
  exact Int.bmod_eq_of_le (by omega) (by omega)

/-! ## The update, over a division -/

section Partial

variable {R : Type} [Add R] [Sub R] [Mul R] [Neg R] [LT R] [DecidableLT R] [LE R] [DecidableLE R]
  [BEq R] [NatCast R] [IntCast R] [OfScientific R] {m : Type → Type} [Monad m]
  (divide : R → R → m R)

/-- `KalmanUpdate`. -/
def AlinkController.kalmanUpdateBy (controller : AlinkController R) (measurement : R) :
    m (AlinkController R × R) := do
  let predictedEstimate := controller.kalmanEstimate
  let predictedError := controller.kalmanErrorEstimate + controller.config.processVariance
  let kalmanGain ← divide predictedError (predictedError + controller.config.measurementVariance)
  let kalmanEstimate := predictedEstimate + kalmanGain * (measurement - predictedEstimate)
  let kalmanErrorEstimate := (1.0 - kalmanGain) * predictedError
  return ({ controller with kalmanEstimate, kalmanErrorEstimate }, kalmanEstimate)

/-- `AdjustFecRecovered`. -/
def adjustFecRecoveredBy (fecRecovered : R) (fecK fecN : Int32) : m R :=
  if fecK < 0 ∨ fecN ≤ 0 then return fecRecovered
  else do
    let redundancy := (((fecN - fecK).toInt : ℤ) : R)
    let weight ← divide 6.0 (1.0 + redundancy)
    return fecRecovered * weight

/-- The error ratio. -/
def errorRatioBy (snapshot : LinkSnapshot) : m R := do
  let adjusted ←
    adjustFecRecoveredBy divide (snapshot.packetsFecRecovered : R) snapshot.fecK snapshot.fecN
  let mean ← divide (snapshot.packetsAll : R) ((snapshot.numAntennas.toInt : ℤ) : R)
  divide (5.0 * (snapshot.packetsLost : R) + adjusted) mean

/-- The part of `Update` that measures the noise. -/
def AlinkController.filterNoiseBy (controller : AlinkController R) (snapshot : LinkSnapshot) :
    m (AlinkController R × R × R) :=
  if (snapshot.packetsAll : R) > 0.0 ∧ snapshot.numAntennas > 0 then do
    let ratio ← errorRatioBy divide snapshot
    let updated ← controller.kalmanUpdateBy divide ratio
    return (updated.1, ratio, updated.2)
  else return (controller, 0.0, 0.0)

def normalizedBy (value low high : R) : m R := do
  let span := high - low
  if span != 0.0 then
    let share ← divide (value - low) span
    return clamp01 share
  else return 0.0

def rawScoreBy (config : AlinkConfig R) (snapshot : LinkSnapshot) : m R := do
  let snrNormalized ←
    normalizedBy divide ((snapshot.bestSnr.toInt : ℤ) : R) config.snrMin config.snrMax
  let rssiNormalized ←
    normalizedBy divide ((snapshot.bestRssi.toInt : ℤ) : R) config.rssiMin config.rssiMax
  let scoreNormalized := config.snrWeight * snrNormalized + config.rssiWeight * rssiNormalized
  return 1000.0 + scoreNormalized * 1000.0

/-- A value on a span, or another one where there is no span. -/
def overSpanBy (value span other : R) : m R :=
  if span != 0.0 then divide value span else return other

variable (libm : Libm R)

def deductionRatioBy (config : AlinkConfig R) (filteredNoise : R) : m R :=
  if filteredNoise < config.minNoise then return 0.0
  else do
    let noiseSpan := config.maxNoise - config.minNoise
    let t ← overSpanBy divide (filteredNoise - config.minNoise) noiseSpan 1.0
    return stdMin (libm.pow t config.deductionExponent) 1.0

def fecChangeBy (config : AlinkConfig R) (filteredNoise : R) : m Int32 :=
  if config.allowFecIncrease = false ∨ filteredNoise ≤ config.minNoiseForFecChange then return 0
  else if filteredNoise ≥ config.noiseForMaxFecChange then return 5
  else do
    let span := config.maxNoise - config.minNoiseForFecChange
    let t ← overSpanBy divide (filteredNoise - config.minNoiseForFecChange) span 0.0
    return Int32.ofInt (libm.lround (t * 5.0))

/-- `Update`. -/
def AlinkController.updateBy (controller : AlinkController R) (call : Call) :
    m (AlinkController R × AlinkResult R) := do
  let config := controller.config
  let filtered ←
    (controller.requestIdr call.snapshot call.drawn).filterNoiseBy divide call.snapshot
  let filteredNoise := filtered.2.2
  let raw ← rawScoreBy divide config call.snapshot
  let deductionRatio ← deductionRatioBy divide libm config filteredNoise
  let final :=
    if config.allowPenalty then 1000.0 + (raw - 1000.0) * (1.0 - deductionRatio) else raw
  let penalty := penalty config raw final
  let fecChange ← fecChangeBy divide libm config filteredNoise
  let score := libm.toInt final
  let buffer := printed (messageFields libm call.snapshot call.unixTimeS score penalty fecChange)
  let repeated := filtered.1.repeatIdr
  return (repeated.1,
    { message := if repeated.2 = [] then buffer else buffer ++ ':' :: repeated.2
      score
      rawScore := raw
      penalty
      fecChange
      errorRatio := filtered.2.1
      filteredNoise
      idrCode := repeated.2 })

end Partial

/-! ## Divisions that succeed -/

/-- The division of the machine. -/
def quotient {R : Type} [Div R] (a b : R) : Id R := a / b

/-- With the machine's division the update is that of the controller. -/
theorem updateBy_quotient {R : Type} [Add R] [Sub R] [Mul R] [Div R] [Neg R] [LT R] [DecidableLT R]
    [LE R] [DecidableLE R] [BEq R] [NatCast R] [IntCast R] [OfScientific R] (libm : Libm R)
    (controller : AlinkController R) (call : Call) :
    controller.updateBy quotient libm call = controller.update libm call := rfl

/-- A division that fails on a zero of either sign. -/
def checkedQuotient (a b : Float) : Option Float := if b == 0.0 then none else some (a / b)

theorem checkedQuotient_of_ne {b : Float} (nonzero : (b == 0.0) = false) (a : Float) :
    checkedQuotient a b = some (a / b) := by
  rw [checkedQuotient, nonzero, if_neg Bool.false_ne_true]

theorem checkedQuotient_of_eq {b : Float} (zero : (b == 0.0) = true) (a : Float) :
    checkedQuotient a b = none := if_pos zero

/-- An update divides by nothing that is zero, and the recoveries it counts are not negative. -/
structure Sound (libm : Libm Float) (controller : AlinkController Float) (call : Call) : Prop where
  divisions : controller.updateBy checkedQuotient libm call = some (controller.update libm call)
  adjusted : call.Traffic Float →
    0.0 ≤ adjustFecRecovered (call.snapshot.packetsFecRecovered : Float) call.snapshot.fecK
      call.snapshot.fecN

/-- A snapshot with traffic has a code that is not set, or one with no fewer blocks than it has
blocks of data. With two blocks fewer, or more than two, it may also have recovered nothing. -/
def Call.FecSound (call : Call) : Prop :=
  0 < call.snapshot.packetsAll → 0 < call.snapshot.numAntennas →
    call.snapshot.fecK < 0 ∨ call.snapshot.fecN ≤ 0 ∨ call.snapshot.fecK ≤ call.snapshot.fecN ∨
      (call.snapshot.fecN.toInt + 1 < call.snapshot.fecK.toInt ∧
        call.snapshot.packetsFecRecovered = 0)

/-! ## Guarded divisions -/

/-- A span that is compared with zero before it is divided by. -/
theorem overSpanBy_checked (value span other : Float) :
    overSpanBy checkedQuotient value span other =
      some (if span != 0.0 then value / span else other) := by
  rw [overSpanBy]
  cases zero : span == 0.0 with
  | true =>
      rw [bne, zero]
      rfl
  | false =>
      rw [bne, zero]
      exact checkedQuotient_of_ne zero value

theorem normalizedBy_checked (value low high : Float) :
    normalizedBy checkedQuotient value low high = some (normalized value low high) := by
  cases zero : high - low == 0.0 with
  | true =>
      simp only [normalizedBy, normalized, bne, zero]
      rfl
  | false =>
      simp only [normalizedBy, normalized, bne, zero, checkedQuotient_of_ne zero]
      rfl

theorem rawScoreBy_checked (config : AlinkConfig Float) (snapshot : LinkSnapshot) :
    rawScoreBy checkedQuotient config snapshot = some (rawScore config snapshot) := by
  rw [rawScoreBy, normalizedBy_checked, normalizedBy_checked]
  rfl

theorem deductionRatioBy_checked (libm : Libm Float) (config : AlinkConfig Float) (noise : Float) :
    deductionRatioBy checkedQuotient libm config noise =
      some (deductionRatio libm config noise) := by
  unfold deductionRatioBy deductionRatio
  split
  · rfl
  · dsimp only
    rw [overSpanBy_checked]
    rfl

theorem fecChangeBy_checked (libm : Libm Float) (config : AlinkConfig Float) (noise : Float) :
    fecChangeBy checkedQuotient libm config noise = some (fecChange libm config noise) := by
  unfold fecChangeBy fecChange
  split
  · rfl
  · split
    · rfl
    · dsimp only
      rw [overSpanBy_checked]
      rfl

/-! ## The weight of a recovery -/

/-- The divisor of the weight, as a number. -/
def weightDivisor (fecK fecN : Int32) : ℤ := 1 + (fecN.toInt - fecK.toInt)

theorem abs_weightDivisor_le {fecK fecN : Int32} (set : ¬ (fecK < 0 ∨ fecN ≤ 0)) :
    |weightDivisor fecK fecN| ≤ 2 ^ 31 := by
  obtain ⟨notNegative, positive⟩ := not_or.mp set
  rw [Int32.not_lt, Int32.le_iff_toInt_le, Int32.toInt_zero] at notNegative
  rw [Int32.not_le, Int32.lt_iff_toInt_lt, Int32.toInt_zero] at positive
  have upper := fecN.toInt_lt
  have upper' := fecK.toInt_lt
  rw [weightDivisor, abs_le]
  omega

theorem toDouble_weightDivisor {fecK fecN : Int32} (set : ¬ (fecK < 0 ∨ fecN ≤ 0)) :
    toDouble (1.0 + (((fecN - fecK).toInt : ℤ) : Float)) =
      .number (weightDivisor fecK fecN) := by
  have size := abs_weightDivisor_le set
  have wide : |weightDivisor fecK fecN| ≤ 2 ^ 53 := size.trans (by decide)
  have narrow : |(fecN - fecK).toInt| ≤ 2 ^ 53 := by
    have lower := (fecN - fecK).le_toInt
    have upper := (fecN - fecK).toInt_lt
    rw [abs_le]
    omega
  have sum : (1 : ℚ) + ((fecN - fecK).toInt : ℚ) = (weightDivisor fecK fecN : ℚ) := by
    rw [toInt_redundancy set, weightDivisor]
    push_cast
    rfl
  rw [toDouble_add, toDouble_one, toDouble_intCast narrow, Double.add, sum]
  refine Double.ofRat_eq_self (representable_intCast wide) ?_
  have bits : |(weightDivisor fecK fecN : ℚ)| ≤ 2 ^ 53 := by exact_mod_cast wide
  exact bits.trans_lt (pow_lt_pow_right₀ one_lt_two (by decide))

/-- The weight is divided by what the code adds, where it divides. -/
theorem adjustFecRecoveredBy_eq (recovered : Float) {fecK fecN : Int32}
    (set : ¬ (fecK < 0 ∨ fecN ≤ 0)) :
    adjustFecRecoveredBy checkedQuotient recovered fecK fecN =
      if weightDivisor fecK fecN = 0 then none
      else some (adjustFecRecovered recovered fecK fecN) := by
  have divisor := toDouble_weightDivisor set
  rw [adjustFecRecoveredBy, if_neg set, adjustFecRecovered, if_neg set]
  dsimp only
  by_cases zero : weightDivisor fecK fecN = 0
  · rw [zero, Int.cast_zero] at divisor
    have equal : (1.0 + (((fecN - fecK).toInt : ℤ) : Float) == 0.0) = true := by
      rw [← Bool.not_eq_false, beq_zero_eq_false_iff]
      exact not_not_intro divisor
    rw [if_pos zero, checkedQuotient_of_eq equal]
    rfl
  · have nonzero : (1.0 + (((fecN - fecK).toInt : ℤ) : Float) == 0.0) = false := by
      rw [beq_zero_eq_false_iff, divisor]
      exact fun same => zero (by exact_mod_cast Double.number.inj same)
    rw [if_neg zero, checkedQuotient_of_ne nonzero]
    rfl

/-- What is divided by a number of an `int` and is no less than one is not rounded to nothing. -/
theorem lt_ofRat_div {p q : ℚ} (least : 1 ≤ p) (positive : 0 < q) (most : q ≤ 2 ^ 31) :
    (Double.number 0).Lt (Double.ofRat (p / q)) := by
  refine Double.lt_ofRat (show -1074 ≤ -31 by decide) ?_
  rw [le_div_iff₀ positive]
  have share : (2 : ℚ) ^ (-31 : ℤ) * q ≤ 2 ^ (-31 : ℤ) * 2 ^ 31 :=
    mul_le_mul_of_nonneg_left most (by positivity)
  norm_num at share ⊢
  linarith

/-- The count under a weight that is not rounded to nothing: not negative if and only if nothing is
counted or the weight is positive. -/
theorem zero_le_mul_weight (recovered : ℕ) {p : ℚ} (weight : 2 ^ (-31 : ℤ) ≤ |p|) :
    (Double.number 0).Le ((Double.ofRat recovered).mul (.number p)) ↔ recovered = 0 ∨ 0 < p := by
  have nonzero : p ≠ 0 := abs_pos.mp ((two_zpow_pos _).trans_le weight)
  rcases Nat.eq_zero_or_pos recovered with rfl | some
  · rw [Nat.cast_zero, Double.ofRat_zero, Double.mul, zero_mul, Double.ofRat_zero]
    exact iff_of_true (le_refl (0 : ℚ)) (.inl rfl)
  · have count : (1 : ℚ) ≤ rounded recovered :=
      le_rounded representable_one (by exact_mod_cast some)
    rw [or_iff_right some.ne']
    rcases Double.ofRat_of_nonneg (Nat.cast_nonneg (α := ℚ) recovered) with infinite | finite
    · rw [infinite, Double.mul, if_neg nonzero]
      change (false != decide (p < 0)) = false ↔ 0 < p
      rw [Bool.false_bne, decide_eq_false_iff_not, not_lt]
      exact nonzero.symm.le_iff_lt
    · rw [finite, Double.mul]
      rcases nonzero.lt_or_gt with negative | positive
      · rw [abs_of_neg negative] at weight
        have product : 2 ^ (-31 : ℤ) ≤ rounded recovered * -p :=
          weight.trans (le_mul_of_one_le_left (by linarith) count)
        have below := (Double.lt_ofRat (by decide) product).not_le_neg
        rw [← Double.ofRat_neg, mul_neg, neg_neg] at below
        exact iff_of_false below negative.not_gt
      · rw [abs_of_pos positive] at weight
        have product : 2 ^ (-31 : ℤ) ≤ rounded recovered * p :=
          weight.trans (le_mul_of_one_le_left positive.le count)
        exact iff_of_true (Double.lt_ofRat (by decide) product).le positive

theorem toDouble_six : toDouble 6.0 = .number 6 := by decide +kernel

/-- The weight is a number with the sign of its divisor. -/
theorem exists_weight {divisor : ℤ} (nonzero : divisor ≠ 0) (size : |divisor| ≤ 2 ^ 31) :
    ∃ p, (Double.number 6).div (.number divisor) = .number p ∧ 2 ^ (-31 : ℤ) ≤ |p| ∧
      (0 < p ↔ 0 < divisor) := by
  have bits : |(divisor : ℚ)| ≤ 2 ^ 31 := by exact_mod_cast size
  have whole : (1 : ℚ) ≤ |(divisor : ℚ)| := by exact_mod_cast Int.one_le_abs nonzero
  have least : (2 : ℚ) ^ (-31 : ℤ) ≤ 6 / |(divisor : ℚ)| := by
    rw [le_div_iff₀ (by linarith)]
    have share : (2 : ℚ) ^ (-31 : ℤ) * |(divisor : ℚ)| ≤ 2 ^ (-31 : ℤ) * 2 ^ 31 :=
      mul_le_mul_of_nonneg_left bits (by positivity)
    norm_num at share ⊢
    linarith
  have most : 6 / |(divisor : ℚ)| ≤ 6 := div_le_self (by norm_num) whole
  have six : Representable 6 := by exact_mod_cast @representable_intCast 6 (by decide)
  have low := le_rounded (representable_pow (show -1074 ≤ -31 by decide)) least
  have high := rounded_le six most
  have positive : (0 : ℚ) < 2 ^ (-31 : ℤ) := two_zpow_pos _
  have finite : (6 : ℚ) < 2 ^ 1024 :=
    (show (6 : ℚ) < 2 ^ 3 by norm_num).trans_le (pow_le_pow_right₀ one_le_two (by decide))
  rcases nonzero.lt_or_gt with negative | above
  · have turned : (6 : ℚ) / divisor = -(6 / |(divisor : ℚ)|) := by
      rw [abs_of_neg (by exact_mod_cast negative), div_neg, neg_neg]
    refine ⟨-rounded (6 / |(divisor : ℚ)|), ?_, ?_, ?_⟩
    · rw [Double.div, turned, Double.ofRat, rounded_neg, Double.clamp_of_lt]
      rw [abs_neg, abs_of_pos (positive.trans_le low)]
      exact high.trans_lt finite
    · rw [abs_neg, abs_of_pos (positive.trans_le low)]
      exact low
    · exact iff_of_false (by linarith) negative.not_gt
  · rw [abs_of_pos (show (0 : ℚ) < divisor by exact_mod_cast above)] at low high
    refine ⟨rounded (6 / divisor), ?_, ?_, ?_⟩
    · rw [Double.div, Double.ofRat, Double.clamp_of_lt]
      rw [abs_of_pos (positive.trans_le low)]
      exact high.trans_lt finite
    · rw [abs_of_pos (positive.trans_le low)]
      exact low
    · exact iff_of_true (positive.trans_le low) above

/-- **When the weight of a recovery is sound**: no code is set, or its redundancy is not negative,
or it is below -1 and nothing was recovered. -/
theorem adjust_sound_iff (recovered : ℕ) (fecK fecN : Int32) :
    (adjustFecRecoveredBy checkedQuotient (recovered : Float) fecK fecN =
          some (adjustFecRecovered (recovered : Float) fecK fecN) ∧
        0.0 ≤ adjustFecRecovered (recovered : Float) fecK fecN) ↔
      fecK < 0 ∨ fecN ≤ 0 ∨ fecK ≤ fecN ∨
        (fecN.toInt + 1 < fecK.toInt ∧ recovered = 0) := by
  have count := toDouble_natCast recovered
  by_cases unset : fecK < 0 ∨ fecN ≤ 0
  · rw [adjustFecRecoveredBy, adjustFecRecovered, if_pos unset, if_pos unset]
    refine iff_of_true ⟨rfl, ?_⟩ (unset.imp_right .inl)
    rw [le_iff, toDouble_zero, count]
    exact Double.zero_le_ofRat (Nat.cast_nonneg recovered)
  · have ordered : fecK ≤ fecN ↔ 0 < weightDivisor fecK fecN := by
      rw [Int32.le_iff_toInt_le, weightDivisor]
      omega
    have short : fecN.toInt + 1 < fecK.toInt ↔ weightDivisor fecK fecN < 0 := by
      rw [weightDivisor]
      omega
    rw [adjustFecRecoveredBy_eq _ unset, ← or_assoc, or_iff_right unset, ordered, short]
    by_cases zero : weightDivisor fecK fecN = 0
    · rw [if_pos zero, zero]
      simp
    · obtain ⟨p, weight, size, sign⟩ := exists_weight zero (abs_weightDivisor_le unset)
      have divisor : toDouble (1.0 + (((fecN - fecK).toInt : ℤ) : Float)) ≠ .number 0 := by
        rw [toDouble_weightDivisor unset]
        exact fun same => zero (by exact_mod_cast Double.number.inj same)
      have adjusted : toDouble (adjustFecRecovered (recovered : Float) fecK fecN) =
          (Double.ofRat recovered).mul (.number p) := by
        rw [adjustFecRecovered, if_neg unset]
        dsimp only
        rw [toDouble_mul, toDouble_div _ _ divisor, count, toDouble_six,
          toDouble_weightDivisor unset, weight]
      rw [if_neg zero, le_iff, toDouble_zero, adjusted, zero_le_mul_weight recovered size, sign]
      constructor
      · rintro ⟨-, none | above⟩
        · exact (lt_or_gt_of_ne zero).symm.imp_right fun below => ⟨below, none⟩
        · exact .inl above
      · rintro (above | ⟨-, none⟩)
        · exact ⟨rfl, .inr above⟩
        · exact ⟨rfl, .inl none⟩

/-! ## The divisors behind the traffic -/

theorem traffic_iff (call : Call) :
    call.Traffic Float ↔ 0 < call.snapshot.packetsAll ∧ 0 < call.snapshot.numAntennas := by
  have count := toDouble_natCast call.snapshot.packetsAll
  refine and_congr_left fun _ => ?_
  change (0.0 : Float) < _ ↔ _
  rw [lt_iff, toDouble_zero, count]
  rcases Nat.eq_zero_or_pos call.snapshot.packetsAll with none | some
  · rw [none, Nat.cast_zero, Double.ofRat_zero]
    exact iff_of_false (lt_irrefl (0 : ℚ)) (lt_irrefl 0)
  · refine iff_of_true (Double.lt_ofRat (show -1074 ≤ 0 by decide) ?_) some
    rw [zpow_zero]
    exact_mod_cast some

/-- The number of antennas and the packets each of them has are divided by with traffic. -/
theorem antennas_ne_zero {call : Call} (traffic : call.Traffic Float) :
    ((((call.snapshot.numAntennas.toInt : ℤ) : Float) == 0.0) = false) ∧
      (((call.snapshot.packetsAll : Float) /
        ((call.snapshot.numAntennas.toInt : ℤ) : Float) == 0.0) = false) := by
  obtain ⟨packets, antennas⟩ := (traffic_iff call).mp traffic
  have positive := Int32.lt_iff_toInt_lt.mp antennas
  rw [Int32.toInt_zero] at positive
  have upper := call.snapshot.numAntennas.toInt_lt
  have size : |call.snapshot.numAntennas.toInt| ≤ 2 ^ 53 := by
    rw [abs_le]
    omega
  have count := toDouble_intCast size
  have all := toDouble_natCast call.snapshot.packetsAll
  have above : (0 : ℚ) < call.snapshot.numAntennas.toInt := by exact_mod_cast positive
  have nonzero : toDouble ((call.snapshot.numAntennas.toInt : ℤ) : Float) ≠ .number 0 := by
    rw [count]
    exact fun same => above.ne' (Double.number.inj same)
  refine ⟨beq_zero_eq_false_iff.mpr nonzero, beq_zero_eq_false_iff.mpr ?_⟩
  rw [toDouble_div _ _ nonzero, all, count]
  rcases Double.ofRat_of_nonneg (Nat.cast_nonneg (α := ℚ) call.snapshot.packetsAll) with
    infinite | finite
  · rw [infinite]
    exact Double.noConfusion
  · have least : (1 : ℚ) ≤ rounded call.snapshot.packetsAll :=
      le_rounded representable_one (by exact_mod_cast packets)
    have most : (call.snapshot.numAntennas.toInt : ℚ) ≤ 2 ^ 31 := by exact_mod_cast upper.le
    have share := lt_ofRat_div least above most
    rw [finite, Double.div]
    intro zero
    rw [zero] at share
    exact lt_irrefl (0 : ℚ) share

/-! ## The filter -/

/-- The variances are those of a filter, and the error is not negative, if it is a number. -/
structure FilterSigns (controller : AlinkController Float) : Prop where
  measurementVariance : 0.0 < controller.config.measurementVariance
  processVariance : ¬ controller.config.processVariance < 0.0
  error : ¬ controller.kalmanErrorEstimate < 0.0

namespace FilterSigns

variable {controller : AlinkController Float}

theorem predictedError (signs : FilterSigns controller) :
    ¬ controller.kalmanErrorEstimate + controller.config.processVariance < 0.0 :=
  not_neg_add signs.error signs.processVariance

/-- The gain has a divisor. -/
theorem kalmanUpdateBy_checked (signs : FilterSigns controller) (measurement : Float) :
    controller.kalmanUpdateBy checkedQuotient measurement =
      some (controller.kalmanUpdate measurement) := by
  have divisor := add_ne_zero signs.predictedError signs.measurementVariance
  unfold AlinkController.kalmanUpdateBy AlinkController.kalmanUpdate
  dsimp only
  rw [checkedQuotient_of_ne divisor]
  rfl

theorem kalmanUpdate (signs : FilterSigns controller) (measurement : Float) :
    FilterSigns (controller.kalmanUpdate measurement).1 :=
  ⟨signs.measurementVariance, signs.processVariance,
    not_neg_rest signs.predictedError signs.measurementVariance⟩

/-- The signs are those of what the filter works with. -/
theorem of_filterState {controller' : AlinkController Float} (signs : FilterSigns controller)
    (same : controller'.filterState = controller.filterState) : FilterSigns controller' := by
  obtain ⟨config, rest⟩ := Prod.mk.inj same
  obtain ⟨-, error⟩ := Prod.mk.inj rest
  constructor
  · rw [config]
    exact signs.measurementVariance
  · rw [config]
    exact signs.processVariance
  · rw [error]
    exact signs.error

theorem update (libm : Libm Float) (signs : FilterSigns controller) (call : Call) :
    FilterSigns (controller.update libm call).1 := by
  have step := filterState_update libm controller call
  split at step
  · exact (signs.kalmanUpdate _).of_filterState step
  · exact signs.of_filterState step

/-- Updates keep them. -/
theorem updates (libm : Libm Float) (signs : FilterSigns controller) (calls : List Call) :
    FilterSigns ((updates libm).after controller calls) :=
  (Alink.updates libm).invariant_of_step (fun controller _ => FilterSigns controller) signs
    (fun _ _ call signs => signs.update libm call) calls

end FilterSigns

/-! ## Updates -/

/-- An update succeeds when, with traffic, the weight of the recoveries does. -/
theorem updateBy_checked (libm : Libm Float) {controller : AlinkController Float}
    (signs : FilterSigns controller) {call : Call}
    (weight : call.Traffic Float →
      adjustFecRecoveredBy checkedQuotient (call.snapshot.packetsFecRecovered : Float)
          call.snapshot.fecK call.snapshot.fecN =
        some (adjustFecRecovered (call.snapshot.packetsFecRecovered : Float) call.snapshot.fecK
          call.snapshot.fecN)) :
    controller.updateBy checkedQuotient libm call = some (controller.update libm call) := by
  have requested := signs.of_filterState (filterState_requestIdr controller call)
  have filtered : (controller.requestIdr call.snapshot call.drawn).filterNoiseBy checkedQuotient
      call.snapshot =
        some ((controller.requestIdr call.snapshot call.drawn).filterNoise call.snapshot) := by
    by_cases traffic : call.Traffic Float
    · obtain ⟨antennas, mean⟩ := antennas_ne_zero traffic
      have ratio : errorRatioBy checkedQuotient call.snapshot =
          some (errorRatio call.snapshot : Float) := by
        rw [errorRatioBy, weight traffic, checkedQuotient_of_ne antennas]
        exact checkedQuotient_of_ne mean _
      unfold Call.Traffic at traffic
      rw [AlinkController.filterNoiseBy, AlinkController.filterNoise, if_pos traffic,
        if_pos traffic, ratio]
      simp only [Option.bind_eq_bind, Option.bind_some, requested.kalmanUpdateBy_checked]
      rfl
    · unfold Call.Traffic at traffic
      rw [AlinkController.filterNoiseBy, AlinkController.filterNoise, if_neg traffic,
        if_neg traffic]
      rfl
  simp only [AlinkController.updateBy, filtered, rawScoreBy_checked, deductionRatioBy_checked,
    fecChangeBy_checked, Option.bind_eq_bind, Option.bind_some]
  rfl

/-- It fails when they have none. -/
theorem updateBy_of_weight_none (libm : Libm Float) (controller : AlinkController Float)
    {call : Call} (traffic : call.Traffic Float)
    (weight : adjustFecRecoveredBy checkedQuotient (call.snapshot.packetsFecRecovered : Float)
      call.snapshot.fecK call.snapshot.fecN = none) :
    controller.updateBy checkedQuotient libm call = none := by
  have ratio : errorRatioBy checkedQuotient call.snapshot = (none : Option Float) := by
    rw [errorRatioBy, weight]
    rfl
  unfold Call.Traffic at traffic
  rw [AlinkController.updateBy, AlinkController.filterNoiseBy, if_pos traffic, ratio]
  rfl

/-- The weight succeeds or fails. -/
theorem adjustFecRecoveredBy_cases (recovered : Float) (fecK fecN : Int32) :
    adjustFecRecoveredBy checkedQuotient recovered fecK fecN =
        some (adjustFecRecovered recovered fecK fecN) ∨
      adjustFecRecoveredBy checkedQuotient recovered fecK fecN = none := by
  by_cases unset : fecK < 0 ∨ fecN ≤ 0
  · rw [adjustFecRecoveredBy, adjustFecRecovered, if_pos unset, if_pos unset]
    exact .inl rfl
  · rw [adjustFecRecoveredBy_eq _ unset]
    split
    · exact .inr rfl
    · exact .inl rfl

/-- **When one update is sound**, from any state a filter can be in. -/
theorem sound_iff (libm : Libm Float) {controller : AlinkController Float}
    (signs : FilterSigns controller) (call : Call) :
    Sound libm controller call ↔ call.FecSound := by
  have weight := adjust_sound_iff call.snapshot.packetsFecRecovered call.snapshot.fecK
    call.snapshot.fecN
  rw [Call.FecSound, ← weight]
  constructor
  · intro sound packets antennas
    have traffic := (traffic_iff call).mpr ⟨packets, antennas⟩
    refine ⟨?_, sound.adjusted traffic⟩
    rcases adjustFecRecoveredBy_cases (call.snapshot.packetsFecRecovered : Float)
      call.snapshot.fecK call.snapshot.fecN with succeeds | fails
    · exact succeeds
    · have failed := updateBy_of_weight_none libm controller traffic fails
      rw [sound.divisions] at failed
      cases failed
  · intro fecSound
    have both := fun traffic : call.Traffic Float =>
      fecSound ((traffic_iff call).mp traffic).1 ((traffic_iff call).mp traffic).2
    exact ⟨updateBy_checked libm signs fun traffic => (both traffic).1,
      fun traffic => (both traffic).2⟩

/-- **When a run is sound.** With variances of a filter and an initial error that is not negative,
no update divides by zero or counts recoveries below zero if and only if every snapshot with
traffic has a sound code. -/
theorem updates_sound_iff (libm : Libm Float) {config : AlinkConfig Float}
    (measurement : 0.0 < config.measurementVariance) (process : 0.0 ≤ config.processVariance)
    (error : 0.0 ≤ config.kalmanErrorEstimate) (calls : List Call) :
    (updates libm).EveryStep (fun controller _ call => Sound libm controller call)
        (AlinkController.create config) calls ↔
      ∀ call ∈ calls, call.FecSound := by
  have signs : FilterSigns (AlinkController.create config) :=
    ⟨measurement, not_neg_of_le process, not_neg_of_le error⟩
  constructor
  · intro sound call member
    obtain ⟨earlier, later, split⟩ := List.mem_iff_append.mp member
    exact (sound_iff libm (signs.updates libm earlier) call).mp (sound earlier call later split)
  · rintro fecSound earlier call later rfl
    exact (sound_iff libm (signs.updates libm earlier) call).mpr
      (fecSound call (List.mem_append_right _ List.mem_cons_self))

/-- A hundred packets on two antennas, under a code of `fecK` blocks of data among `fecN`. -/
def codedCall (fecK fecN : Int32) : Call where
  snapshot := { packetsAll := 100, numAntennas := 2, fecK, fecN }
  unixTimeS := 0
  drawn := (lossCall 0).drawn

instance (call : Call) : Decidable call.FecSound := inferInstanceAs (Decidable (_ → _ → _))

/-- The default configuration, on the common code and before there is one. -/
theorem updates_sound_iff_default :
    (updates doubles).EveryStep (fun controller _ call => Sound doubles controller call)
      (AlinkController.create {}) [codedCall (-1) (-1), codedCall 8 12] :=
  (updates_sound_iff _ (by decide +kernel) (by decide +kernel) (by decide +kernel) _).mpr
    (by decide)

/-- Four blocks with five of data among them, and the weight has no divisor. -/
theorem not_sound_short :
    ¬ (updates doubles).EveryStep (fun controller _ call => Sound doubles controller call)
      (AlinkController.create {}) [codedCall 5 4] := by
  intro sound
  have signs : FilterSigns (AlinkController.create {}) := by
    constructor <;> decide +kernel
  have fecSound := (sound_iff doubles signs (codedCall 5 4)).mp (sound [] (codedCall 5 4) [] rfl)
  exact absurd fecSound (by decide)

end Alink

end MobileGs
