import MobileGs.Alink.Divisors
import MobileGs.Alink.FecChange

/-!
# A worse link never scores better

Two controllers are fed snapshots that agree on the traffic, and at every step those of the first
are no better. The gain of the filter does not depend on the measurements, so the first estimate
stays above the second (`Behind`), and every stage behind the filter keeps the order: the
normalized values, the deduction, the truncated score and the change of FEC (`update_worse`). Whole
runs follow by simulation (`updates_worse`), and the default configuration is one of those the
stages ask for (`regular_default`).
-/

set_option autoImplicit false

namespace MobileGs

namespace Alink

open Wfb

/-- Two snapshots with the same traffic, the first of them no better than the second. -/
structure Worse (bad good : LinkSnapshot) : Prop where
  packetsAll : bad.packetsAll = good.packetsAll
  numAntennas : bad.numAntennas = good.numAntennas
  fecK : bad.fecK = good.fecK
  fecN : bad.fecN = good.fecN
  fec : good.fecK ≤ good.fecN ∨ good.fecK < 0 ∨ good.fecN ≤ 0
  lost : good.packetsLost ≤ bad.packetsLost
  recovered : good.packetsFecRecovered ≤ bad.packetsFecRecovered
  rssi : bad.bestRssi ≤ good.bestRssi
  snr : bad.bestSnr ≤ good.bestSnr

/-! ## Requests

Neither the state of the filter nor the configuration has to do with them. -/

section Requests

variable {R : Type} [Field R] [LinearOrder R]

/-- The first of two controllers has seen the worse link. -/
structure Behind (config : AlinkConfig R) (bad good : AlinkController R) : Prop where
  configBad : bad.config = config
  configGood : good.config = config
  error : bad.kalmanErrorEstimate = good.kalmanErrorEstimate
  errorNonneg : 0 ≤ good.kalmanErrorEstimate
  estimate : good.kalmanEstimate ≤ bad.kalmanEstimate

theorem behind_create {config : AlinkConfig R} (error : 0 ≤ config.kalmanErrorEstimate) :
    Behind config (AlinkController.create config) (AlinkController.create config) :=
  ⟨rfl, rfl, rfl, error, le_refl _⟩

theorem Behind.requestIdr {config : AlinkConfig R} {bad good : AlinkController R}
    (behind : Behind config bad good) (badCall goodCall : Call) :
    Behind config (bad.requestIdr badCall.snapshot badCall.drawn)
      (good.requestIdr goodCall.snapshot goodCall.drawn) := by
  obtain ⟨configBad, configGood, error, errorNonneg, estimate⟩ := behind
  unfold AlinkController.requestIdr
  split <;> split <;> exact ⟨configBad, configGood, error, errorNonneg, estimate⟩

theorem Behind.repeatIdr {config : AlinkConfig R} {bad good : AlinkController R}
    (behind : Behind config bad good) :
    Behind config bad.repeatIdr.1 good.repeatIdr.1 := by
  obtain ⟨configBad, configGood, error, errorNonneg, estimate⟩ := behind
  unfold AlinkController.repeatIdr
  split <;> split <;> exact ⟨configBad, configGood, error, errorNonneg, estimate⟩

end Requests

variable {R : Type} [Field R] [LinearOrder R] [IsStrictOrderedRing R]

/-! ## Configurations -/

/-- What the stages ask of a configuration. -/
structure AlinkConfig.Regular (config : AlinkConfig R) : Prop where
  snrWeight : 0 ≤ config.snrWeight
  rssiWeight : 0 ≤ config.rssiWeight
  weights : config.snrWeight + config.rssiWeight ≤ 1
  snr : config.snrMin < config.snrMax
  rssi : config.rssiMin < config.rssiMax
  noise : config.minNoise < config.maxNoise
  fecNoise : config.minNoiseForFecChange < config.maxNoise
  maxFecNoise : config.noiseForMaxFecChange ≤ config.maxNoise
  processVariance : 0 ≤ config.processVariance
  measurementVariance : 0 < config.measurementVariance

omit [IsStrictOrderedRing R] in
theorem AlinkConfig.Regular.weighted {config : AlinkConfig R} (regular : config.Regular) :
    config.Weighted :=
  ⟨regular.snrWeight, regular.rssiWeight, regular.weights, regular.noise.le⟩

/-- A span of FEC that holds both thresholds fits. -/
theorem AlinkConfig.Regular.fits {config : AlinkConfig R} (regular : config.Regular) :
    config.FecSpanFits := by
  have span := sub_pos.mpr regular.fecNoise
  have reach := sub_le_sub_right regular.maxFecNoise config.minNoiseForFecChange
  exact .inr (.inr (.inl ⟨regular.fecNoise, by linarith⟩))

/-- A power for numbers that are not negative. -/
structure PowerLike (pow : R → R → R) (exponent : R) : Prop where
  nonneg : ∀ t, 0 ≤ t → 0 ≤ pow t exponent
  mono : ∀ s t, 0 ≤ s → s ≤ t → pow s exponent ≤ pow t exponent

/-! ## The error ratio -/

theorem adjustFecRecovered_mono {bad good : R} (le : good ≤ bad) {fecK fecN : Int32}
    (fec : fecK ≤ fecN ∨ fecK < 0 ∨ fecN ≤ 0) :
    adjustFecRecovered good fecK fecN ≤ adjustFecRecovered bad fecK fecN := by
  unfold adjustFecRecovered
  split
  · exact le
  · rename_i set
    have ordered : fecK ≤ fecN := fec.resolve_right set
    rw [Int32.le_iff_toInt_le] at ordered
    have nonneg : (0 : R) ≤ (((fecN - fecK).toInt : ℤ) : R) := by
      rw [toInt_redundancy set]
      exact_mod_cast Int.sub_nonneg.mpr ordered
    apply mul_le_mul_of_nonneg_right le
    exact div_nonneg (by norm_num) (add_nonneg (by norm_num) nonneg)

theorem errorRatio_mono {bad good : LinkSnapshot} (worse : Worse bad good)
    (antennas : 0 < good.numAntennas) :
    (errorRatio good : R) ≤ errorRatio bad := by
  rw [errorRatio, errorRatio, worse.packetsAll, worse.numAntennas, worse.fecK, worse.fecN]
  have adjusted : (adjustFecRecovered (good.packetsFecRecovered : R) good.fecK good.fecN) ≤
      adjustFecRecovered (bad.packetsFecRecovered : R) good.fecK good.fecN :=
    adjustFecRecovered_mono (by exact_mod_cast worse.recovered) worse.fec
  have lost : (good.packetsLost : R) ≤ bad.packetsLost := by exact_mod_cast worse.lost
  have count : (0 : R) ≤ ((good.numAntennas.toInt : ℤ) : R) := by
    have positive := Int32.lt_iff_toInt_lt.mp antennas
    exact_mod_cast positive.le
  apply div_le_div_of_nonneg_right
  · have five : (5.0 : R) * (good.packetsLost : R) ≤ 5.0 * bad.packetsLost :=
      mul_le_mul_of_nonneg_left lost (by norm_num)
    exact add_le_add five adjusted
  · positivity

/-! ## The filter -/

theorem Behind.kalmanUpdate {config : AlinkConfig R} (regular : config.Regular)
    {bad good : AlinkController R} (behind : Behind config bad good) {badRatio goodRatio : R}
    (le : goodRatio ≤ badRatio) :
    Behind config (bad.kalmanUpdate badRatio).1 (good.kalmanUpdate goodRatio).1 ∧
      (good.kalmanUpdate goodRatio).2 ≤ (bad.kalmanUpdate badRatio).2 := by
  obtain ⟨configBad, configGood, error, errorNonneg, estimate⟩ := behind
  have filtering : Filtering good := by
    constructor
    · rw [configGood]
      exact regular.measurementVariance
    · rw [configGood]
      exact regular.processVariance
    · exact errorNonneg
  have gain : bad.kalmanGain = good.kalmanGain := by
    simp only [AlinkController.kalmanGain, AlinkController.predictedError, configBad, configGood,
      error]
  have estimates : (good.kalmanUpdate goodRatio).1.kalmanEstimate ≤
      (bad.kalmanUpdate badRatio).1.kalmanEstimate := by
    rw [AlinkController.kalmanEstimate_update, AlinkController.kalmanEstimate_update, gain]
    have rest := sub_nonneg.mpr filtering.kalmanGain_lt_one.le
    have kept := mul_le_mul_of_nonneg_left estimate rest
    have taken := mul_le_mul_of_nonneg_left le filtering.kalmanGain_nonneg
    linarith
  refine ⟨⟨configBad, configGood, ?_, (filtering.update goodRatio).errorNonneg, estimates⟩,
    estimates⟩
  simp only [AlinkController.kalmanUpdate, configBad, configGood, error]

theorem Behind.filterNoise {config : AlinkConfig R} (regular : config.Regular)
    {bad good : AlinkController R} (behind : Behind config bad good)
    {badSnapshot goodSnapshot : LinkSnapshot} (worse : Worse badSnapshot goodSnapshot) :
    Behind config (bad.filterNoise badSnapshot).1 (good.filterNoise goodSnapshot).1 ∧
      (good.filterNoise goodSnapshot).2.2 ≤ (bad.filterNoise badSnapshot).2.2 := by
  unfold AlinkController.filterNoise
  rw [worse.packetsAll, worse.numAntennas]
  split
  · rename_i traffic
    exact behind.kalmanUpdate regular (errorRatio_mono worse traffic.2)
  · exact ⟨behind, le_refl _⟩

/-! ## The score -/

theorem normalized_eq {low high : R} (lt : low < high) (value : R) :
    normalized value low high = clamp01 ((value - low) / (high - low)) := by
  have span : (high - low != 0.0) = true := by
    rw [bne_iff_ne]
    norm_num
    exact (sub_pos.mpr lt).ne'
  rw [normalized, if_pos span]

theorem normalized_mono {low high value value' : R} (lt : low < high) (le : value ≤ value') :
    normalized value low high ≤ normalized value' low high := by
  rw [normalized_eq lt, normalized_eq lt]
  exact clamp01_mono
    (div_le_div_of_nonneg_right (sub_le_sub_right le low) (sub_pos.mpr lt).le)

theorem rawScore_mono {config : AlinkConfig R} (regular : config.Regular)
    {bad good : LinkSnapshot} (worse : Worse bad good) :
    rawScore config bad ≤ rawScore config good := by
  have snr : ((bad.bestSnr.toInt : ℤ) : R) ≤ ((good.bestSnr.toInt : ℤ) : R) := by
    exact_mod_cast Int32.le_iff_toInt_le.mp worse.snr
  have rssi : ((bad.bestRssi.toInt : ℤ) : R) ≤ ((good.bestRssi.toInt : ℤ) : R) := by
    exact_mod_cast Int32.le_iff_toInt_le.mp worse.rssi
  have snrPart := mul_le_mul_of_nonneg_left (normalized_mono regular.snr snr) regular.snrWeight
  have rssiPart :=
    mul_le_mul_of_nonneg_left (normalized_mono regular.rssi rssi) regular.rssiWeight
  rw [rawScore_eq, rawScore_eq]
  linarith

variable [FloorRing R] {pow : R → R → R}

theorem deductionRatio_eq {config : AlinkConfig R} (regular : config.Regular) {noise : R}
    (le : config.minNoise ≤ noise) :
    deductionRatio (exactLibm pow) config noise =
      min (pow ((noise - config.minNoise) / (config.maxNoise - config.minNoise))
        config.deductionExponent) 1 := by
  have span : (config.maxNoise - config.minNoise != 0.0) = true := by
    rw [bne_iff_ne]
    norm_num
    exact (sub_pos.mpr regular.noise).ne'
  rw [deductionRatio, if_neg (not_lt.mpr le), stdMin_eq, if_pos span]
  norm_num [exactLibm]

theorem deductionRatio_mono {config : AlinkConfig R} (regular : config.Regular)
    (power : PowerLike pow config.deductionExponent) {noise noise' : R} (le : noise ≤ noise') :
    deductionRatio (exactLibm pow) config noise ≤
      deductionRatio (exactLibm pow) config noise' := by
  by_cases quiet : noise < config.minNoise
  · have zero : deductionRatio (exactLibm pow) config noise = 0 := by
      rw [deductionRatio, if_pos quiet]
      norm_num
    rw [zero]
    exact (deductionRatio_mem regular.weighted power.nonneg noise').1
  · have above := not_lt.mp quiet
    have span := (sub_pos.mpr regular.noise).le
    rw [deductionRatio_eq regular above, deductionRatio_eq regular (above.trans le)]
    apply min_le_min_right
    apply power.mono
    · exact div_nonneg (sub_nonneg.mpr above) span
    · exact div_le_div_of_nonneg_right (sub_le_sub_right le _) span

theorem finalScore_mono {config : AlinkConfig R} (regular : config.Regular)
    (power : PowerLike pow config.deductionExponent) {bad good : LinkSnapshot}
    (worse : Worse bad good) {badNoise goodNoise : R} (le : goodNoise ≤ badNoise) :
    finalScore (exactLibm pow) config (rawScore config bad) badNoise ≤
      finalScore (exactLibm pow) config (rawScore config good) goodNoise := by
  have raw := rawScore_mono regular worse
  have deduction := deductionRatio_mono regular power le
  obtain ⟨lower, -⟩ := rawScore_mem regular.weighted bad
  obtain ⟨-, most⟩ := deductionRatio_mem regular.weighted power.nonneg badNoise
  unfold finalScore
  split
  · norm_num
    exact mul_le_mul (sub_le_sub_right raw _) (sub_le_sub_left deduction 1)
      (sub_nonneg.mpr most) (sub_nonneg.mpr (lower.trans raw))
  · exact raw

/-! ## Runs -/

/-- Of two results, the first scores no better and asks for no less FEC. -/
def ScoresNoBetter (bad good : AlinkResult R) : Prop :=
  bad.score ≤ good.score ∧ good.fecChange ≤ bad.fecChange

/-- **One update** on a worse snapshot scores no better, and its filter stays behind. -/
theorem Behind.update {config : AlinkConfig R} (regular : config.Regular)
    (power : PowerLike pow config.deductionExponent) {bad good : AlinkController R}
    (behind : Behind config bad good) {badCall goodCall : Call}
    (worse : Worse badCall.snapshot goodCall.snapshot) :
    Behind config (bad.update (exactLibm pow) badCall).1
        (good.update (exactLibm pow) goodCall).1 ∧
      ScoresNoBetter (bad.update (exactLibm pow) badCall).2
        (good.update (exactLibm pow) goodCall).2 := by
  obtain ⟨filtered, noise⟩ :=
    (behind.requestIdr badCall goodCall).filterNoise regular worse
  refine ⟨filtered.repeatIdr, ?_, ?_⟩
  · simp only [AlinkController.update, behind.configBad, behind.configGood]
    apply toInt_mono
    · exact le_trans (by norm_num)
        (finalScore_mem regular.weighted power.nonneg badCall.snapshot _).1
    · exact finalScore_mono regular power worse noise
    · exact ((finalScore_mem regular.weighted power.nonneg goodCall.snapshot _).2.trans
        (rawScore_mem regular.weighted goodCall.snapshot).2).trans (by norm_num)
  · simp only [AlinkController.update, behind.configBad, behind.configGood]
    exact fecChange_mono regular.fits noise

/-- **A worse link never scores better**, under any configuration the stages can work with. -/
theorem updates_worse {config : AlinkConfig R} (regular : config.Regular)
    (error : 0 ≤ config.kalmanErrorEstimate) (power : PowerLike pow config.deductionExponent)
    {bads goods : List Call}
    (worse : List.Forall₂ (fun bad good => Worse bad.snapshot good.snapshot) bads goods) :
    List.Forall₂ ScoresNoBetter
      ((updates (exactLibm pow)).outputs (AlinkController.create config) bads)
      ((updates (exactLibm pow)).outputs (AlinkController.create config) goods) := by
  refine (Mealy.forall₂_simulation (Behind config) ?_ (behind_create error) worse).2
  intro bad good badCall goodCall behind worse
  obtain ⟨behind', noBetter⟩ := behind.update regular power worse
  exact ⟨behind', .cons noBetter .nil⟩

omit [FloorRing R] in
theorem regular_default (allowPenalty allowFecIncrease : Bool) :
    ({ allowPenalty, allowFecIncrease } : AlinkConfig R).Regular := by
  constructor <;> norm_num

/-- **A worse link never scores better** under the default configuration, whether or not it allows
penalties and changes of FEC. -/
theorem default_worse (allowPenalty allowFecIncrease : Bool) (power : PowerLike pow 0.5)
    {bads goods : List Call}
    (worse : List.Forall₂ (fun bad good => Worse bad.snapshot good.snapshot) bads goods) :
    List.Forall₂ ScoresNoBetter
      ((updates (exactLibm pow)).outputs
        (AlinkController.create { allowPenalty, allowFecIncrease }) bads)
      ((updates (exactLibm pow)).outputs
        (AlinkController.create { allowPenalty, allowFecIncrease }) goods) :=
  updates_worse (regular_default allowPenalty allowFecIncrease) (by norm_num) power worse

theorem worse_trafficCall {lost lost' : ℕ} (le : lost' ≤ lost) :
    Worse (trafficCall lost).snapshot (trafficCall lost').snapshot where
  packetsAll := rfl
  numAntennas := rfl
  fecK := rfl
  fecN := rfl
  fec := .inl (Int32.le_refl _)
  lost := le
  recovered := Nat.le_refl _
  rssi := Int32.le_refl _
  snr := Int32.le_refl _

/-- Real numbers with their power: losses of five and none against losses of one and none. -/
theorem default_worse_real :
    List.Forall₂ ScoresNoBetter
      ((updates (exactLibm fun t e : ℝ => t ^ e)).outputs
        (AlinkController.create { allowPenalty := true, allowFecIncrease := true })
        [trafficCall 5, trafficCall 0])
      ((updates (exactLibm fun t e : ℝ => t ^ e)).outputs
        (AlinkController.create { allowPenalty := true, allowFecIncrease := true })
        [trafficCall 1, trafficCall 0]) :=
  default_worse true true
    ⟨fun _ nonneg => Real.rpow_nonneg nonneg _,
      fun _ _ nonneg le => Real.rpow_le_rpow nonneg le (by norm_num)⟩
    (.cons (worse_trafficCall (by decide)) (.cons (worse_trafficCall (Nat.le_refl _)) .nil))

end Alink

end MobileGs
