import MobileGs.Foundations.BigEndian
import MobileGs.Foundations.Mealy
import MobileGs.Wfb.Receiver

/-!
# The adaptive-link controller

`AlinkController` turns each snapshot of the link into a message for the air unit: a score, the
change of FEC it asks for, and, for some messages after a loss, the code of a keyframe request.
It carries the state of a Kalman filter and the pending request from call to call.

The arithmetic is that of a type `R` with the operations the code applies to its doubles and no
laws. The functions of `<cmath>` and the conversion to an integer are a parameter (`Libm`). The
machine's doubles are one choice (`doubles`), exact numbers another. The random generator gives any
four letters.
-/

set_option autoImplicit false

namespace MobileGs

namespace Alink

open Wfb

variable {R : Type} [Add R] [Sub R] [Mul R] [Div R] [Neg R] [LT R] [DecidableLT R] [LE R]
  [DecidableLE R] [BEq R] [NatCast R] [IntCast R] [OfScientific R]

/-- `std::pow`, `std::lround`, and the conversion of a double to an `int`. -/
structure Libm (R : Type) where
  pow : R → R → R
  lround : R → ℤ
  toInt : R → Int32

/-- `std::max`. -/
def stdMax (a b : R) : R := if a < b then b else a

/-- `std::min`. -/
def stdMin (a b : R) : R := if b < a then b else a

/-- `Clamp01`. -/
def clamp01 (v : R) : R := stdMax 0.0 (stdMin 1.0 v)

/-! ## Data -/

/-- What `MakeIdrCode` can return. -/
structure IdrCode where
  letters : List Char
  length_eq : letters.length = 4
  lowercase : letters.all Char.isLower = true
  deriving DecidableEq

/-- `AlinkConfig`. The defaults are those of the header. -/
structure AlinkConfig (R : Type) [Neg R] [OfScientific R] where
  enabled : Bool := false
  intervalMs : Int32 := 100
  snrWeight : R := 0.5
  rssiWeight : R := 0.5
  snrMin : R := 12.0
  snrMax : R := 38.0
  rssiMin : R := -80.0
  rssiMax : R := -30.0
  allowIdr : Bool := true
  idrMaxMessages : Int32 := 20
  allowPenalty : Bool := false
  allowFecIncrease : Bool := false
  minNoise : R := 0.01
  maxNoise : R := 0.1
  deductionExponent : R := 0.5
  minNoiseForFecChange : R := 0.01
  noiseForMaxFecChange : R := 0.1
  kalmanEstimate : R := 0.005
  kalmanErrorEstimate : R := 0.1
  processVariance : R := 1e-5
  measurementVariance : R := 0.01

/-- `AlinkResult`. A string is the list of its characters. -/
structure AlinkResult (R : Type) where
  message : List Char
  score : Int32
  rawScore : R
  penalty : R
  fecChange : Int32
  errorRatio : R
  filteredNoise : R
  idrCode : List Char

/-- `AlinkController`. -/
structure AlinkController (R : Type) [Neg R] [OfScientific R] where
  config : AlinkConfig R
  kalmanEstimate : R
  kalmanErrorEstimate : R
  idrCode : List Char := []
  idrRemaining : Int32 := 0

/-- The constructor. -/
def AlinkController.create (config : AlinkConfig R) : AlinkController R where
  config := config
  kalmanEstimate := config.kalmanEstimate
  kalmanErrorEstimate := config.kalmanErrorEstimate

/-- `set_config`. -/
def AlinkController.setConfig (controller : AlinkController R) (config : AlinkConfig R) :
    AlinkController R :=
  { controller with config }

/-! ## The noise of the link -/

/-- `KalmanUpdate`, with the estimate it returns. -/
def AlinkController.kalmanUpdate (controller : AlinkController R) (measurement : R) :
    AlinkController R × R :=
  let predictedEstimate := controller.kalmanEstimate
  let predictedError := controller.kalmanErrorEstimate + controller.config.processVariance
  let kalmanGain := predictedError / (predictedError + controller.config.measurementVariance)
  let kalmanEstimate := predictedEstimate + kalmanGain * (measurement - predictedEstimate)
  let kalmanErrorEstimate := (1.0 - kalmanGain) * predictedError
  ({ controller with kalmanEstimate, kalmanErrorEstimate }, kalmanEstimate)

/-- `AdjustFecRecovered`. -/
def adjustFecRecovered (fecRecovered : R) (fecK fecN : Int32) : R :=
  if fecK < 0 ∨ fecN ≤ 0 then fecRecovered
  else
    let redundancy := (((fecN - fecK).toInt : ℤ) : R)
    let weight := 6.0 / (1.0 + redundancy)
    fecRecovered * weight

/-- The error ratio of a snapshot with traffic. -/
def errorRatio (snapshot : LinkSnapshot) : R :=
  let adjusted := adjustFecRecovered (snapshot.packetsFecRecovered : R) snapshot.fecK snapshot.fecN
  (5.0 * (snapshot.packetsLost : R) + adjusted) /
    ((snapshot.packetsAll : R) / ((snapshot.numAntennas.toInt : ℤ) : R))

/-- The part of `Update` that measures the noise: the error ratio and the filtered noise. Without
traffic both are zero and the filter is left alone. -/
def AlinkController.filterNoise (controller : AlinkController R) (snapshot : LinkSnapshot) :
    AlinkController R × R × R :=
  if (snapshot.packetsAll : R) > 0.0 ∧ snapshot.numAntennas > 0 then
    let ratio := errorRatio snapshot
    let updated := controller.kalmanUpdate ratio
    (updated.1, ratio, updated.2)
  else (controller, 0.0, 0.0)

/-! ## The score -/

/-- A value on the scale of `low` to `high`. -/
def normalized (value low high : R) : R :=
  let span := high - low
  if span != 0.0 then clamp01 ((value - low) / span) else 0.0

def rawScore (config : AlinkConfig R) (snapshot : LinkSnapshot) : R :=
  let snrNormalized :=
    normalized ((snapshot.bestSnr.toInt : ℤ) : R) config.snrMin config.snrMax
  let rssiNormalized :=
    normalized ((snapshot.bestRssi.toInt : ℤ) : R) config.rssiMin config.rssiMax
  let scoreNormalized := config.snrWeight * snrNormalized + config.rssiWeight * rssiNormalized
  1000.0 + scoreNormalized * 1000.0

variable (libm : Libm R)

def deductionRatio (config : AlinkConfig R) (filteredNoise : R) : R :=
  if filteredNoise < config.minNoise then 0.0
  else
    let noiseSpan := config.maxNoise - config.minNoise
    let t := if noiseSpan != 0.0 then (filteredNoise - config.minNoise) / noiseSpan else 1.0
    stdMin (libm.pow t config.deductionExponent) 1.0

def finalScore (config : AlinkConfig R) (raw filteredNoise : R) : R :=
  if config.allowPenalty then
    1000.0 + (raw - 1000.0) * (1.0 - deductionRatio libm config filteredNoise)
  else raw

def penalty (config : AlinkConfig R) (raw final : R) : R :=
  if config.allowPenalty then final - raw else 0.0

def fecChange (config : AlinkConfig R) (filteredNoise : R) : Int32 :=
  if config.allowFecIncrease = false ∨ filteredNoise ≤ config.minNoiseForFecChange then 0
  else if filteredNoise ≥ config.noiseForMaxFecChange then 5
  else
    let span := config.maxNoise - config.minNoiseForFecChange
    let t := if span != 0.0 then (filteredNoise - config.minNoiseForFecChange) / span else 0.0
    Int32.ofInt (libm.lround (t * 5.0))

/-! ## The message -/

/-- A number as `%d` and `%llu` print it. -/
def decimal (value : ℤ) : List Char :=
  if value < 0 then '-' :: Nat.toDigits 10 value.natAbs else Nat.toDigits 10 value.natAbs

/-- The fields of a message, without the code of a request. -/
def messageFields (snapshot : LinkSnapshot) (unixTimeS : UInt64) (score : Int32) (penalty : R)
    (fecChange : Int32) : List (List Char) :=
  [decimal unixTimeS.toNat, decimal score.toInt, decimal score.toInt,
    decimal (libm.toInt (snapshot.packetsFecRecovered : R)).toInt,
    decimal (libm.toInt (snapshot.packetsLost : R)).toInt,
    decimal snapshot.bestRssi.toInt, decimal snapshot.bestSnr.toInt,
    decimal snapshot.numAntennas.toInt, decimal (libm.toInt penalty).toInt,
    decimal fecChange.toInt]

/-- `snprintf` into a buffer of 256 characters. -/
def printed (fields : List (List Char)) : List Char := (List.intercalate [':'] fields).take 255

/-! ## Keyframe requests -/

/-- The part of `Update` that starts a request, with the code drawn if there is one to be. -/
def AlinkController.requestIdr (controller : AlinkController R) (snapshot : LinkSnapshot)
    (drawn : IdrCode) : AlinkController R :=
  if snapshot.packetsLost > 0 ∧ controller.config.allowIdr then
    { controller with
      idrCode := drawn.letters
      idrRemaining := controller.config.idrMaxMessages }
  else controller

/-- A request is to be put into the next message. -/
def AlinkController.IdrPending (controller : AlinkController R) : Prop :=
  controller.idrCode ≠ [] ∧ controller.idrRemaining > 0

instance (controller : AlinkController R) : Decidable controller.IdrPending :=
  inferInstanceAs (Decidable (_ ∧ _))

/-- The part of `Update` that puts a pending request into the message: the code it puts there, if
any. -/
def AlinkController.repeatIdr (controller : AlinkController R) :
    AlinkController R × List Char :=
  if controller.IdrPending then
    let idrRemaining := controller.idrRemaining - 1
    ({ controller with
        idrCode := if idrRemaining = 0 then [] else controller.idrCode
        idrRemaining },
      controller.idrCode)
  else (controller, [])

/-! ## The controller as a machine -/

/-- The arguments of `Update`, and the code the generator has next. -/
structure Call where
  snapshot : LinkSnapshot
  unixTimeS : UInt64
  drawn : IdrCode

/-- `Update`. -/
def AlinkController.update (controller : AlinkController R) (call : Call) :
    AlinkController R × AlinkResult R :=
  let config := controller.config
  let filtered := (controller.requestIdr call.snapshot call.drawn).filterNoise call.snapshot
  let filteredNoise := filtered.2.2
  let raw := rawScore config call.snapshot
  let final := finalScore libm config raw filteredNoise
  let score := libm.toInt final
  let penalty := penalty config raw final
  let fecChange := fecChange libm config filteredNoise
  let buffer := printed (messageFields libm call.snapshot call.unixTimeS score penalty fecChange)
  let repeated := filtered.1.repeatIdr
  (repeated.1,
    { message := if repeated.2 = [] then buffer else buffer ++ ':' :: repeated.2
      score
      rawScore := raw
      penalty
      fecChange
      errorRatio := filtered.2.1
      filteredNoise
      idrCode := repeated.2 })

/-- The noise the filter makes of a call. -/
def AlinkController.noiseOf (controller : AlinkController R) (call : Call) : R :=
  ((controller.requestIdr call.snapshot call.drawn).filterNoise call.snapshot).2.2

/-- `Frame`. -/
def frame (message : List Char) : List Byte :=
  be32 message.length ++ message.map fun char => UInt8.ofNat char.toNat

/-- A sequence of calls of `Update`. -/
def updates : Mealy (AlinkController R) Call (AlinkResult R) where
  step controller call :=
    let updated := controller.update libm call
    (updated.1, [updated.2])

inductive Event (R : Type) [Neg R] [OfScientific R] where
  | update (call : Call)
  | setConfig (config : AlinkConfig R)

/-- A sequence of calls of `Update` and `set_config`. -/
def machine : Mealy (AlinkController R) (Event R) (AlinkResult R) where
  step controller
    | .update call => (updates libm).step controller call
    | .setConfig config => (controller.setConfig config, [])

/-! ## Doubles -/

instance natCastFloat : NatCast Float := ⟨Float.ofNat⟩

instance intCastFloat : IntCast Float := ⟨Float.ofInt⟩

/-- The functions of the machine's doubles. -/
def doubles : Libm Float where
  pow := Float.pow
  lround := fun x => x.round.toInt64.toInt
  toInt := Float.toInt32

end Alink

end MobileGs
