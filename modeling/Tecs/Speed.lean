import Tecs.State

/-!
# Airspeed: the speed filter, the rate limits, underspeed and the speed setpoint

The stages of `update_pitch_throttle` that deal in airspeed, each a function of the state:

* `updateSpeedStates` — the second-order complementary filter of §4.2, with the clip of
  `_tas_state` at zero and the back-calculated rate;
* `updateSTERateLim` — the total-energy rate limits, kept away from zero by `FLT_EPSILON`;
* `detectUnderspeed` — the underspeed ramp of §4.4 (`underspeedRamp`);
* `updateSpeedHeightWeights` — the pitch-loop weights of §4.6;
* `updateSpeedSetpoint` — the speed setpoint of §4.7.

The lemmas record what each stage guarantees whatever state it starts from.  The one the rest of
the development leans on is **`updateSpeedStates_tasState_cases`**: after the speed filter the
airspeed estimate is a number at least zero, or `nan`, and it is `nan` after a step that starts
from `nan` (the filter cannot flush it).

The three divisors of these stages are named (`speedDt`, `tasRateDivisor`,
`underspeedRampDivisor`), so that `Tecs/Divisions.lean` can state their guards.
-/

namespace Tecs

open Flt

variable {A V : Type}

/-! ## The complementary filter -/

/-- The filter's own time step `dt`: the time since its last update, clamped to
`[DT_MIN, DT_MAX]`. -/
def speedDt (now : UInt64) (s : TECS A V) : Flt :=
  constrain (num (now - s.speedUpdateTimestamp).toNat * 1.0e-6) DT_MIN DT_MAX

/-- `_update_speed_states(equivalent_airspeed_setpoint, equivalent_airspeed, EAS2TAS)`, reading
the clock `now`. -/
def updateSpeedStates (p : Param) (now : UInt64) (equivalentAirspeedSetpoint : ℚ)
    (equivalentAirspeed : Flt) (EAS2TAS : ℚ) (s : TECS A V) : TECS A V :=
  let dt := speedDt now s
  let EAS : Flt := if !equivalentAirspeed.isFinite || !p.airspeedEnabled
    then p.equivalentAirspeedTrim else equivalentAirspeed
  let tasRateState : Flt := if s.speedUpdateTimestamp = 0 then 0 else s.tasRateState
  let tasState := if s.speedUpdateTimestamp = 0 then EAS * EAS2TAS else s.tasState
  let tasInnov := EAS * EAS2TAS - tasState
  let tasRateStateInput := tasInnov * p.tasEstimateFreq * p.tasEstimateFreq
  let tasRateState := tasRateState + tasRateStateInput * dt
  let tasStateInput := tasRateState + s.tasRateRaw + tasInnov * p.tasEstimateFreq * 1.4142
  let newTasState := tasState + tasStateInput * dt
  { s with
    EASSetpoint := equivalentAirspeedSetpoint
    TASSetpoint := (equivalentAirspeedSetpoint : Flt) * EAS2TAS
    TASMax := (p.equivalentAirspeedMax : Flt) * EAS2TAS
    TASMin := (p.equivalentAirspeedMin : Flt) * EAS2TAS
    EAS := EAS
    tasInnov := tasInnov
    tasRateState := if newTasState < 0
      then -tasState / dt - s.tasRateRaw - tasInnov * p.tasEstimateFreq * 1.4142
      else tasRateState
    tasState := if newTasState < 0 then 0 else newTasState
    speedUpdateTimestamp := now }

/-- The filter's time step lies in `[DT_MIN, DT_MAX]`, whatever the clock reads. -/
lemma speedDt_mem (now : UInt64) (s : TECS A V) : DT_MIN ≤ speedDt now s ∧ speedDt now s ≤ DT_MAX :=
  constrain_mem (by simp) (by norm_num)

/-- The clip of the speed filter: a negative number becomes zero, anything else passes. -/
lemma clip_cases (t : Flt) :
    (if t < 0 then 0 else t) = nan ∨ ∃ q, (if t < 0 then 0 else t) = num q ∧ 0 ≤ q := by
  cases t with
  | nan => simp
  | num q =>
      by_cases h : q < 0
      · simp [h]
      · exact .inr ⟨q, by simp [h], not_lt.mp h⟩

/-- **After the speed filter, `_tas_state` is a number at least zero, or `nan`.**  The clip
catches every negative number, and a `nan` fails the test `new_tas_state < 0.0f`. -/
theorem updateSpeedStates_tasState_cases (p : Param) (now : UInt64) (easSp : ℚ) (eas : Flt)
    (e2t : ℚ) (s : TECS A V) :
    (updateSpeedStates p now easSp eas e2t s).tasState = nan ∨
      ∃ q, (updateSpeedStates p now easSp eas e2t s).tasState = num q ∧ 0 ≤ q :=
  clip_cases _

/-- **A `nan` airspeed estimate is never flushed.**  Past the first call of the filter, a
`nan` estimate makes the innovation `nan`, hence the new estimate. -/
theorem updateSpeedStates_tasState_nan (p : Param) (now : UInt64) (easSp : ℚ) (eas : Flt)
    (e2t : ℚ) (s : TECS A V) (hts : s.speedUpdateTimestamp ≠ 0) (hnan : s.tasState = nan) :
    (updateSpeedStates p now easSp eas e2t s).tasState = nan := by
  simp [updateSpeedStates, hts, hnan]

/-- With the airspeed estimate at its target and no rate left in the filter, the filter holds
it: the innovation is zero, so nothing moves. -/
theorem updateSpeedStates_tasState_hold (p : Param) (now : UInt64) (easSp : ℚ) (eas : Flt)
    (e2t t : ℚ) (s : TECS A V) (hts : s.speedUpdateTimestamp ≠ 0)
    (hEAS : (if !eas.isFinite || !p.airspeedEnabled then (p.equivalentAirspeedTrim : Flt)
      else eas) * e2t = num t)
    (htas : s.tasState = num t) (hrate : s.tasRateState = 0) (hraw : s.tasRateRaw = 0)
    (ht : 0 ≤ t) :
    (updateSpeedStates p now easSp eas e2t s).tasState = num t ∧
      (updateSpeedStates p now easSp eas e2t s).tasRateState = 0 := by
  obtain ⟨d, hd, -⟩ := eq_num_of_le (speedDt_mem now s).1
  simp only [updateSpeedStates, hts, if_false, hEAS, htas, hrate, hraw, hd]
  simp [ht]

/-- On the filter's first call the estimate is seeded at its target with no rate, and without a
measured acceleration it stays there. -/
theorem updateSpeedStates_tasState_seed (p : Param) (now : UInt64) (easSp : ℚ) (eas : Flt)
    (e2t t : ℚ) (s : TECS A V) (hts : s.speedUpdateTimestamp = 0)
    (hEAS : (if !eas.isFinite || !p.airspeedEnabled then (p.equivalentAirspeedTrim : Flt)
      else eas) * e2t = num t)
    (hraw : s.tasRateRaw = 0) (ht : 0 ≤ t) :
    (updateSpeedStates p now easSp eas e2t s).tasState = num t ∧
      (updateSpeedStates p now easSp eas e2t s).tasRateState = 0 := by
  obtain ⟨d, hd, -⟩ := eq_num_of_le (speedDt_mem now s).1
  simp only [updateSpeedStates, if_pos hts, hEAS, hraw, hd]
  simp [ht]

/-! ## Rate limits and underspeed -/

/-- `_update_STE_rate_lim()`. -/
def updateSTERateLim (p : Param) (s : TECS A V) : TECS A V :=
  { s with
    STERateMax := mathMax p.maxClimbRate FLT_EPSILON * CONSTANTS_ONE_G
    STERateMin := -mathMax p.minSinkRate FLT_EPSILON * CONSTANTS_ONE_G }

/-- `math::max(x, FLT_EPSILON)` is a positive number for every finite `x`. -/
lemma mathMax_FLT_EPSILON_pos (x : ℚ) : ∃ q, mathMax (num x) FLT_EPSILON = num q ∧ 0 < q := by
  refine ⟨_, mathMax_num, ?_⟩
  split_ifs <;> linarith

lemma CONSTANTS_ONE_G_eq : CONSTANTS_ONE_G = num 9.80665 := rfl

/-- **The total-energy rate limits straddle zero**, for every tuning: `_STE_rate_max > 0` and
`_STE_rate_min < 0`. -/
theorem updateSTERateLim_sign (p : Param) (s : TECS A V) :
    (∃ q, (updateSTERateLim p s).STERateMax = num q ∧ 0 < q) ∧
      ∃ q, (updateSTERateLim p s).STERateMin = num q ∧ q < 0 := by
  obtain ⟨a, ha, ha0⟩ := mathMax_FLT_EPSILON_pos p.maxClimbRate
  obtain ⟨b, hb, hb0⟩ := mathMax_FLT_EPSILON_pos p.minSinkRate
  simp only [updateSTERateLim, ha, hb, CONSTANTS_ONE_G_eq, neg_num, num_mul_num]
  exact ⟨⟨_, rfl, by positivity⟩, ⟨_, rfl, by nlinarith⟩⟩

/-! The ramp of `_detect_underspeed()` takes the error percentage `k` as a parameter where the
source has the constant `kTASErrorPercentage`. -/

/-- `tas_fully_undersped`, where the ramp reaches one. -/
def tasFullyUndersped (k : Flt) (p : Param) (s : TECS A V) : Flt :=
  let tasErrorBound := k * p.equivalentAirspeedTrim
  let tasUnderspeedSoftBound := k * p.equivalentAirspeedTrim
  mathMax (s.TASMin - tasErrorBound - tasUnderspeedSoftBound) 0

/-- `tas_starting_to_underspeed`, where the ramp leaves zero. -/
def tasStartingToUnderspeed (k : Flt) (p : Param) (s : TECS A V) : Flt :=
  let tasErrorBound := k * p.equivalentAirspeedTrim
  mathMax (s.TASMin - tasErrorBound) (tasFullyUndersped k p s)

/-- The ramp's divisor, `math::max(tas_starting_to_underspeed - tas_fully_undersped,
FLT_EPSILON)`. -/
def underspeedRampDivisor (k : Flt) (p : Param) (s : TECS A V) : Flt :=
  mathMax (tasStartingToUnderspeed k p s - tasFullyUndersped k p s) FLT_EPSILON

/-- The new `_percent_undersped` of `_detect_underspeed()` with detection enabled. -/
def underspeedRamp (k : Flt) (p : Param) (s : TECS A V) : Flt :=
  1 - constrain ((s.tasState - tasFullyUndersped k p s) / underspeedRampDivisor k p s) 0 1

/-- `_detect_underspeed()`. -/
def detectUnderspeed (p : Param) (s : TECS A V) : TECS A V :=
  { s with
    percentUndersped :=
      if !p.detectUnderspeedEnabled then 0 else underspeedRamp kTASErrorPercentage p s }

/-! ## Weights and the speed setpoint -/

/-- `_update_speed_height_weights()`. -/
def updateSpeedHeightWeights (p : Param) (s : TECS A V) : TECS A V :=
  let pitchSpeedWeight := constrain p.pitchSpeedWeight 0 2
  let pitchSpeedWeight : Flt :=
    if s.climboutModeActive && p.airspeedEnabled then 2
    else if s.percentUndersped > FLT_EPSILON && p.airspeedEnabled then
      2 * s.percentUndersped + (1 - s.percentUndersped) * pitchSpeedWeight
    else if !p.airspeedEnabled then 0
    else pitchSpeedWeight
  { s with
    SPEWeighting := constrain (2 - pitchSpeedWeight) 0 1
    SKEWeighting := constrain pitchSpeedWeight 0 1 }

/-- `math::max(_tas_state, FLT_EPSILON)`, the divisor of the airspeed-rate limits. -/
def tasRateDivisor (s : TECS A V) : Flt := mathMax s.tasState FLT_EPSILON

/-- `_update_speed_setpoint()`. -/
def updateSpeedSetpoint (p : Param) (s : TECS A V) : TECS A V :=
  let TASSetpoint :=
    if s.uncommandedDescentRecovery then s.TASMin
    else if s.percentUndersped > FLT_EPSILON then
      s.TASMin * s.percentUndersped + (1 - s.percentUndersped) * s.TASSetpoint
    else s.TASSetpoint
  let TASSetpoint := constrain TASSetpoint s.TASMin s.TASMax
  let maxTasRateSp := 0.5 * s.STERateMax / tasRateDivisor s
  let minTasRateSp := 0.5 * s.STERateMin / tasRateDivisor s
  let TASSetpointAdj := constrain TASSetpoint s.TASMin s.TASMax
  { s with
    TASSetpoint := TASSetpoint
    TASSetpointAdj := TASSetpointAdj
    TASRateSetpoint := if p.airspeedEnabled then
      constrain ((TASSetpointAdj - s.tasState) * p.airspeedErrorGain) minTasRateSp maxTasRateSp
      else 0 }

end Tecs
