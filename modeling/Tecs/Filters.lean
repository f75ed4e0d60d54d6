import Tecs.Frame

/-!
# The two first-order filters

`_initialize_states` ends by giving both filters their parameters and resetting them to zero.
Those lines stand after its `if`, so they run on every call of `update_pitch_throttle`, not only
on the initializing ones, and no filter state survives from one step to the next:

* **`updatePitchThrottle_STERateError`** — after every step, `_STE_rate_error` is one update of
  a filter at zero with this step's raw total-energy rate error, whatever came before;
* **`updatePitchThrottle_TASRateFilter`** — after every step the airspeed-rate filter is at
  zero, so the next `update_vehicle_state_estimates` filters its acceleration from zero
  (**`updateVehicleStateEstimates_tasRateFiltered`**).

`STERateError_not_carried` runs two steps and compares with a filter that remembers.  The
module also fixes the tuning, the cruise inputs and the level-flight estimator update that the
concrete runs of the development use.
-/

namespace Tecs

open Flt

variable {A V : Type} (G : Generators A V)

/-- The filter `_initialize_states` leaves behind: gain `DT_DEFAULT / (τ + DT_DEFAULT)`, state
zero. -/
def freshFilter (τ : ℚ) : AlphaFilter := ⟨DT_DEFAULT / (τ + DT_DEFAULT), 0⟩

lemma resetFilters_filters (p : Param) (s : TECS A V) :
    (resetFilters p s).STERateErrorFilter = freshFilter p.STERateTimeConst ∧
      (resetFilters p s).TASRateFilter = freshFilter p.speedDerivativeTimeConst := ⟨rfl, rfl⟩

/-! ## Every step forgets the filters -/

variable (p : Param) (now ns : UInt64) (i : PitchThrottleInputs) (s : TECS A V)

/-- The filters the two control laws see are fresh, on every step. -/
lemma estimateStates_filters :
    (estimateStates G p now ns i s).STERateErrorFilter = freshFilter p.STERateTimeConst ∧
      (estimateStates G p now ns i s).TASRateFilter = freshFilter p.speedDerivativeTimeConst := by
  simp only [estimateStates, updateEstimates_STERateErrorFilter, updateEstimates_TASRateFilter]
  exact resetFilters_filters p _

/-- **After every step, `_STE_rate_error` is the update of a filter at zero** with this step's
raw total-energy rate error: nothing of the previous steps' errors is left in it. -/
theorem updatePitchThrottle_STERateError :
    (updatePitchThrottle G p now ns i s).STERateError =
      ((freshFilter p.STERateTimeConst).update
        (STERateErrorRaw (estimateStates G p now ns i s))).getState := by
  simp [updatePitchThrottle, updatePitchSetpoint, updateThrottleSetpoint, STERateErrorFilterNext,
    (estimateStates_filters G p now ns i s).1]

/-- **After every step the airspeed-rate filter is at zero.** -/
theorem updatePitchThrottle_TASRateFilter :
    (updatePitchThrottle G p now ns i s).TASRateFilter =
      freshFilter p.speedDerivativeTimeConst := by
  simp [updatePitchThrottle, updatePitchSetpoint, updateThrottleSetpoint,
    (estimateStates_filters G p now ns i s).2]

/-- Hence a measured acceleration that follows a step is filtered from zero. -/
theorem updateVehicleStateEstimates_tasRateFiltered (q : Param) (t : UInt64) (v : VehicleInputs)
    (hv : v.equivalentAirspeed.isFinite = true) (ha : q.airspeedEnabled = true) :
    (updateVehicleStateEstimates q t v (updatePitchThrottle G p now ns i s)).tasRateFiltered =
      ((freshFilter p.speedDerivativeTimeConst).update v.speedDerivForward).getState := by
  simp [updateVehicleStateEstimates, hv, ha, updatePitchThrottle_TASRateFilter]

/-! ## A run -/

/-- A tuning inside the ranges of §3, for the concrete runs of the development. -/
def tuning : Param where
  equivalentAirspeedMin := 10
  equivalentAirspeedMax := 30
  equivalentAirspeedTrim := 20
  maxClimbRate := 5
  maxSinkRate := 5
  minSinkRate := 2
  vertAccelLimit := 7
  jerkMax := 5
  pitchDampingGain := 1 / 10
  throttleDampingGain := 1 / 2
  integratorGainPitch := 1 / 10
  integratorGainThrottle := 1 / 10
  airspeedErrorGain := 1 / 10
  heightErrorGain := 1 / 5
  heightSetpointGainFf := 4 / 5
  pitchSpeedWeight := 1
  loadFactorCorrection := 15
  throttleSlewrate := 0
  tasEstimateFreq := 1
  speedDerivativeTimeConst := 1 / 100
  STERateTimeConst := 1 / 10
  SEBRateFf := 1
  detectUnderspeedEnabled := true
  airspeedEnabled := true
  loadFactor := 1

/-- Level cruise at the trim airspeed, holding 100 m, throttle limits `[0, 1]`, pitch limits
`[-0.5, 0.5]`, no height-rate setpoint. -/
def cruise : PitchThrottleInputs where
  pitch := 0
  baroAltitude := 100
  hgtSetpoint := num 100
  EASSetpoint := 20
  equivalentAirspeed := num 20
  easToTas := 1
  climbOutSetpoint := false
  pitchMinClimbout := 0
  throttleMin := 0
  throttleMax := 1
  throttleTrim := 1 / 2
  pitchLimitMin := -1 / 2
  pitchLimitMax := 1 / 2
  targetClimbrate := 5
  targetSinkrate := 5
  hgtRateSp := nan

/-- A vehicle-state update carrying the airspeed `eas`, at 100 m, level, accelerating at `a`,
with the altitude locked or not. -/
def level (eas : Flt) (a : ℚ) (lock : Bool) : VehicleInputs where
  equivalentAirspeed := eas
  speedDerivForward := a
  altitudeLock := lock
  altitude := 100
  vz := 0

/-- Two steps 20 ms apart that ask for 5 m/s more airspeed.  The first leaves a nonzero energy
rate error; the second step's error is not what a filter that kept the first would give. -/
theorem STERateError_not_carried :
    let i : PitchThrottleInputs := { cruise with EASSetpoint := 25 }
    let s₁ : TECS (Flt × Flt) (Flt × Flt) :=
      updatePitchThrottle atRest tuning 1000 1000 i (TECS.initial atRest)
    let e₂ : TECS (Flt × Flt) (Flt × Flt) := estimateStates atRest tuning 21000 21000 i s₁
    let s₂ : TECS (Flt × Flt) (Flt × Flt) := updatePitchThrottle atRest tuning 21000 21000 i s₁
    s₁.STERateError ≠ 0 ∧
      s₂.STERateError ≠ (({ e₂.STERateErrorFilter with filterState := s₁.STERateError }
        : AlphaFilter).update (STERateErrorRaw e₂)).getState := by
  with_unfolding_all decide

end Tecs
