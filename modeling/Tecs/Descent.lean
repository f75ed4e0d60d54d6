import Tecs.Filters

/-!
# The uncommanded-descent latch across climbout and re-initialisation

`_detect_uncommanded_descent` runs after `_initialize_states`, in the same step, and reads what
the initializer leaves behind: the previous step's `_STE_error`, `_SPE_rate` and `_SKE_rate`,
which no branch of the initializer touches, and `_last_throttle_setpoint`.  `detectorInput` is
the state it reads.

* **`updatePitchThrottle_climbout_recovery`** — on a climbout step that does not re-initialise,
  the latch that the climbout branch clears is set again exactly when the detector's entry test
  holds on the previous step's energy error, energy rate and throttle, and the published mode
  is `ECL_TECS_MODE_BAD_DESCENT` exactly when the latch is set.
* **`updatePitchThrottle_STEError`** — the energy error a step publishes, which the next step's
  detector reads, is this step's setpoints less the estimates the step started from: the energy
  accountant forms `_STE_error` before it refreshes `_SPE_estimate` and `_SKE_estimate`, and
  nothing before it writes them.
* `recovery_during_climbout` is such a step after a run from the initial state;
  `reset_reads_stale_energy` runs two histories that agree on the estimator data into the same
  stale step, which re-initialises both, and gets two modes; `STEError_of_previous_estimates` is
  a step after a 10 m climb whose published error is not that of its published state.
-/

namespace Tecs

open Flt

variable {A V : Type} (G : Generators A V)

/-- The state `_detect_uncommanded_descent` reads: stages (4) to (8) of `update_pitch_throttle`,
from the generator constraints to the speed and height weights. -/
def detectorInput (p : Param) (ns : UInt64) (i : PitchThrottleInputs) (s : TECS A V) :
    TECS A V :=
  s |> updateTrajectoryGenerationConstraints G p
    |> updateSpeedStates p ns i.EASSetpoint i.equivalentAirspeed i.easToTas
    |> updateSTERateLim p
    |> detectUnderspeed p
    |> updateSpeedHeightWeights p

variable (p : Param) (now ns : UInt64) (i : PitchThrottleInputs) (s : TECS A V)

/-- The latch and the underspeed ratio the control laws see are the detector's. -/
lemma updateEstimates_descent :
    (updateEstimates G p ns i s).uncommandedDescentRecovery =
        (detectUncommandedDescent (detectorInput G p ns i s)).uncommandedDescentRecovery ∧
      (updateEstimates G p ns i s).percentUndersped =
        (detectorInput G p ns i s).percentUndersped := by
  simp only [updateEstimates, calculateHeightRateSetpoint_eq]
  exact ⟨rfl, rfl⟩

/-- What the detector reads passes unchanged through the stages before it: the latch, the
previous step's energy error and energy rates, the last throttle and the throttle maximum. -/
lemma detectorInput_reads :
    (detectorInput G p ns i s).uncommandedDescentRecovery = s.uncommandedDescentRecovery ∧
      (detectorInput G p ns i s).STEError = s.STEError ∧
      (detectorInput G p ns i s).SPERate = s.SPERate ∧
      (detectorInput G p ns i s).SKERate = s.SKERate ∧
      (detectorInput G p ns i s).lastThrottleSetpoint = s.lastThrottleSetpoint ∧
      (detectorInput G p ns i s).throttleSetpointMax = s.throttleSetpointMax := by
  unfold detectorInput; exact ⟨rfl, rfl, rfl, rfl, rfl, rfl⟩

/-- On a climbout step that does not re-initialise, the control laws start from the climbout
branch of the initializer. -/
lemma estimateStates_of_climbout (hr : resetsStates (beginPitchThrottle now i s) = false)
    (hc : i.climbOutSetpoint = true) :
    estimateStates G p now ns i s = updateEstimates G p ns i
      (resetFilters p (climboutStates i.baroAltitude i.pitchMinClimbout i.easToTas
        (beginPitchThrottle now i s))) :=
  congrArg (updateEstimates G p ns i) (initializeStates_of_climbout G p _ _ _ _ _ _ hr hc)

/-- **During climbout the latch follows the detector's entry test on the previous step**: on a
climbout step that does not re-initialise, `_uncommanded_descent_recovery` ends set exactly when
the step is not undersped and the previous step left `_STE_error > 200`, a falling total energy
and a throttle at 90% of this step's maximum or more; and the published mode is
`ECL_TECS_MODE_BAD_DESCENT` exactly when the latch is set. -/
theorem updatePitchThrottle_climbout_recovery
    (hr : resetsStates (beginPitchThrottle now i s) = false) (hc : i.climbOutSetpoint = true) :
    (updatePitchThrottle G p now ns i s).uncommandedDescentRecovery =
        (!((updatePitchThrottle G p now ns i s).percentUndersped > FLT_EPSILON) &&
          s.STEError > 200 && s.SPERate + s.SKERate < 0 &&
          s.lastThrottleSetpoint ≥ (i.throttleMax : Flt) * 0.9) ∧
      ((updatePitchThrottle G p now ns i s).tecsMode = .ECL_TECS_MODE_BAD_DESCENT ↔
        (updatePitchThrottle G p now ns i s).uncommandedDescentRecovery = true) := by
  have he := estimateStates_of_climbout G p now ns i s hr hc
  obtain ⟨hrec, hpu⟩ := updateEstimates_descent G p ns i
    (resetFilters p (climboutStates i.baroAltitude i.pitchMinClimbout i.easToTas
      (beginPitchThrottle now i s)))
  obtain ⟨h0, h1, h2, h3, h4, h5⟩ := detectorInput_reads G p ns i
    (resetFilters p (climboutStates i.baroAltitude i.pitchMinClimbout i.easToTas
      (beginPitchThrottle now i s)))
  -- the climbout branch has cleared the latch the detector starts from
  have hcleared : (resetFilters p (climboutStates i.baroAltitude i.pitchMinClimbout i.easToTas
      (beginPitchThrottle now i s))).uncommandedDescentRecovery = false := rfl
  have hflag : (updatePitchThrottle G p now ns i s).uncommandedDescentRecovery =
      (!((updatePitchThrottle G p now ns i s).percentUndersped > FLT_EPSILON) &&
        s.STEError > 200 && s.SPERate + s.SKERate < 0 &&
        s.lastThrottleSetpoint ≥ (i.throttleMax : Flt) * 0.9) := by
    rw [updatePitchThrottle_uncommandedDescentRecovery, updatePitchThrottle_percentUndersped, he,
      hrec, hpu, detectUncommandedDescent_recovery, descentEnterMode, h0, h1, h2, h3, h4, h5,
      hcleared, Bool.false_and, Bool.or_false, Bool.not_false, Bool.true_and]
    rfl
  have hclimb : (updatePitchThrottle G p now ns i s).climboutModeActive = true := by
    rw [updatePitchThrottle_climboutModeActive, estimateStates_climboutModeActive, hc]
  refine ⟨hflag, ?_⟩
  rw [updatePitchThrottle_tecsMode]
  unfold tecsModeOf
  rw [hclimb]
  by_cases hu : (updatePitchThrottle G p now ns i s).percentUndersped > FLT_EPSILON
  · rw [if_pos hu, hflag, decide_eq_true hu]
    simp
  · rw [if_neg hu]
    cases (updatePitchThrottle G p now ns i s).uncommandedDescentRecovery <;> simp

/-- A cruise step, then a climbout step that does not re-initialise. -/
theorem climbout_recovery_after_cruise :
    let c : PitchThrottleInputs := { cruise with climbOutSetpoint := true }
    let s₁ : TECS (Flt × Flt) (Flt × Flt) :=
      updatePitchThrottle atRest tuning 1000 1000 cruise (TECS.initial atRest)
    let s₂ : TECS (Flt × Flt) (Flt × Flt) := updatePitchThrottle atRest tuning 21000 21000 c s₁
    s₂.uncommandedDescentRecovery =
        (!(s₂.percentUndersped > FLT_EPSILON) && s₁.STEError > 200 &&
          s₁.SPERate + s₁.SKERate < 0 && s₁.lastThrottleSetpoint ≥ (c.throttleMax : Flt) * 0.9) ∧
      (s₂.tecsMode = .ECL_TECS_MODE_BAD_DESCENT ↔ s₂.uncommandedDescentRecovery = true) :=
  updatePitchThrottle_climbout_recovery atRest tuning 21000 21000 _ _
    (by with_unfolding_all decide) rfl

/-- Cruise, a descent at 1 m/s, then two climbout steps asking for 30 m/s: the second does not
re-initialise, and it sets the latch and publishes `ECL_TECS_MODE_BAD_DESCENT`. -/
theorem recovery_during_climbout :
    let c : PitchThrottleInputs :=
      { cruise with climbOutSetpoint := true, EASSetpoint := 30 }
    let s : TECS (Flt × Flt) (Flt × Flt) := run atRest
      [(tuning, .updateVehicleStateEstimates 1000 (level (num 20) 0 true)),
       (tuning, .updatePitchThrottle 1000 1000 cruise),
       (tuning, .updateVehicleStateEstimates 11000 { level (num 20) 0 true with vz := 1 }),
       (tuning, .updatePitchThrottle 21000 21000 c)]
      (TECS.initial atRest)
    let s' : TECS (Flt × Flt) (Flt × Flt) :=
      updatePitchThrottle atRest tuning 41000 41000 c s
    resetsStates (beginPitchThrottle 41000 c s) = false ∧ s'.uncommandedDescentRecovery = true ∧
      s'.tecsMode = .ECL_TECS_MODE_BAD_DESCENT := by
  with_unfolding_all decide

/-- Two histories that differ only in the airspeed asked for on their second step, so that they
end with the same clocks and estimator data but different energy errors; then a step two
seconds later, which re-initialises both, with the throttle trim at the maximum.  The first
history's stale `_STE_error` and `_SPE_rate` set the latch on the re-initialising step, and the
two publish different modes. -/
theorem reset_reads_stale_energy :
    let before : List (Param × Call) :=
      [(tuning, .updateVehicleStateEstimates 1000 (level (num 20) 0 true)),
       (tuning, .updatePitchThrottle 1000 1000 cruise),
       (tuning, .updateVehicleStateEstimates 11000 { level (num 20) 0 true with vz := 1 })]
    let s₁ : TECS (Flt × Flt) (Flt × Flt) :=
      run atRest (before ++ [(tuning, .updatePitchThrottle 21000 21000
      { cruise with EASSetpoint := 30 })]) (TECS.initial atRest)
    let s₂ : TECS (Flt × Flt) (Flt × Flt) :=
      run atRest (before ++ [(tuning, .updatePitchThrottle 21000 21000 cruise)])
      (TECS.initial atRest)
    let r : PitchThrottleInputs := { cruise with throttleTrim := 1 }
    s₁.stateUpdateTimestamp = s₂.stateUpdateTimestamp ∧
    s₁.speedUpdateTimestamp = s₂.speedUpdateTimestamp ∧
    s₁.pitchUpdateTimestamp = s₂.pitchUpdateTimestamp ∧ s₁.EAS = s₂.EAS ∧
    s₁.vertPosState = s₂.vertPosState ∧ s₁.vertVelState = s₂.vertVelState ∧
    s₁.tasRateRaw = s₂.tasRateRaw ∧ s₁.tasRateFiltered = s₂.tasRateFiltered ∧
    resetsStates (beginPitchThrottle 2021000 r s₁) = true ∧
    resetsStates (beginPitchThrottle 2021000 r s₂) = true ∧
    (updatePitchThrottle atRest tuning 2021000 2021000 r s₁).tecsMode =
      .ECL_TECS_MODE_BAD_DESCENT ∧
    (updatePitchThrottle atRest tuning 2021000 2021000 r s₂).tecsMode = .ECL_TECS_MODE_NORMAL := by
  with_unfolding_all decide

/-! ## The energy error the detector reads -/

/-- The energy accountant forms the error from the estimates it is handed, before it refreshes
them. -/
lemma updateEstimates_STEError :
    (updateEstimates G p ns i s).STEError =
      (updateEstimates G p ns i s).SPESetpoint - s.SPEEstimate +
        (updateEstimates G p ns i s).SKESetpoint - s.SKEEstimate := by
  rw [updateEstimates, calculateHeightRateSetpoint_eq]; rfl

/-- **A step publishes this step's energy setpoints less the previous step's estimates as its
energy error**: no stage before the energy accountant, the initializer included, writes
`_SPE_estimate` or `_SKE_estimate`. -/
theorem updatePitchThrottle_STEError :
    (updatePitchThrottle G p now ns i s).STEError =
      (updatePitchThrottle G p now ns i s).SPESetpoint - s.SPEEstimate +
        (updatePitchThrottle G p now ns i s).SKESetpoint - s.SKEEstimate := by
  have hinit : (initializeStates G p i.pitch i.throttleTrim i.baroAltitude i.pitchMinClimbout
      i.easToTas (beginPitchThrottle now i s)).SPEEstimate = s.SPEEstimate ∧
      (initializeStates G p i.pitch i.throttleTrim i.baroAltitude i.pitchMinClimbout
        i.easToTas (beginPitchThrottle now i s)).SKEEstimate = s.SKEEstimate := by
    unfold initializeStates; split_ifs <;> exact ⟨rfl, rfl⟩
  unfold updatePitchThrottle updatePitchSetpoint updateThrottleSetpoint
  dsimp only
  rw [estimateStates, updateEstimates_STEError, hinit.1, hinit.2]

/-- A cruise step, an estimator update 10 ms later that reports 110 m, and a step 20 ms after
the first.  The published `_STE_error` is neither `(_SPE_setpoint - _SPE_estimate) +
(_SKE_setpoint - _SKE_estimate)` of the published state nor `g (h_sp - h) + (v_sp² - v²) / 2`. -/
theorem STEError_of_previous_estimates :
    let s : TECS (Flt × Flt) (Flt × Flt) := run atRest
      [(tuning, .updateVehicleStateEstimates 1000 (level (num 20) 0 true)),
       (tuning, .updatePitchThrottle 1000 1000 cruise),
       (tuning, .updateVehicleStateEstimates 11000 { level (num 20) 0 true with altitude := 110 }),
       (tuning, .updatePitchThrottle 21000 21000 cruise)]
      (TECS.initial atRest)
    s.STEError ≠ s.SPESetpoint - s.SPEEstimate + (s.SKESetpoint - s.SKEEstimate) ∧
      s.STEError ≠ CONSTANTS_ONE_G * (s.hgtSetpoint - s.vertPosState) +
        0.5 * (s.TASSetpointAdj * s.TASSetpointAdj - s.tasState * s.tasState) := by
  with_unfolding_all decide

end Tecs
