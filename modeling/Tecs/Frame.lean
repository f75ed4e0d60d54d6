import Tecs.Step

/-!
# Frames of a step

What each part of `update_pitch_throttle` leaves alone, stated once so that later proofs rewrite
with these lemmas instead of unfolding the step:

* the estimation stages (from the generator constraints to the energy accountant) write
  estimates, setpoints and rates, and pass the time step, the limits and the control laws' own
  states and outputs through unchanged; only the speed filter writes `_tas_state`;
* the control laws start from the limits in force, the last outputs and a time step of at least
  `DT_MIN`, in the branch structure of `_initialize_states`;
* a step publishes the limits, the time step and the estimates the laws started from, and each
  law's own outputs.
-/

namespace Tecs

open Flt

variable {A V : Type} (G : Generators A V)

/-! ## What the estimation stages leave alone

The stages from the generator constraints to the energy accountant write estimates, setpoints
and rates; the time step, the limits and the two control laws' own states and outputs pass
through them unchanged.  The speed filter is the only stage that writes `_tas_state`.
-/

section Frame
variable (p : Param) (ns : UInt64) (i : PitchThrottleInputs) (s : TECS A V)

@[simp] lemma updateEstimates_dt : (updateEstimates G p ns i s).dt = s.dt := by
  rw [updateEstimates, calculateHeightRateSetpoint_eq]; rfl

@[simp] lemma updateEstimates_climboutModeActive :
    (updateEstimates G p ns i s).climboutModeActive = s.climboutModeActive := by
  rw [updateEstimates, calculateHeightRateSetpoint_eq]; rfl

@[simp] lemma updateEstimates_pitchSetpointMin :
    (updateEstimates G p ns i s).pitchSetpointMin = s.pitchSetpointMin := by
  rw [updateEstimates, calculateHeightRateSetpoint_eq]; rfl

@[simp] lemma updateEstimates_pitchSetpointMax :
    (updateEstimates G p ns i s).pitchSetpointMax = s.pitchSetpointMax := by
  rw [updateEstimates, calculateHeightRateSetpoint_eq]; rfl

@[simp] lemma updateEstimates_lastPitchSetpoint :
    (updateEstimates G p ns i s).lastPitchSetpoint = s.lastPitchSetpoint := by
  rw [updateEstimates, calculateHeightRateSetpoint_eq]; rfl

@[simp] lemma updateEstimates_throttleSetpointMin :
    (updateEstimates G p ns i s).throttleSetpointMin = s.throttleSetpointMin := by
  rw [updateEstimates, calculateHeightRateSetpoint_eq]; rfl

@[simp] lemma updateEstimates_throttleSetpointMax :
    (updateEstimates G p ns i s).throttleSetpointMax = s.throttleSetpointMax := by
  rw [updateEstimates, calculateHeightRateSetpoint_eq]; rfl

@[simp] lemma updateEstimates_throttleTrim :
    (updateEstimates G p ns i s).throttleTrim = s.throttleTrim := by
  rw [updateEstimates, calculateHeightRateSetpoint_eq]; rfl

@[simp] lemma updateEstimates_lastThrottleSetpoint :
    (updateEstimates G p ns i s).lastThrottleSetpoint = s.lastThrottleSetpoint := by
  rw [updateEstimates, calculateHeightRateSetpoint_eq]; rfl

@[simp] lemma updateEstimates_throttleIntegState :
    (updateEstimates G p ns i s).throttleIntegState = s.throttleIntegState := by
  rw [updateEstimates, calculateHeightRateSetpoint_eq]; rfl

@[simp] lemma updateEstimates_STERateErrorFilter :
    (updateEstimates G p ns i s).STERateErrorFilter = s.STERateErrorFilter := by
  rw [updateEstimates, calculateHeightRateSetpoint_eq]; rfl

@[simp] lemma updateEstimates_TASRateFilter :
    (updateEstimates G p ns i s).TASRateFilter = s.TASRateFilter := by
  rw [updateEstimates, calculateHeightRateSetpoint_eq]; rfl

lemma updateEstimates_tasState :
    (updateEstimates G p ns i s).tasState =
      (updateSpeedStates p ns i.EASSetpoint i.equivalentAirspeed i.easToTas s).tasState := by
  rw [updateEstimates, calculateHeightRateSetpoint_eq]; rfl

lemma updateEstimates_tasRateState :
    (updateEstimates G p ns i s).tasRateState =
      (updateSpeedStates p ns i.EASSetpoint i.equivalentAirspeed i.easToTas s).tasRateState := by
  rw [updateEstimates, calculateHeightRateSetpoint_eq]; rfl

end Frame

/-! ## What the control laws start from

The limits in force, the last outputs and the time step after the initializer, in the branch
structure of `_initialize_states`.
-/

section Start
variable (p : Param) (now ns : UInt64) (i : PitchThrottleInputs) (s : TECS A V)

@[simp] lemma beginPitchThrottle_climboutModeActive :
    (beginPitchThrottle now i s).climboutModeActive = i.climbOutSetpoint := rfl

/-- The climbout flag the control laws see is the argument of this step. -/
lemma estimateStates_climboutModeActive :
    (estimateStates G p now ns i s).climboutModeActive = i.climbOutSetpoint := by
  simp only [estimateStates, updateEstimates_climboutModeActive]
  unfold initializeStates
  split_ifs <;> rfl

/-- The pitch limits in force: `pitch_limit_min`, or `pitch_min_climbout` on a climbout step
that does not re-initialise, and `pitch_limit_max`. -/
lemma estimateStates_pitchSetpoint :
    (estimateStates G p now ns i s).pitchSetpointMin =
        (if resetsStates (beginPitchThrottle now i s) then (i.pitchLimitMin : Flt)
          else if i.climbOutSetpoint then (i.pitchMinClimbout : Flt) else i.pitchLimitMin) ∧
      (estimateStates G p now ns i s).pitchSetpointMax = i.pitchLimitMax := by
  simp only [estimateStates, updateEstimates_pitchSetpointMin, updateEstimates_pitchSetpointMax]
  unfold initializeStates
  simp only [beginPitchThrottle_climboutModeActive]
  split_ifs <;> exact ⟨rfl, rfl⟩

/-- The throttle limits in force: `throttle_min`, or `throttle_max - 0.01` on a climbout step
that does not re-initialise, and `throttle_max`. -/
lemma estimateStates_throttleSetpoint :
    (estimateStates G p now ns i s).throttleSetpointMin =
        (if resetsStates (beginPitchThrottle now i s) then (i.throttleMin : Flt)
          else if i.climbOutSetpoint then (i.throttleMax : Flt) - 0.01 else i.throttleMin) ∧
      (estimateStates G p now ns i s).throttleSetpointMax = i.throttleMax := by
  simp only [estimateStates, updateEstimates_throttleSetpointMin,
    updateEstimates_throttleSetpointMax]
  unfold initializeStates
  simp only [beginPitchThrottle_climboutModeActive]
  split_ifs <;> exact ⟨rfl, rfl⟩

/-- The throttle trim the throttle law sees is the argument of this step. -/
lemma estimateStates_throttleTrim :
    (estimateStates G p now ns i s).throttleTrim = i.throttleTrim := by
  simp only [estimateStates, updateEstimates_throttleTrim]
  unfold initializeStates
  split_ifs <;> rfl

/-- The last published pitch the rate limit starts from: the clamped input pitch on a step that
re-initialises, the previous step's output otherwise. -/
lemma estimateStates_lastPitchSetpoint :
    (estimateStates G p now ns i s).lastPitchSetpoint =
      if resetsStates (beginPitchThrottle now i s) then
        .fin (constrain i.pitch i.pitchLimitMin i.pitchLimitMax)
      else s.lastPitchSetpoint := by
  simp only [estimateStates, updateEstimates_lastPitchSetpoint]
  unfold initializeStates
  split_ifs <;> rfl

/-- The last published throttle and the throttle integrator the throttle law starts from. -/
lemma estimateStates_throttle :
    (estimateStates G p now ns i s).lastThrottleSetpoint =
        (if resetsStates (beginPitchThrottle now i s) then (i.throttleTrim : Flt)
          else s.lastThrottleSetpoint) ∧
      (estimateStates G p now ns i s).throttleIntegState =
        if resetsStates (beginPitchThrottle now i s) then 0 else s.throttleIntegState := by
  simp only [estimateStates, updateEstimates_lastThrottleSetpoint,
    updateEstimates_throttleIntegState]
  unfold initializeStates
  split_ifs <;> exact ⟨rfl, rfl⟩

/-- `fmaxf` bounds the time step from below, whatever the clock reads. -/
lemma beginPitchThrottle_dt_ge : DT_MIN ≤ (beginPitchThrottle now i s).dt := by
  simp only [beginPitchThrottle, DT_MIN, num_ofScientific, num_mul_num, fmaxf_num, num_le_num]
  exact le_max_right _ _

/-- The initializer replaces the time step only on a re-initialising step, by `DT_DEFAULT`, and
only when it lies outside `[DT_MIN, DT_MAX]`. -/
lemma initializeStates_dt (pitch trim baro pmc e2t : ℚ) (t : TECS A V) :
    (initializeStates G p pitch trim baro pmc e2t t).dt =
      if resetsStates t then (if t.dt > DT_MAX || t.dt < DT_MIN then DT_DEFAULT else t.dt)
      else t.dt := by
  unfold initializeStates
  by_cases hr : resetsStates t
  · rw [if_pos hr, if_pos hr]; rfl
  · rw [if_neg hr, if_neg hr]; split_ifs <;> rfl

/-- The time step the control laws see is at least `DT_MIN`: `fmaxf` bounds it from below, and
the initializer only replaces it by `DT_DEFAULT`. -/
lemma estimateStates_dt_ge : DT_MIN ≤ (estimateStates G p now ns i s).dt := by
  have hb := beginPitchThrottle_dt_ge now i s
  rw [estimateStates, updateEstimates_dt, initializeStates_dt]
  split_ifs
  · norm_num [DT_MIN, DT_DEFAULT]
  · exact hb
  · exact hb

/-- The time step the control laws see is at most `DT_MAX`: a larger one makes the initializer
reset, and the reset replaces it by `DT_DEFAULT`. -/
lemma estimateStates_dt_le : (estimateStates G p now ns i s).dt ≤ DT_MAX := by
  obtain ⟨d, hd, -⟩ := eq_num_of_le (beginPitchThrottle_dt_ge now i s)
  rw [estimateStates, updateEstimates_dt, initializeStates_dt, hd]
  split_ifs with hr hout
  · simp only [DT_MAX, DT_DEFAULT, num_ofNat, num_ofScientific, num_le_num]; norm_num
  · simp_all [DT_MAX, gt_iff_lt]
  · simp_all [resetsStates, DT_MAX, gt_iff_lt]

/-- The airspeed estimate the control laws see is `nan` or a number at least zero. -/
lemma estimateStates_tasState_cases :
    (estimateStates G p now ns i s).tasState = nan ∨
      ∃ q, (estimateStates G p now ns i s).tasState = num q ∧ 0 ≤ q := by
  rw [estimateStates, updateEstimates_tasState]
  exact updateSpeedStates_tasState_cases _ _ _ _ _ _

end Start

/-! ## What a step publishes

The two control laws write their own outputs and nothing the estimation stages computed: the
limits, the time step, the airspeed estimate, the latch and the underspeed ratio a step
publishes are those the laws started from.
-/

section Publish
variable (p : Param) (now ns : UInt64) (i : PitchThrottleInputs) (s : TECS A V)

@[simp] lemma updatePitchThrottle_dt :
    (updatePitchThrottle G p now ns i s).dt = (estimateStates G p now ns i s).dt := by
  unfold updatePitchThrottle updatePitchSetpoint updateThrottleSetpoint; rfl

@[simp] lemma updatePitchThrottle_climboutModeActive :
    (updatePitchThrottle G p now ns i s).climboutModeActive = (estimateStates G p now ns i s).climboutModeActive := by
  unfold updatePitchThrottle updatePitchSetpoint updateThrottleSetpoint; rfl

@[simp] lemma updatePitchThrottle_pitchSetpointMin :
    (updatePitchThrottle G p now ns i s).pitchSetpointMin = (estimateStates G p now ns i s).pitchSetpointMin := by
  unfold updatePitchThrottle updatePitchSetpoint updateThrottleSetpoint; rfl

@[simp] lemma updatePitchThrottle_pitchSetpointMax :
    (updatePitchThrottle G p now ns i s).pitchSetpointMax = (estimateStates G p now ns i s).pitchSetpointMax := by
  unfold updatePitchThrottle updatePitchSetpoint updateThrottleSetpoint; rfl

@[simp] lemma updatePitchThrottle_throttleSetpointMin :
    (updatePitchThrottle G p now ns i s).throttleSetpointMin = (estimateStates G p now ns i s).throttleSetpointMin := by
  unfold updatePitchThrottle updatePitchSetpoint updateThrottleSetpoint; rfl

@[simp] lemma updatePitchThrottle_throttleSetpointMax :
    (updatePitchThrottle G p now ns i s).throttleSetpointMax = (estimateStates G p now ns i s).throttleSetpointMax := by
  unfold updatePitchThrottle updatePitchSetpoint updateThrottleSetpoint; rfl

@[simp] lemma updatePitchThrottle_tasState :
    (updatePitchThrottle G p now ns i s).tasState = (estimateStates G p now ns i s).tasState := by
  unfold updatePitchThrottle updatePitchSetpoint updateThrottleSetpoint; rfl

@[simp] lemma updatePitchThrottle_tasRateState :
    (updatePitchThrottle G p now ns i s).tasRateState = (estimateStates G p now ns i s).tasRateState := by
  unfold updatePitchThrottle updatePitchSetpoint updateThrottleSetpoint; rfl

@[simp] lemma updatePitchThrottle_uncommandedDescentRecovery :
    (updatePitchThrottle G p now ns i s).uncommandedDescentRecovery = (estimateStates G p now ns i s).uncommandedDescentRecovery := by
  unfold updatePitchThrottle updatePitchSetpoint updateThrottleSetpoint; rfl

@[simp] lemma updatePitchThrottle_percentUndersped :
    (updatePitchThrottle G p now ns i s).percentUndersped = (estimateStates G p now ns i s).percentUndersped := by
  unfold updatePitchThrottle updatePitchSetpoint updateThrottleSetpoint; rfl

/-- The throttle law's outputs. -/
lemma updatePitchThrottle_throttle :
    (updatePitchThrottle G p now ns i s).throttleIntegState =
        throttleIntegStateNext p (estimateStates G p now ns i s) ∧
      (updatePitchThrottle G p now ns i s).lastThrottleSetpoint =
        constrain (throttleSetpointSlewed p (estimateStates G p now ns i s))
          (estimateStates G p now ns i s).throttleSetpointMin
          (estimateStates G p now ns i s).throttleSetpointMax := by
  unfold updatePitchThrottle updatePitchSetpoint updateThrottleSetpoint; exact ⟨rfl, rfl⟩

/-- The pitch law's outputs; it starts from the state the throttle law leaves. -/
lemma updatePitchThrottle_pitch :
    (updatePitchThrottle G p now ns i s).pitchSetpointUnc =
        pitchSetpointUncNext p (updateThrottleSetpoint p (estimateStates G p now ns i s)) ∧
      (updatePitchThrottle G p now ns i s).lastPitchSetpoint =
        (updatePitchSetpoint p (updateThrottleSetpoint p (estimateStates G p now ns i s))).lastPitchSetpoint := by
  unfold updatePitchThrottle; exact ⟨rfl, rfl⟩

/-- The mode is read off the state the step publishes. -/
lemma updatePitchThrottle_tecsMode :
    (updatePitchThrottle G p now ns i s).tecsMode = tecsModeOf (updatePitchThrottle G p now ns i s) := by
  unfold updatePitchThrottle; rfl

end Publish

end Tecs
