import Tecs.SpeedLoop

/-!
# What every run keeps

The controller is a state machine with two entry points, and the host may interleave them in
any order, with any clock readings and any tuning.  This module collects what holds of every
state a run can reach, and what one entry point leaves for the other.

* **`updatePitchThrottle_tecsMode_exact`** — every step publishes a mode that reports the
  underspeed and the descent latch exactly: the mode's priority puts underspeed first, but the
  detector never leaves the latch set on an undersped step, so no latched recovery hides behind
  the underspeed mode.
* **`resetsStates_after_altitude_reset`** — a call of `update_vehicle_state_estimates` that
  resets the altitude (first call, a gap beyond `DT_MAX`, or a lost altitude lock) is never
  forgotten: whatever estimate calls follow, the next `update_pitch_throttle` re-initialises.
* **`run_timestamps`** — in every run each timestamp is the clock of the last call of its own
  kind, so each entry point measures its time step from its own previous call, whatever calls of
  the other were interleaved.
-/

namespace Tecs

open Flt

variable {A V : Type} (G : Generators A V)

/-! ## The published mode -/

/-- The detector clears the latch on an undersped step: the entry test fails and the exit test
holds. -/
lemma detectUncommandedDescent_of_undersped (t : TECS A V)
    (h : t.percentUndersped > FLT_EPSILON) :
    (detectUncommandedDescent t).uncommandedDescentRecovery = false := by
  rw [detectUncommandedDescent_recovery]
  simp [descentEnterMode, descentExitMode, h]

/-- A step never publishes the descent latch together with an underspeed: the detector runs on
this step's ratio. -/
lemma updatePitchThrottle_recovery_of_undersped (p : Param) (now ns : UInt64)
    (i : PitchThrottleInputs) (s : TECS A V)
    (h : (updatePitchThrottle G p now ns i s).percentUndersped > FLT_EPSILON) :
    (updatePitchThrottle G p now ns i s).uncommandedDescentRecovery = false := by
  rw [updatePitchThrottle_percentUndersped, estimateStates, (updateEstimates_descent G p ns i _).2]
    at h
  rw [updatePitchThrottle_uncommandedDescentRecovery, estimateStates,
    (updateEstimates_descent G p ns i _).1]
  exact detectUncommandedDescent_of_undersped _ h

/-- `reset_altitude`, the local of `update_vehicle_state_estimates`: the first call, a gap beyond
`DT_MAX` since the last one, or a lost altitude lock. -/
def resetAltitude (now : UInt64) (i : VehicleInputs) (s : TECS A V) : Bool :=
  s.stateUpdateTimestamp = 0 || fmaxf (num (now - s.stateUpdateTimestamp).toNat * 1e-6) DT_MIN > DT_MAX ||
    !i.altitudeLock

lemma updateVehicleStateEstimates_statesInitialized (p : Param) (now : UInt64)
    (i : VehicleInputs) (s : TECS A V) :
    (updateVehicleStateEstimates p now i s).statesInitialized =
      (s.statesInitialized && !resetAltitude now i s) := by
  show (if resetAltitude now i s then false else s.statesInitialized) = _
  cases resetAltitude now i s <;> simp

/-- The estimate calls of a run, each with the tuning and the clock it sees. -/
def vehicleCalls (vs : List (Param × UInt64 × VehicleInputs)) : List (Param × Call) :=
  vs.map fun v => (v.1, .updateVehicleStateEstimates v.2.1 v.2.2)

/-- Estimate calls never mark the states initialised. -/
lemma run_vehicleCalls_statesInitialized (vs : List (Param × UInt64 × VehicleInputs))
    {s : TECS A V} (h : s.statesInitialized = false) :
    (run G (vehicleCalls vs) s).statesInitialized = false := by
  induction vs generalizing s with
  | nil => exact h
  | cons v vs ih =>
      apply ih
      rw [Call.apply, updateVehicleStateEstimates_statesInitialized, h, Bool.false_and]

/-- **An altitude reset is never forgotten before the next `update_pitch_throttle`**: after an
estimate call that resets the altitude, and any estimate calls after it, the next step
re-initialises. -/
theorem resetsStates_after_altitude_reset (p : Param) (now : UInt64) (v : VehicleInputs)
    (s : TECS A V) (hreset : resetAltitude now v s = true)
    (vs : List (Param × UInt64 × VehicleInputs)) (now' : UInt64) (i : PitchThrottleInputs) :
    resetsStates (beginPitchThrottle now' i
      (run G (vehicleCalls vs) (updateVehicleStateEstimates p now v s))) = true := by
  have h := run_vehicleCalls_statesInitialized G vs (s := updateVehicleStateEstimates p now v s) (by
    rw [updateVehicleStateEstimates_statesInitialized, hreset, Bool.not_true, Bool.and_false])
  simp only [resetsStates, beginPitchThrottle, h, Bool.not_false, Bool.or_true]

/-- A cruise step, then an estimate call that loses the altitude lock and one that has it
again: the next step re-initialises. -/
theorem resets_after_lost_lock :
    let s : TECS (Flt × Flt) (Flt × Flt) :=
      updatePitchThrottle atRest tuning 1000 1000 cruise (TECS.initial atRest)
    let v : VehicleInputs := { level (num 20) 0 true with altitudeLock := false }
    resetAltitude 11000 v s = true ∧
      resetsStates (beginPitchThrottle 31000 cruise
        (run atRest (vehicleCalls [(tuning, 21000, level (num 20) 0 true)])
          (updateVehicleStateEstimates tuning 11000 v s))) = true :=
  ⟨by with_unfolding_all decide,
    resetsStates_after_altitude_reset atRest tuning 11000 _ _ (by with_unfolding_all decide) _ _ _⟩

/-! ## Each entry point keeps its own clock

`update_vehicle_state_estimates` times itself with `_state_update_timestamp`, and
`update_pitch_throttle` with `_pitch_update_timestamp` and, inside the speed filter,
`_speed_update_timestamp`.  Neither entry point writes the other's timestamps, so in every run
each timestamp is the clock of the last call of its own kind, whatever calls of the other kind
were interleaved. -/

/-- The clock a call stamps `_state_update_timestamp` with, if it does. -/
def Call.stateClock : Call → Option UInt64
  | .updateVehicleStateEstimates now _ => some now
  | .updatePitchThrottle _ _ _ => none

/-- The clock a call stamps `_pitch_update_timestamp` with, if it does. -/
def Call.pitchClock : Call → Option UInt64
  | .updateVehicleStateEstimates _ _ => none
  | .updatePitchThrottle now _ _ => some now

/-- The clock a call stamps `_speed_update_timestamp` with, if it does. -/
def Call.speedClock : Call → Option UInt64
  | .updateVehicleStateEstimates _ _ => none
  | .updatePitchThrottle _ nowSpeed _ => some nowSpeed

/-- The clock of the last call of a run that stamps, or `t` if none does. -/
def lastClock (clock : Call → Option UInt64) : List (Param × Call) → UInt64 → UInt64
  | [], t => t
  | (_, c) :: cs, t => lastClock clock cs ((clock c).getD t)

/-- A step leaves the estimate calls' timestamp alone. -/
lemma updatePitchThrottle_stateUpdateTimestamp (p : Param) (now ns : UInt64)
    (i : PitchThrottleInputs) (s : TECS A V) :
    (updatePitchThrottle G p now ns i s).stateUpdateTimestamp = s.stateUpdateTimestamp := by
  have hest : ∀ t : TECS A V,
      (updateEstimates G p ns i t).stateUpdateTimestamp = t.stateUpdateTimestamp := fun t => by
    rw [updateEstimates, calculateHeightRateSetpoint_eq]; rfl
  rw [show (updatePitchThrottle G p now ns i s).stateUpdateTimestamp =
      (estimateStates G p now ns i s).stateUpdateTimestamp by
    unfold updatePitchThrottle updatePitchSetpoint updateThrottleSetpoint; rfl, estimateStates, hest]
  unfold initializeStates
  split_ifs <;> rfl

/-- A step stamps the speed filter's timestamp with the clock it read inside the filter. -/
lemma updatePitchThrottle_speedUpdateTimestamp (p : Param) (now ns : UInt64)
    (i : PitchThrottleInputs) (s : TECS A V) :
    (updatePitchThrottle G p now ns i s).speedUpdateTimestamp = ns := by
  rw [show (updatePitchThrottle G p now ns i s).speedUpdateTimestamp =
      (estimateStates G p now ns i s).speedUpdateTimestamp by
    unfold updatePitchThrottle updatePitchSetpoint updateThrottleSetpoint; rfl,
    estimateStates, updateEstimates, calculateHeightRateSetpoint_eq]
  rfl

/-- One call stamps each timestamp with its own clock, if it has one, and leaves the others. -/
lemma Call.apply_timestamps (p : Param) (c : Call) (s : TECS A V) :
    (c.apply G p s).stateUpdateTimestamp = c.stateClock.getD s.stateUpdateTimestamp ∧
      (c.apply G p s).pitchUpdateTimestamp = c.pitchClock.getD s.pitchUpdateTimestamp ∧
      (c.apply G p s).speedUpdateTimestamp = c.speedClock.getD s.speedUpdateTimestamp := by
  cases c with
  | updateVehicleStateEstimates now i => exact ⟨rfl, rfl, rfl⟩
  | updatePitchThrottle now ns i =>
      exact ⟨updatePitchThrottle_stateUpdateTimestamp G p now ns i s,
        by unfold Call.apply Tecs.updatePitchThrottle; rfl,
        updatePitchThrottle_speedUpdateTimestamp G p now ns i s⟩

/-- **In every run, each timestamp is the clock of the last call of its own kind**, whatever
calls of the other kind were interleaved: the time step a call of either entry point computes
is measured from the previous call of the same entry point. -/
theorem run_timestamps (cs : List (Param × Call)) (s : TECS A V) :
    (run G cs s).stateUpdateTimestamp = lastClock Call.stateClock cs s.stateUpdateTimestamp ∧
      (run G cs s).pitchUpdateTimestamp = lastClock Call.pitchClock cs s.pitchUpdateTimestamp ∧
      (run G cs s).speedUpdateTimestamp = lastClock Call.speedClock cs s.speedUpdateTimestamp := by
  induction cs generalizing s with
  | nil => exact ⟨rfl, rfl, rfl⟩
  | cons pc cs ih =>
      obtain ⟨p, c⟩ := pc
      obtain ⟨h₁, h₂, h₃⟩ := Call.apply_timestamps G p c s
      simp only [run, lastClock, ← h₁, ← h₂, ← h₃]
      exact ih _

end Tecs
