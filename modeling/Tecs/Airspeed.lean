import Tecs.Filters

/-!
# Airspeed sensing: the estimate across re-initialisation, and a disabled sensor

`update_vehicle_state_estimates` stores the measured airspeed in `_EAS` as it comes, finite or
not, whether or not the sensor is enabled.  `_update_speed_states` replaces a non-finite or
unused measurement by the trim airspeed, and its first call seeds `_tas_state` from that
sanitised value.  The reset branch of `_initialize_states`, however, seeds `_tas_state` from
`_EAS` before `_update_speed_states` runs, that is from the raw measurement.

* **`updatePitchThrottle_tasState_nan`** — a step that re-initialises while `_EAS` is `nan`, or
  that continues from a `nan` estimate, ends with a `nan` estimate: past its first call the
  complementary filter cannot flush it.
* **`updatePitchThrottle_tasState_trim`** — without an airspeed sensor, a step that does not
  re-initialise keeps the estimate at `trim · EAS2TAS`.

`airspeed_dropout_at_reinit` and `tasState_off_trim_after_reinit` are runs in which the raw
`_EAS` reaches `_tas_state`.

* **`tasState_of_steadyAirspeed`** — in every run where the airspeed reads a constant `E` with no
  acceleration and the sensor enabled, the estimate is exactly `E · EAS2TAS` with no rate left in
  the filter at every state past the filter's first call, re-initialisations included: the
  sanitised `_EAS` that seeds the estimate is then the measurement itself.

With the sensor disabled the throttle law uses the feedforward alone, but its integral handling
sits inside `if (airspeed_sensor_enabled())` with no `else`: the integrator is neither updated nor
zeroed (**`updatePitchThrottle_throttleIntegState_of_disabled`**), and the value it held before
the sensor was disabled is added to the throttle again once it is re-enabled
(`throttleIntegState_kept_while_disabled`).
-/

namespace Tecs

open Flt

variable {A V : Type} (G : Generators A V)

/-! ## The estimate through the stages -/

section
variable (p : Param) (pitch trim baro pmc e2t : ℚ) (s : TECS A V)

/-- The initializer seeds the estimate from `_EAS` when it resets, and leaves it otherwise. -/
lemma initializeStates_tasState :
    (initializeStates G p pitch trim baro pmc e2t s).tasState =
      if resetsStates s then s.EAS * e2t else s.tasState := by
  unfold initializeStates
  split_ifs <;> rfl

lemma initializeStates_tasRateState :
    (initializeStates G p pitch trim baro pmc e2t s).tasRateState =
      if resetsStates s then 0 else s.tasRateState := by
  unfold initializeStates
  split_ifs <;> rfl

@[simp] lemma initializeStates_speedUpdateTimestamp :
    (initializeStates G p pitch trim baro pmc e2t s).speedUpdateTimestamp =
      s.speedUpdateTimestamp := by
  unfold initializeStates
  split_ifs <;> rfl

@[simp] lemma initializeStates_tasRateRaw :
    (initializeStates G p pitch trim baro pmc e2t s).tasRateRaw = s.tasRateRaw := by
  unfold initializeStates
  split_ifs <;> rfl

end

variable (p : Param) (now ns : UInt64) (i : PitchThrottleInputs) (s : TECS A V)

/-! ## A `nan` estimate is absorbing -/

/-- **Once `nan`, the estimate stays `nan`**: on a step past the first call of the speed
filter, if the initializer resets while `_EAS` is `nan`, or does not reset while the estimate is
`nan`, the step ends with a `nan` estimate. -/
theorem updatePitchThrottle_tasState_nan (hts : s.speedUpdateTimestamp ≠ 0)
    (h : resetsStates (beginPitchThrottle now i s) = true ∧ s.EAS = nan ∨
      resetsStates (beginPitchThrottle now i s) = false ∧ s.tasState = nan) :
    (updatePitchThrottle G p now ns i s).tasState = nan := by
  rw [updatePitchThrottle_tasState, estimateStates, updateEstimates_tasState]
  apply updateSpeedStates_tasState_nan _ _ _ _ _ _ (by simpa using hts)
  show (initializeStates G p _ _ _ _ _ _).tasState = nan
  rw [initializeStates_tasState]
  rcases h with ⟨hr, he⟩ | ⟨hr, ht⟩
  · rw [if_pos hr]
    exact congrArg (· * _) he
  · rw [if_neg (by simp [hr])]
    exact ht

/-! ## Without a sensor the estimate holds the trim airspeed -/

/-- **Without an airspeed sensor, a step that does not re-initialise keeps the estimate at
`trim · EAS2TAS`**, provided the filter carries no rate, as it does not once the sensor is off. -/
theorem updatePitchThrottle_tasState_trim (hoff : p.airspeedEnabled = false)
    (hts : s.speedUpdateTimestamp ≠ 0) (hr : resetsStates (beginPitchThrottle now i s) = false)
    (htas : s.tasState = num (p.equivalentAirspeedTrim * i.easToTas))
    (hrate : s.tasRateState = 0) (hraw : s.tasRateRaw = 0)
    (hpos : 0 ≤ p.equivalentAirspeedTrim * i.easToTas) :
    (updatePitchThrottle G p now ns i s).tasState = num (p.equivalentAirspeedTrim * i.easToTas) ∧
      (updatePitchThrottle G p now ns i s).tasRateState = 0 := by
  rw [updatePitchThrottle_tasRateState, updatePitchThrottle_tasState, estimateStates,
    updateEstimates_tasState, updateEstimates_tasRateState]
  apply updateSpeedStates_tasState_hold _ _ _ _ _ _ _ (by simpa using hts) (by simp [hoff])
    _ _ (by simpa using hraw) hpos
  · show (initializeStates G p _ _ _ _ _ _).tasState = _
    rw [initializeStates_tasState, if_neg (by simp [hr])]
    exact htas
  · show (initializeStates G p _ _ _ _ _ _).tasRateState = _
    rw [initializeStates_tasRateState, if_neg (by simp [hr])]
    exact hrate

/-! ## A steady airspeed is estimated exactly -/

/-- The airspeed a step stores: the measurement, or the trim airspeed when it is not finite or
the sensor is disabled. -/
lemma updatePitchThrottle_EAS :
    (updatePitchThrottle G p now ns i s).EAS =
      if !i.equivalentAirspeed.isFinite || !p.airspeedEnabled then (p.equivalentAirspeedTrim : Flt)
      else i.equivalentAirspeed := by
  rw [show (updatePitchThrottle G p now ns i s).EAS = (estimateStates G p now ns i s).EAS by
    unfold updatePitchThrottle updatePitchSetpoint updateThrottleSetpoint; rfl]
  rw [estimateStates, updateEstimates, calculateHeightRateSetpoint_eq]; rfl

/-- A step leaves the measured acceleration to the estimate calls. -/
lemma updatePitchThrottle_tasRateRaw :
    (updatePitchThrottle G p now ns i s).tasRateRaw = s.tasRateRaw := by
  rw [show (updatePitchThrottle G p now ns i s).tasRateRaw = (estimateStates G p now ns i s).tasRateRaw by
    unfold updatePitchThrottle updatePitchSetpoint updateThrottleSetpoint; rfl]
  have hest : ∀ t : TECS A V, (updateEstimates G p ns i t).tasRateRaw = t.tasRateRaw := fun t => by
    rw [updateEstimates, calculateHeightRateSetpoint_eq]; rfl
  rw [estimateStates, hest, initializeStates_tasRateRaw]; rfl

/-- The assumption of a steady airspeed `E`: every estimate call reads `E` with no acceleration,
and every step reads `E` with the sensor enabled and `EAS2TAS = r`. -/
def steadyAirspeed (E r : ℚ) : Param → Call → TECS A V → Prop
  | _, .updateVehicleStateEstimates _ v, _ => v.equivalentAirspeed = num E ∧ v.speedDerivForward = 0
  | p, .updatePitchThrottle _ _ i, _ =>
      p.airspeedEnabled = true ∧ i.equivalentAirspeed = num E ∧ i.easToTas = r

/-- What a steady airspeed keeps: no measured acceleration and, past the filter's first call,
the stored airspeed `E` and the estimate `E · r` with no rate in the filter. -/
structure SteadyEstimate (E r : ℚ) (s : TECS A V) : Prop where
  tasRateRaw_eq : s.tasRateRaw = 0
  estimate : s.speedUpdateTimestamp ≠ 0 →
    s.EAS = num E ∧ s.tasState = num (E * r) ∧ s.tasRateState = 0

omit p now ns i s in
lemma SteadyEstimate.updateVehicleStateEstimates {E r : ℚ} {s : TECS A V}
    (h : SteadyEstimate E r s) (p : Param) (now : UInt64) {v : VehicleInputs}
    (hE : v.equivalentAirspeed = num E) (ha : v.speedDerivForward = 0) :
    SteadyEstimate E r (updateVehicleStateEstimates p now v s) where
  tasRateRaw_eq := by
    simp only [Tecs.updateVehicleStateEstimates, ha]
    split <;> rfl
  estimate hts := ⟨hE, (h.estimate hts).2⟩

lemma SteadyEstimate.updatePitchThrottle {E r : ℚ} (h : SteadyEstimate E r s) (hEr : 0 ≤ E * r)
    (hon : p.airspeedEnabled = true) (hE : i.equivalentAirspeed = num E) (hr : i.easToTas = r) :
    SteadyEstimate E r (updatePitchThrottle G p now ns i s) where
  tasRateRaw_eq := (updatePitchThrottle_tasRateRaw G p now ns i s).trans h.1
  estimate _ := by
    have hEAS : (if !i.equivalentAirspeed.isFinite || !p.airspeedEnabled then
        (p.equivalentAirspeedTrim : Flt) else i.equivalentAirspeed) = num E := by simp [hE, hon]
    have hseed : (if !i.equivalentAirspeed.isFinite || !p.airspeedEnabled then
        (p.equivalentAirspeedTrim : Flt) else i.equivalentAirspeed) * (i.easToTas : Flt) =
        num (E * r) := by rw [hEAS, hr]; rfl
    refine ⟨(updatePitchThrottle_EAS G p now ns i s).trans hEAS, ?_⟩
    rw [updatePitchThrottle_tasRateState, updatePitchThrottle_tasState, estimateStates,
      updateEstimates_tasState, updateEstimates_tasRateState]
    have hraw : (initializeStates G p i.pitch i.throttleTrim i.baroAltitude i.pitchMinClimbout
        i.easToTas (beginPitchThrottle now i s)).tasRateRaw = 0 := by
      rw [initializeStates_tasRateRaw]; exact h.1
    by_cases hts : s.speedUpdateTimestamp = 0
    · exact updateSpeedStates_tasState_seed _ _ _ _ _ _ _ (by simpa using hts) hseed hraw hEr
    · obtain ⟨hEAS', htas, hrate⟩ := h.estimate hts
      apply updateSpeedStates_tasState_hold _ _ _ _ _ _ _ (by simpa using hts) hseed _ _ hraw hEr
      · rw [initializeStates_tasState]
        split_ifs
        · show s.EAS * (i.easToTas : Flt) = _
          rw [hEAS', hr]; rfl
        · exact htas
      · rw [initializeStates_tasRateState]
        split_ifs
        · rfl
        · exact hrate

omit p now ns i s in
lemma SteadyEstimate.of_reachableUnder {E r : ℚ} (hEr : 0 ≤ E * r) {s : TECS A V}
    (hs : ReachableUnder G (steadyAirspeed E r) s) : SteadyEstimate E r s := by
  induction hs with
  | initial => exact ⟨rfl, fun h => absurd rfl h⟩
  | call p c _ hH ih =>
      cases c with
      | updateVehicleStateEstimates now v => exact ih.updateVehicleStateEstimates p now hH.1 hH.2
      | updatePitchThrottle now ns i => exact ih.updatePitchThrottle G p now ns i _ hEr hH.1 hH.2.1 hH.2.2

/-- **A steady airspeed is estimated exactly**: in every run where the airspeed reads `E`
throughout, with no acceleration, the sensor enabled and `EAS2TAS = r` (with `E · r ≥ 0`), the
estimate is `E · r` with no rate left in the filter at every state past the filter's first
call, across re-initialisations and whatever the clock reads. -/
theorem tasState_of_steadyAirspeed (E r : ℚ) (hEr : 0 ≤ E * r) {s : TECS A V}
    (hs : ReachableUnder G (steadyAirspeed E r) s) (hts : s.speedUpdateTimestamp ≠ 0) :
    s.tasState = num (E * r) ∧ s.tasRateState = 0 :=
  ((SteadyEstimate.of_reachableUnder G hEr hs).estimate hts).2

/-- An estimate call and a cruise step at 20 m/s. -/
theorem steady_cruise_tasState :
    let s : TECS (Flt × Flt) (Flt × Flt) :=
      Call.apply atRest tuning (.updatePitchThrottle 1000 1000 cruise)
        (Call.apply atRest tuning (.updateVehicleStateEstimates 1000 (level (num 20) 0 true))
          (TECS.initial atRest))
    s.tasState = num (20 * 1) ∧ s.tasRateState = 0 :=
  tasState_of_steadyAirspeed atRest 20 1 (by norm_num)
    (.call tuning _ (.call tuning _ .initial ⟨rfl, rfl⟩) ⟨rfl, rfl, rfl⟩)
    (by with_unfolding_all decide)

/-! ## Runs in which the raw measurement reaches the estimate -/

/-- Cruise, then the altitude lock is lost while the airspeed reading is `nan`.  Every input
except the airspeed and the height-rate setpoint is finite, yet the estimate and the published
throttle end `nan`. -/
theorem airspeed_dropout_at_reinit :
    let s : TECS (Flt × Flt) (Flt × Flt) := run atRest
      [(tuning, .updateVehicleStateEstimates 1000 (level (num 20) 0 true)),
       (tuning, .updatePitchThrottle 1000 1000 cruise),
       (tuning, .updateVehicleStateEstimates 21000 (level nan 0 false)),
       (tuning, .updatePitchThrottle 21000 21000 { cruise with equivalentAirspeed := nan })]
      (TECS.initial atRest)
    s.tasState = nan ∧ s.lastThrottleSetpoint = nan := by
  with_unfolding_all decide

/-- With the sensor disabled throughout, trim 20 m/s and `EAS2TAS = 1`: the altitude lock is
lost while the (unused) reading is 15 m/s, and the estimate after that step is not 20 m/s. -/
theorem tasState_off_trim_after_reinit :
    let q : Param := { tuning with airspeedEnabled := false }
    let s : TECS (Flt × Flt) (Flt × Flt) := run atRest
      [(q, .updateVehicleStateEstimates 1000 (level (num 20) 0 true)),
       (q, .updatePitchThrottle 1000 1000 cruise),
       (q, .updateVehicleStateEstimates 21000 (level (num 15) 0 false)),
       (q, .updatePitchThrottle 21000 21000 { cruise with equivalentAirspeed := num 15 })]
      (TECS.initial atRest)
    s.tasState ≠ num (q.equivalentAirspeedTrim * cruise.easToTas) := by
  with_unfolding_all decide

/-! ## Without a sensor the throttle integrator is left alone -/

/-- **With the sensor disabled, a step leaves the throttle integrator where the initializer put
it**: zero on a re-initialising step, the previous step's value otherwise. -/
theorem updatePitchThrottle_throttleIntegState_of_disabled (hoff : p.airspeedEnabled = false) :
    (updatePitchThrottle G p now ns i s).throttleIntegState =
      if resetsStates (beginPitchThrottle now i s) then 0 else s.throttleIntegState := by
  rw [(updatePitchThrottle_throttle G p now ns i s).1, ← (estimateStates_throttle G p now ns i s).2]
  simp [throttleIntegStateNext, hoff]

/-- A step with the sensor enabled that asks for 5 m/s more airspeed, one 20 ms later with it
disabled, and one 20 ms after that with it enabled again.  The integrator is not zero after the
disabled step, and the third step publishes another throttle than it would from a zero
integrator. -/
theorem throttleIntegState_kept_while_disabled :
    let i : PitchThrottleInputs := { cruise with EASSetpoint := 25 }
    let q : Param := { tuning with airspeedEnabled := false }
    let s₂ : TECS (Flt × Flt) (Flt × Flt) := run atRest
      [(tuning, .updatePitchThrottle 1000 1000 i), (q, .updatePitchThrottle 21000 21000 i)]
      (TECS.initial atRest)
    s₂.throttleIntegState ≠ 0 ∧
      (updatePitchThrottle atRest tuning 41000 41000 i s₂).lastThrottleSetpoint ≠
        (updatePitchThrottle atRest tuning 41000 41000 i
          { s₂ with throttleIntegState := 0 }).lastThrottleSetpoint := by
  with_unfolding_all decide

end Tecs
