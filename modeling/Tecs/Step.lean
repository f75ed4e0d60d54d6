import Tecs.Speed
import Tecs.Height
import Tecs.Energy
import Tecs.Throttle
import Tecs.Pitch

/-!
# The two entry points, and runs

`update_vehicle_state_estimates` and `update_pitch_throttle` (§4.1), the initializer
`_initialize_states` (§4.10), and runs of the controller: any sequence of calls of the two entry
points, each under the tuning in force when it is made (the host may change it between steps).

`update_pitch_throttle` is cut at the places the later statements need to look:
`beginPitchThrottle` (the time step and the limits from the arguments), the initializer,
`updateEstimates` (every stage from the generator constraints to the energy accountant) and the
two control laws; `estimateStates` is the state the two laws start from.
**`initializeStates_of_resets`**, **`initializeStates_of_climbout`** and
**`initializeStates_of_continue`** say once what the initializer does in each of its three
branches.

`ReachableUnder H` collects the states of the runs whose every call satisfies an assumption
`H`.  What a step leaves unchanged is in `Tecs/Frame.lean`.
-/

namespace Tecs

open Flt

variable {A V : Type} (G : Generators A V)

/-! ## `update_vehicle_state_estimates` -/

/-- `update_vehicle_state_estimates(equivalent_airspeed, speed_deriv_forward, altitude_lock,
altitude, vz)`, reading the clock `now`. -/
def updateVehicleStateEstimates (p : Param) (now : UInt64) (i : VehicleInputs)
    (s : TECS A V) : TECS A V :=
  let dt := fmaxf (num (now - s.stateUpdateTimestamp).toNat * 1e-6) DT_MIN
  let resetAltitude : Bool := s.stateUpdateTimestamp = 0 || dt > DT_MAX || !i.altitudeLock
  let measured : Bool := i.equivalentAirspeed.isFinite && p.airspeedEnabled
  let filter := if measured then s.TASRateFilter.update i.speedDerivForward else s.TASRateFilter
  { s with
    statesInitialized := if resetAltitude then false else s.statesInitialized
    stateUpdateTimestamp := now
    EAS := i.equivalentAirspeed
    vertVelState := -(i.vz : Flt)
    vertPosState := i.altitude
    tasRateRaw := if measured then (i.speedDerivForward : Flt) else 0
    TASRateFilter := filter
    tasRateFiltered := if measured then filter.getState else 0 }

/-! ## The initializer -/

/-- The test of `_initialize_states`: the first step, a time slip beyond `DT_MAX`, or states
marked uninitialised. -/
def resetsStates (s : TECS A V) : Bool :=
  s.pitchUpdateTimestamp = 0 || s.dt > DT_MAX || !s.statesInitialized

/-- Modelled from the spec: `resetIntegrals()` of `TECS.hpp` (not under `src/`), which zeroes
both integrators (§4.10). -/
def resetIntegrals (s : TECS A V) : TECS A V :=
  { s with throttleIntegState := 0, pitchIntegState := 0 }

/-- Modelled from the spec: `resetTrajectoryGenerators(baro_altitude)` of `TECS.hpp` (not under
`src/`), which resets both generators to position `baro_altitude`, velocity and acceleration zero
(§4.10). -/
def resetTrajectoryGenerators (altitude : ℚ) (s : TECS A V) : TECS A V :=
  { s with
    altControlTrajGenerator := G.alt.reset 0 0 altitude s.altControlTrajGenerator
    velocityControlTrajGenerator := G.vel.reset 0 0 altitude s.velocityControlTrajGenerator }

/-- The reset branch of `_initialize_states`. -/
def resetStates (pitch throttleTrim baroAltitude EAS2TAS : ℚ) (s : TECS A V) : TECS A V :=
  let s := { s with
    vertVelState := 0
    vertPosState := baroAltitude
    tasRateState := 0
    tasState := s.EAS * EAS2TAS
    lastThrottleSetpoint := throttleTrim
    lastPitchSetpoint := .fin (constrain pitch s.pitchSetpointMin s.pitchSetpointMax)
    pitchSetpointUnc := .fin (constrain pitch s.pitchSetpointMin s.pitchSetpointMax)
    TASSetpointLast := s.EAS * EAS2TAS
    TASSetpointAdj := s.EAS * EAS2TAS
    uncommandedDescentRecovery := false
    STERateError := 0
    hgtSetpoint := baroAltitude }
  let s := resetIntegrals s
  let s := { s with dt := if s.dt > DT_MAX || s.dt < DT_MIN then DT_DEFAULT else s.dt }
  resetTrajectoryGenerators G baroAltitude s

/-- The climbout branch of `_initialize_states`: the lower pitch limit from the caller, the
lower throttle limit pinned 0.01 below the upper one, the speed demand tracking the measured
airspeed, and the descent latch cleared. -/
def climboutStates (baroAltitude pitchMinClimbout EAS2TAS : ℚ) (s : TECS A V) : TECS A V :=
  { s with
    pitchSetpointMin := pitchMinClimbout
    throttleSetpointMin := s.throttleSetpointMax - 0.01
    TASSetpointLast := s.EAS * EAS2TAS
    TASSetpointAdj := s.EAS * EAS2TAS
    hgtSetpoint := baroAltitude
    uncommandedDescentRecovery := false }

/-- The filter bookkeeping that closes `_initialize_states`: both filters get their parameters
and are reset to zero. -/
def resetFilters (p : Param) (s : TECS A V) : TECS A V :=
  { s with
    STERateErrorFilter := (s.STERateErrorFilter.setParameters DT_DEFAULT p.STERateTimeConst).reset 0
    TASRateFilter := (s.TASRateFilter.setParameters DT_DEFAULT p.speedDerivativeTimeConst).reset 0
    statesInitialized := true }

/-- `_initialize_states(pitch, throttle_trim, baro_altitude, pitch_min_climbout, EAS2TAS)`.  The
filter bookkeeping stands after the `if` in the source, so it runs on every call. -/
def initializeStates (p : Param) (pitch throttleTrim baroAltitude pitchMinClimbout EAS2TAS : ℚ)
    (s : TECS A V) : TECS A V :=
  resetFilters p <|
    if resetsStates s then resetStates G pitch throttleTrim baroAltitude EAS2TAS s
    else if s.climboutModeActive then climboutStates baroAltitude pitchMinClimbout EAS2TAS s
    else s

section
variable (p : Param) (pitch trim baro pmc e2t : ℚ) (s : TECS A V)

theorem initializeStates_of_resets (h : resetsStates s = true) :
    initializeStates G p pitch trim baro pmc e2t s =
      resetFilters p (resetStates G pitch trim baro e2t s) := by
  simp [initializeStates, h]

theorem initializeStates_of_climbout (h : resetsStates s = false)
    (hc : s.climboutModeActive = true) :
    initializeStates G p pitch trim baro pmc e2t s =
      resetFilters p (climboutStates baro pmc e2t s) := by
  simp [initializeStates, h, hc]

theorem initializeStates_of_continue (h : resetsStates s = false)
    (hc : s.climboutModeActive = false) :
    initializeStates G p pitch trim baro pmc e2t s = resetFilters p s := by
  simp [initializeStates, h, hc]

end

/-! ## `update_pitch_throttle` -/

/-- Stages (1) and (2) of §4.1: the time step since the last call, and the limits and the
climbout flag taken from the arguments. -/
def beginPitchThrottle (now : UInt64) (i : PitchThrottleInputs) (s : TECS A V) : TECS A V :=
  { s with
    dt := fmaxf (num (now - s.pitchUpdateTimestamp).toNat * 1e-6) DT_MIN
    throttleSetpointMax := i.throttleMax
    throttleSetpointMin := i.throttleMin
    pitchSetpointMax := i.pitchLimitMax
    pitchSetpointMin := i.pitchLimitMin
    climboutModeActive := i.climbOutSetpoint
    throttleTrim := i.throttleTrim }

/-- Stages (4) to (12) of §4.1: from the generator constraints to the energy accountant. -/
def updateEstimates (p : Param) (nowSpeed : UInt64) (i : PitchThrottleInputs) (s : TECS A V) :
    TECS A V :=
  s |> updateTrajectoryGenerationConstraints G p
    |> updateSpeedStates p nowSpeed i.EASSetpoint i.equivalentAirspeed i.easToTas
    |> updateSTERateLim p
    |> detectUnderspeed p
    |> updateSpeedHeightWeights p
    |> detectUncommandedDescent
    |> updateSpeedSetpoint p
    |> calculateHeightRateSetpoint G p i.hgtSetpoint i.hgtRateSp i.targetClimbrate
        i.targetSinkrate i.baroAltitude
    |> updateEnergyEstimates

/-- Stages (1) to (12) of §4.1: everything the two control laws read. -/
def estimateStates (p : Param) (now nowSpeed : UInt64) (i : PitchThrottleInputs) (s : TECS A V) :
    TECS A V :=
  s |> beginPitchThrottle now i
    |> initializeStates G p i.pitch i.throttleTrim i.baroAltitude i.pitchMinClimbout i.easToTas
    |> updateEstimates G p nowSpeed i

/-- The mode published for the next frame: underspeed first, then bad descent, then climbout. -/
def tecsModeOf (s : TECS A V) : TecsMode :=
  if s.percentUndersped > FLT_EPSILON then .ECL_TECS_MODE_UNDERSPEED
  else if s.uncommandedDescentRecovery then .ECL_TECS_MODE_BAD_DESCENT
  else if s.climboutModeActive then .ECL_TECS_MODE_CLIMBOUT
  else .ECL_TECS_MODE_NORMAL

/-- `update_pitch_throttle(pitch, baro_altitude, hgt_setpoint, EAS_setpoint,
equivalent_airspeed, eas_to_tas, climb_out_setpoint, pitch_min_climbout, throttle_min,
throttle_max, throttle_trim, pitch_limit_min, pitch_limit_max, target_climbrate,
target_sinkrate, hgt_rate_sp)`, reading the clock at `now` on entry and at `nowSpeed` inside
`_update_speed_states`. -/
def updatePitchThrottle (p : Param) (now nowSpeed : UInt64) (i : PitchThrottleInputs)
    (s : TECS A V) : TECS A V :=
  let s := s |> estimateStates G p now nowSpeed i |> updateThrottleSetpoint p
    |> updatePitchSetpoint p
  { s with pitchUpdateTimestamp := now, tecsMode := tecsModeOf s }

/-! ## Runs -/

/-- One call of the host into the controller. -/
inductive Call where
  | updateVehicleStateEstimates (now : UInt64) (i : VehicleInputs)
  | updatePitchThrottle (now nowSpeed : UInt64) (i : PitchThrottleInputs)

/-- The effect of one call under the tuning `p` in force. -/
def Call.apply (p : Param) : Call → TECS A V → TECS A V
  | .updateVehicleStateEstimates now i => Tecs.updateVehicleStateEstimates p now i
  | .updatePitchThrottle now nowSpeed i => Tecs.updatePitchThrottle G p now nowSpeed i

/-- A run: the calls, each with the tuning it sees, from first to last. -/
def run : List (Param × Call) → TECS A V → TECS A V
  | [], s => s
  | (p, c) :: cs, s => run cs (c.apply G p s)

/-- Runs under an assumption `H` on every call: the states reached from the initial one by calls
each of which satisfies `H` in the state it is made in. -/
inductive ReachableUnder (H : Param → Call → TECS A V → Prop) : TECS A V → Prop where
  | initial : ReachableUnder H (TECS.initial G)
  | call {s : TECS A V} (p : Param) (c : Call) :
      ReachableUnder H s → H p c s → ReachableUnder H (c.apply G p s)

end Tecs
