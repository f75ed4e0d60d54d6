import Tecs.State

/-!
# Energies and the uncommanded-descent latch

`_update_energy_estimates` (§4.5) and `_detect_uncommanded_descent` (§4.4).

Two orderings of the source matter, and both are kept.  Inside `updateEnergyEstimates` the total
energy error is formed *before* the estimates are refreshed, so `_STE_error` pairs this step's
setpoints with the previous step's estimates.  And `detectUncommandedDescent` runs before the
energy accountant of its step, so it reads the previous step's `_STE_error`, `_SPE_rate` and
`_SKE_rate`.  **`detectUncommandedDescent_recovery`** states the latch once, as entry and exit
conditions, and every later result about the latch cites it.
-/

namespace Tecs

open Flt

variable {A V : Type}

/-- Modelled from the spec: `SEB_setpoint()` of `TECS.hpp` (not under `src/`), in its default
form of §4.5, `_SPE_setpoint·_SPE_weighting − _SKE_setpoint·_SKE_weighting`. -/
def SEBSetpoint (s : TECS A V) : Flt :=
  s.SPESetpoint * s.SPEWeighting - s.SKESetpoint * s.SKEWeighting

/-- `_update_energy_estimates()`. -/
def updateEnergyEstimates (s : TECS A V) : TECS A V :=
  let s := { s with
    SPESetpoint := s.hgtSetpoint * CONSTANTS_ONE_G
    SKESetpoint := 0.5 * s.TASSetpointAdj * s.TASSetpointAdj }
  { s with
    STEError := s.SPESetpoint - s.SPEEstimate + s.SKESetpoint - s.SKEEstimate
    SEBError := SEBSetpoint s - (s.SPEEstimate * s.SPEWeighting - s.SKEEstimate * s.SKEWeighting)
    SPERateSetpoint := s.hgtRateSetpoint * CONSTANTS_ONE_G
    SKERateSetpoint := s.tasState * s.TASRateSetpoint
    SPEEstimate := s.vertPosState * CONSTANTS_ONE_G
    SKEEstimate := 0.5 * s.tasState * s.tasState
    SPERate := s.vertVelState * CONSTANTS_ONE_G
    SKERate := s.tasState * s.tasRateFiltered }

/-- `enter_mode` of `_detect_uncommanded_descent`: not latched, not undersped, total energy more
than 200 J/kg short and falling, throttle at 90% of its maximum or more. -/
def descentEnterMode (s : TECS A V) : Bool :=
  !s.uncommandedDescentRecovery && !(s.percentUndersped > FLT_EPSILON) && s.STEError > 200 &&
    s.SPERate + s.SKERate < 0 && s.lastThrottleSetpoint ≥ s.throttleSetpointMax * 0.9

/-- `exit_mode` of `_detect_uncommanded_descent`: latched, and undersped or with the total energy
recovered. -/
def descentExitMode (s : TECS A V) : Bool :=
  s.uncommandedDescentRecovery && (s.percentUndersped > FLT_EPSILON || s.STEError < 0)

/-- `_detect_uncommanded_descent()`. -/
def detectUncommandedDescent (s : TECS A V) : TECS A V :=
  { s with
    uncommandedDescentRecovery :=
      if descentEnterMode s then true
      else if descentExitMode s then false
      else s.uncommandedDescentRecovery }

/-- **The latch, in one statement**: after the detector the recovery flag is set exactly when
it was clear and the entry conditions hold, or it was set and the exit conditions fail. -/
theorem detectUncommandedDescent_recovery (s : TECS A V) :
    (detectUncommandedDescent s).uncommandedDescentRecovery =
      (descentEnterMode s || s.uncommandedDescentRecovery && !descentExitMode s) := by
  simp only [detectUncommandedDescent]
  cases descentEnterMode s <;> cases descentExitMode s <;> simp

end Tecs
