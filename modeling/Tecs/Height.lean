import Tecs.State

/-!
# Height: the trajectory generators and the height-rate setpoint

The three functions of `TECS.cpp` that drive the two S-curve generators:
`_updateTrajectoryGenerationConstraints`, `runAltitudeControllerSmoothVelocity` and
`_calculateHeightRateSetpoint` (§4.3).  The generators are a parameter `G`; what the controller
does with their answers is translated here.

The development never looks inside the generators.  What it needs is
**`calculateHeightRateSetpoint_frame`**: the height stage writes the two generator states,
`_hgt_setpoint` and `_hgt_rate_setpoint`, and nothing else.
-/

namespace Tecs

open Flt

variable {A V : Type} (G : Generators A V)

/-- `_updateTrajectoryGenerationConstraints()`.  The velocity generator takes the climb and sink
limits the other way round, as the source notes (a different convention for fixed wing). -/
def updateTrajectoryGenerationConstraints (p : Param) (s : TECS A V) : TECS A V :=
  { s with
    altControlTrajGenerator :=
      s.altControlTrajGenerator
        |> G.alt.setMaxJerk p.jerkMax
        |> G.alt.setMaxAccel p.vertAccelLimit
        |> G.alt.setMaxVel (fmaxf p.maxClimbRate p.maxSinkRate)
    velocityControlTrajGenerator :=
      s.velocityControlTrajGenerator
        |> G.vel.setMaxJerk p.jerkMax
        |> G.vel.setMaxAccelUp p.vertAccelLimit
        |> G.vel.setMaxAccelDown p.vertAccelLimit
        |> G.vel.setMaxVelUp p.maxSinkRate
        |> G.vel.setMaxVelDown p.maxClimbRate }

/-- `runAltitudeControllerSmoothVelocity(alt_sp_amsl_m, target_climbrate_m_s,
target_sinkrate_m_s, alt_amsl)`. -/
def runAltitudeControllerSmoothVelocity (p : Param) (altSpAmslM : Flt)
    (targetClimbrateMS targetSinkrateMS altAmsl : ℚ) (s : TECS A V) : TECS A V :=
  let targetClimbrate := mathMin targetClimbrateMS p.maxClimbRate
  let targetSinkrate := mathMin targetSinkrateMS p.maxSinkRate
  let deltaTrajectoryToTargetM := altSpAmslM - G.alt.getCurrentPosition s.altControlTrajGenerator
  let heightRateTarget := G.signNoZero deltaTrajectoryToTargetM *
    G.computeMaxSpeedFromDistance p.jerkMax p.vertAccelLimit (fabsf deltaTrajectoryToTargetM) 0
  let heightRateTarget := constrain heightRateTarget (-targetSinkrate) targetClimbrate
  let gen := s.altControlTrajGenerator
    |> G.alt.updateDurations heightRateTarget
    |> G.alt.updateTraj s.dt
  let hgtSetpoint := G.alt.getCurrentPosition gen
  let hgtRateSetpoint := (hgtSetpoint - altAmsl) * p.heightErrorGain +
    p.heightSetpointGainFf * G.alt.getCurrentVelocity gen
  { s with
    altControlTrajGenerator := gen
    hgtSetpoint := hgtSetpoint
    hgtRateSetpoint := constrain hgtRateSetpoint (-p.maxSinkRate) p.maxClimbRate }

/-- `_calculateHeightRateSetpoint(altitude_sp_amsl, height_rate_sp, target_climbrate,
target_sinkrate, altitude_amsl)`.  A finite height-rate setpoint runs the velocity generator,
whose position (when finite) becomes the altitude setpoint; otherwise the altitude generator
tracks `altitude_sp_amsl` directly. -/
def calculateHeightRateSetpoint (p : Param) (altitudeSpAmsl heightRateSp : Flt)
    (targetClimbrate targetSinkrate altitudeAmsl : ℚ) (s : TECS A V) : TECS A V :=
  let vel := G.vel.setVelSpFeedback s.hgtRateSetpoint s.velocityControlTrajGenerator
  if heightRateSp.isFinite then
    let vel := vel
      |> G.vel.setCurrentPositionEstimate altitudeAmsl
      |> G.vel.update s.dt heightRateSp
    let s := { s with
      velocityControlTrajGenerator := vel
      hgtRateSetpoint := G.vel.getCurrentVelocity vel }
    let altitudeSpAmsl := G.vel.getCurrentPosition vel
    if altitudeSpAmsl.isFinite then
      runAltitudeControllerSmoothVelocity G p altitudeSpAmsl targetClimbrate targetSinkrate
        altitudeAmsl s
    else
      { s with
        altControlTrajGenerator := s.altControlTrajGenerator
          |> G.alt.setCurrentVelocity s.hgtRateSetpoint
          |> G.alt.setCurrentPosition altitudeAmsl
        hgtSetpoint := altitudeAmsl }
  else
    let vel := G.vel.reset 0 s.hgtRateSetpoint s.hgtSetpoint vel
    runAltitudeControllerSmoothVelocity G p altitudeSpAmsl targetClimbrate targetSinkrate
      altitudeAmsl { s with velocityControlTrajGenerator := vel }

/-- **The height stage writes four members and no other**: the two generator states,
`_hgt_setpoint` and `_hgt_rate_setpoint`. -/
theorem calculateHeightRateSetpoint_frame (p : Param) (alt hr : Flt) (c sk am : ℚ)
    (s : TECS A V) : ∃ a v h r, calculateHeightRateSetpoint G p alt hr c sk am s =
      { s with altControlTrajGenerator := a, velocityControlTrajGenerator := v,
               hgtSetpoint := h, hgtRateSetpoint := r } := by
  unfold calculateHeightRateSetpoint runAltitudeControllerSmoothVelocity
  dsimp only
  split_ifs <;> exact ⟨_, _, _, _, rfl⟩

/-- The four members the height stage writes. -/
def heightOutputs (p : Param) (alt hr : Flt) (c sk am : ℚ) (s : TECS A V) : A × V × Flt × Flt :=
  let t := calculateHeightRateSetpoint G p alt hr c sk am s
  (t.altControlTrajGenerator, t.velocityControlTrajGenerator, t.hgtSetpoint, t.hgtRateSetpoint)

/-- The frame as a rewrite: every other member reads through the height stage unchanged. -/
@[simp] theorem calculateHeightRateSetpoint_eq (p : Param) (alt hr : Flt) (c sk am : ℚ)
    (s : TECS A V) : calculateHeightRateSetpoint G p alt hr c sk am s =
      { s with altControlTrajGenerator := (heightOutputs G p alt hr c sk am s).1
               velocityControlTrajGenerator := (heightOutputs G p alt hr c sk am s).2.1
               hgtSetpoint := (heightOutputs G p alt hr c sk am s).2.2.1
               hgtRateSetpoint := (heightOutputs G p alt hr c sk am s).2.2.2 } := by
  obtain ⟨a, v, h, r, e⟩ := calculateHeightRateSetpoint_frame G p alt hr c sk am s
  simp only [heightOutputs, e]

/-! ## Generators at rest

The concrete runs of the development need some implementation of the generators.  `atRest`
keeps each generator where `reset`, `setCurrentPosition` and `setCurrentVelocity` put it and
ignores every other call; its distance-to-speed map is zero.  This is what an S-curve generator
does while it sits at its target with zero velocity and acceleration, which is the only situation
the concrete runs put the real generators in.
-/

/-- Generators that stay where they are put; a state is `(position, velocity)`. -/
def atRest : Generators (Flt × Flt) (Flt × Flt) where
  alt :=
    { setMaxJerk := fun _ g => g, setMaxAccel := fun _ g => g, setMaxVel := fun _ g => g,
      updateDurations := fun _ g => g, updateTraj := fun _ g => g,
      getCurrentPosition := Prod.fst, getCurrentVelocity := Prod.snd,
      setCurrentPosition := fun x g => (x, g.2), setCurrentVelocity := fun v g => (g.1, v),
      reset := fun _ v x _ => (x, v), initial := (0, 0) }
  vel :=
    { setMaxJerk := fun _ g => g, setMaxAccelUp := fun _ g => g, setMaxAccelDown := fun _ g => g,
      setMaxVelUp := fun _ g => g, setMaxVelDown := fun _ g => g,
      setVelSpFeedback := fun _ g => g, setCurrentPositionEstimate := fun _ g => g,
      update := fun _ _ g => g, getCurrentPosition := Prod.fst, getCurrentVelocity := Prod.snd,
      reset := fun _ v x _ => (x, v), initial := (0, 0) }
  signNoZero := fun x => if x < 0 then -1 else 1
  computeMaxSpeedFromDistance := fun _ _ _ _ => 0

end Tecs
