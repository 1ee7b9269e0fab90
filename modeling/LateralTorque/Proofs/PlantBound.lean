import Mathlib
import LateralTorque.ClosedLoop
import LateralTorque.Proofs.Run
import LateralTorque.Proofs.Smoothing

/-!
# Bounds of the closed loop

Controller and plant bound each other in exact arithmetic.  The torque of a cycle is zero, that of
the cycle before or what the limits of the PID controller leave; the actuator follows it without
overshoot; and the rack lets through what exceeds its friction, with the sign reversed.

The controller was accepted and is otherwise any, with any models; the constants of the plant are
not negative, and the scenario may have any script, speed and roll.  The store with the tuning may
change between any two cycles.

* `Controller.Within` — a controller whose torque keeps to a limit, whatever it is given;
* `SteerPlant.abs_effectiveTorque` — what gets past the rack friction;
* `SteerPlant.Contained` — the bounds of the plant;
* `ClosedLoop.plant_contained` — they hold after any number of cycles of any scenario.

The bounds are those of torque and lateral acceleration.  That the loop follows the script, or
settles, is not said.
-/

set_option autoImplicit false

namespace LateralTorque

/-! ## The torque of the controller -/

/-- The torque of a cycle is zero, that of the cycle before, or the output of an updated PID
controller in the actuator's direction. -/
theorem Controller.step_output_cases {α : Type} [Scalar α] (c : Controller α)
    (input : CycleInput α) :
    ((c.step input).1.pid = c.pid ∧
      ((c.step input).1.output = 0 ∨ (c.step input).1.output = c.output)) ∨
    ∃ error feedforward, (c.step input).1.pid =
        c.pid.update error feedforward input.vehicle.speed input.freezesIntegrator ∧
      (c.step input).1.output = -(c.step input).1.pid.control := by
  rcases c.step_cases input with ⟨_, hs⟩ | ⟨_, _, hs⟩ | ⟨_, torques, _, _, hs⟩ <;> rw [hs]
  · exact .inl ⟨c.openCycle_pid, .inl rfl⟩
  · exact .inl ⟨c.openCycle_pid, .inr c.openCycle_output⟩
  · refine .inr ⟨torques.error, torques.feedforward, ?_, rfl⟩
    rw [← c.openCycle_pid]
    rfl

namespace Controller

/-- A controller whose PID controller and whose torque keep to a limit. -/
structure Within (limit : ℝ) (c : Controller ℝ) : Prop where
  upper : c.pid.upperLimit = limit
  lower : c.pid.lowerLimit = -limit
  output : c.output ∈ Set.Icc (-limit) limit

variable {limit : ℝ} {c : Controller ℝ}

/-- A controller keeps to the limit in every cycle, whatever it is given. -/
theorem Within.step (hlimit : 0 ≤ limit) (h : c.Within limit) (input : CycleInput ℝ) :
    (c.step input).1.Within limit := by
  rcases c.step_output_cases input with ⟨hpid, hzero | hheld⟩ | ⟨error, feedforward, hpid, hdriven⟩
  · refine ⟨hpid ▸ h.upper, hpid ▸ h.lower, ?_⟩
    rw [hzero]
    exact ⟨neg_nonpos.mpr hlimit, hlimit⟩
  · exact ⟨hpid ▸ h.upper, hpid ▸ h.lower, hheld ▸ h.output⟩
  · have hcontrol : (c.step input).1.pid.control ∈ Set.Icc (-limit) limit := by
      rw [hpid, ← h.lower, ← h.upper]
      exact Exact.clamp_mem (by rw [h.lower, h.upper]; exact neg_le_self hlimit) _
    refine ⟨hpid ▸ h.upper, hpid ▸ h.lower, ?_⟩
    rw [hdriven]
    exact ⟨neg_le_neg hcontrol.2, neg_le.mp hcontrol.1⟩

theorem within_of_create {params : Params ℝ} {capabilities : Capabilities ℝ} {c₀ : Controller ℝ}
    (h : create params capabilities = .ok c₀) :
    0 < params.steerMax ∧ 0 < c₀.params.period ∧ c₀.Within params.steerMax := by
  obtain ⟨hvalid, -, rfl⟩ := create_eq_ok_iff.mp h
  obtain ⟨hmax, hrate, -⟩ := Params.validate_eq_ok_iff.mp hvalid
  exact ⟨hmax, one_div_pos.mpr hrate, rfl, rfl, neg_nonpos.mpr hmax.le, hmax.le⟩

end Controller

/-! ## The plant -/

namespace SteerPlant

/-- The rack takes as much of a torque as its friction. -/
theorem abs_effectiveTorque (s : Scenario ℝ) (torque : ℝ) :
    |effectiveTorque s torque| = max (|torque| - s.rackFriction) 0 := by
  have hsign : |(Scalar.signum torque : ℝ)| = 1 := by
    change |if 0 ≤ torque then (1 : ℝ) else -1| = 1
    split <;> simp
  rw [effectiveTorque, abs_mul, hsign, one_mul, Exact.maxNum_eq, Exact.abs_eq,
    abs_of_nonneg (le_max_right _ _)]

theorem effectiveTorque_nonneg (s : Scenario ℝ) {torque : ℝ} (h : 0 ≤ torque) :
    0 ≤ effectiveTorque s torque := by
  have hsign : (Scalar.signum torque : ℝ) = 1 := if_pos h
  rw [effectiveTorque, hsign, one_mul, Exact.maxNum_eq]
  exact le_max_right _ _

theorem effectiveTorque_nonpos (s : Scenario ℝ) {torque : ℝ} (h : torque < 0) :
    effectiveTorque s torque ≤ 0 := by
  have hsign : (Scalar.signum torque : ℝ) = -1 := if_neg h.not_ge
  rw [effectiveTorque, hsign, neg_one_mul, Exact.maxNum_eq]
  exact neg_nonpos.mpr (le_max_right _ _)

/-- The bounds of a plant in a scenario where the torque keeps to a limit: the actuator keeps to it
too, and the vehicle is accelerated sideways by no more than the torque beyond the friction of the
rack, not at all without such torque, and never to the side on which the torque is positive. -/
structure Contained (scenario : Scenario ℝ) (limit : ℝ) (p : SteerPlant ℝ) : Prop where
  realised : p.realised ∈ Set.Icc (-limit) limit
  bounded : |p.lateralAccel| ≤ max (limit - scenario.rackFriction) 0 * scenario.torqueToAccel
  stuck : |p.realised| ≤ scenario.rackFriction → p.lateralAccel = 0
  opposed : (0 < p.realised → p.lateralAccel ≤ 0) ∧ (p.realised < 0 → 0 ≤ p.lateralAccel)

/-- The acceleration that a torque within the limit gives is within its bounds. -/
theorem contained_of_accel {scenario : Scenario ℝ} {limit : ℝ} {p : SteerPlant ℝ}
    (hgain : 0 ≤ scenario.torqueToAccel) (hrealised : p.realised ∈ Set.Icc (-limit) limit)
    (haccel : p.lateralAccel = -effectiveTorque scenario p.realised * scenario.torqueToAccel) :
    p.Contained scenario limit where
  realised := hrealised
  bounded := by
    rw [haccel, abs_mul, abs_neg, abs_effectiveTorque, abs_of_nonneg hgain]
    have hlimit : |p.realised| ≤ limit := abs_le.mpr hrealised
    gcongr
  stuck hfriction := by
    have hnothing : |effectiveTorque scenario p.realised| = 0 := by
      rw [abs_effectiveTorque, max_eq_right (sub_nonpos.mpr hfriction)]
    rw [haccel, abs_eq_zero.mp hnothing, neg_zero, zero_mul]
  opposed := by
    rw [haccel]
    refine ⟨fun hpos => ?_, fun hneg => ?_⟩
    · have heffective := effectiveTorque_nonneg scenario hpos.le
      exact mul_nonpos_of_nonpos_of_nonneg (neg_nonpos.mpr heffective) hgain
    · have heffective := effectiveTorque_nonpos scenario hneg
      exact mul_nonneg (neg_nonneg.mpr heffective) hgain

end SteerPlant

/-! ## The loop -/

namespace ClosedLoop

variable {α : Type} [Scalar α]

/-- One cycle of the loop, before which the source of the tuning may be exchanged: a store is read
anew when it is looked at. -/
def stepWith (l : ClosedLoop α) (source? : Option (TuningSource α)) : ClosedLoop α :=
  match source? with
  | some source => { l with controller := l.controller.withTuningSource source }.step.1
  | none => l.step.1

/-- The loop after as many cycles as there are entries, each with the source of its tuning. -/
def runWith (l : ClosedLoop α) (sources : List (Option (TuningSource α))) : ClosedLoop α :=
  sources.foldl stepWith l

theorem run_eq_runWith (l : ClosedLoop α) (cycles : Nat) :
    l.run cycles = l.runWith (List.replicate cycles none) := by
  have hrun (n : Nat) : l.run (n + 1) = (l.run n).step.1 := rfl
  induction cycles with
  | zero => rfl
  | succ n ih =>
    rw [hrun, ih, List.replicate_succ', runWith, runWith, List.foldl_append]
    rfl

/-- What holds between the cycles of the loop. -/
structure Bounded (scenario : Scenario ℝ) (limit : ℝ) (l : ClosedLoop ℝ) : Prop where
  controller : l.controller.Within limit
  plays : l.plant.scenario = scenario
  settled : l.plant.actuator.settled = true
  weight : l.plant.actuator.weight ∈ Set.Icc 0 1
  plant : l.plant.Contained scenario limit

variable {scenario : Scenario ℝ} {limit : ℝ} {l : ClosedLoop ℝ}

/-- A cycle keeps the bounds: the controller keeps to the limit on any input, and the actuator moves
from a torque within the limit towards another one. -/
theorem Bounded.step (hlimit : 0 ≤ limit) (hgain : 0 ≤ scenario.torqueToAccel)
    (h : l.Bounded scenario limit) : l.step.1.Bounded scenario limit := by
  have hcontroller : l.step.1.controller.Within limit := h.controller.step hlimit l.input
  refine ⟨hcontroller, h.plays, rfl, h.weight, ?_⟩
  refine SteerPlant.contained_of_accel hgain ?_ ?_
  · exact LowPass.update_mem (convex_Icc _ _) h.weight (fun _ => h.plant.realised)
      hcontroller.output
  · rw [← h.plays]
    rfl

theorem Bounded.stepWith (hlimit : 0 ≤ limit) (hgain : 0 ≤ scenario.torqueToAccel)
    (h : l.Bounded scenario limit) (source? : Option (TuningSource ℝ)) :
    (l.stepWith source?).Bounded scenario limit := by
  cases source? with
  | none => exact h.step hlimit hgain
  | some source =>
    have hsupplied : { l with controller := l.controller.withTuningSource source }.Bounded
        scenario limit :=
      ⟨⟨h.controller.upper, h.controller.lower, h.controller.output⟩, h.plays, h.settled,
        h.weight, h.plant⟩
    exact hsupplied.step hlimit hgain

theorem Bounded.runWith (hlimit : 0 ≤ limit) (hgain : 0 ≤ scenario.torqueToAccel)
    (h : l.Bounded scenario limit) (sources : List (Option (TuningSource ℝ))) :
    (l.runWith sources).Bounded scenario limit := by
  induction sources generalizing l with
  | nil => exact h
  | cons source? rest ih => exact ih (h.stepWith hlimit hgain source?)

/-- A loop starts within the bounds, with the vehicle straight ahead and no torque realised. -/
theorem bounded_initial {c : Controller ℝ} (hlimit : 0 ≤ limit) (hc : c.Within limit)
    (hperiod : 0 < c.params.period) (hconstant : 0 ≤ scenario.actuatorTimeConstant)
    (hfriction : 0 ≤ scenario.rackFriction) (hgain : 0 ≤ scenario.torqueToAccel) :
    (initial c scenario).Bounded scenario limit := by
  refine ⟨hc, rfl, rfl, LowPass.weightOf_mem hconstant hperiod, ?_⟩
  refine SteerPlant.contained_of_accel hgain ⟨neg_nonpos.mpr hlimit, hlimit⟩ ?_
  have hnothing : |SteerPlant.effectiveTorque scenario 0| = 0 := by
    rw [SteerPlant.abs_effectiveTorque, abs_zero, max_eq_right]
    exact sub_nonpos.mpr hfriction
  change (0 : ℝ) = -SteerPlant.effectiveTorque scenario 0 * scenario.torqueToAccel
  rw [abs_eq_zero.mp hnothing, neg_zero, zero_mul]

/-- **The closed loop is bounded.**  For a controller that was accepted, in any scenario without
negative constants, the torque that the actuator realises stays within the limit of the controller
for any number of cycles, and the vehicle within what that torque can do against the friction of the
rack.  This does not depend on where the tuning comes from, cycle by cycle. -/
theorem plant_contained {params : Params ℝ} {capabilities : Capabilities ℝ} {c₀ : Controller ℝ}
    (h : Controller.create params capabilities = .ok c₀) (scenario : Scenario ℝ)
    (hconstant : 0 ≤ scenario.actuatorTimeConstant) (hfriction : 0 ≤ scenario.rackFriction)
    (hgain : 0 ≤ scenario.torqueToAccel) :
    (∀ cycles, ((initial c₀ scenario).run cycles).plant.Contained scenario params.steerMax) ∧
    ∀ sources, ((initial c₀ scenario).runWith sources).plant.Contained scenario
      params.steerMax := by
  obtain ⟨hmax, hperiod, hwithin⟩ := Controller.within_of_create h
  have hstart := bounded_initial hmax.le hwithin hperiod hconstant hfriction hgain
  have hruns (sources : List (Option (TuningSource ℝ))) :
      ((initial c₀ scenario).runWith sources).plant.Contained scenario params.steerMax :=
    (hstart.runWith hmax.le hgain sources).plant
  refine ⟨fun cycles => ?_, hruns⟩
  rw [run_eq_runWith]
  exact hruns _

/-- A turn to the left at twenty metres per second, with an actuator that takes a tenth of a second
and a rack that takes a tenth of the torque. -/
def leftTurn : Scenario α where
  duration := 10.0
  engageTime := 1.0
  realtime := false
  speed := 20.0
  roll := 0
  actuatorTimeConstant := 0.1
  torqueToAccel := 3.0
  rackFriction := 0.1
  tuningDirectory := none
  networkFile := none
  vehicle := ⟨15.0, 2.7, 0⟩
  profile := [⟨2.0, 0.01⟩]

/-- The standard controller keeps the vehicle below the three metres per second squared that its full
torque would give without friction. -/
theorem plant_contained_in_left_turn :
    Controller.create Params.standard Capabilities.standard
        = .ok (Controller.initial (Params.standard : Params ℝ) Capabilities.standard) ∧
      ∀ cycles, |((initial (Controller.initial (Params.standard : Params ℝ) Capabilities.standard)
        leftTurn).run cycles).plant.lateralAccel| < 3 := by
  have hcreate : Controller.create Params.standard Capabilities.standard
      = .ok (Controller.initial (Params.standard : Params ℝ) Capabilities.standard) :=
    Controller.create_standard Params.validate_standard_exact rfl
  refine ⟨hcreate, fun cycles => ?_⟩
  have hcontained := (plant_contained hcreate leftTurn (by norm_num [leftTurn])
    (by norm_num [leftTurn]) (by norm_num [leftTurn])).1 cycles
  refine hcontained.bounded.trans_lt ?_
  norm_num [leftTurn, Params.standard]

end ClosedLoop

end LateralTorque
