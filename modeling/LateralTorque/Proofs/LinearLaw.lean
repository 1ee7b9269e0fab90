import LateralTorque.Proofs.Horizon
import LateralTorque.Proofs.MirrorRun
import LateralTorque.Proofs.PastFeatures

/-!
# The linear law in the loop

A controller with the linear law asks it for the torques of setpoint and measurement, and beside a
neural model for the friction that the network does not know.  In exact arithmetic the acceleration
terms of the two torques join to one quotient, and what is left of the law is its friction.

This holds in any active cycle without a fault after any commands, for any controller whose analytic
model is the linear law, created or not.  Nothing is assumed of the tuning: where its factor is
zero, the quotient is what real arithmetic makes of it.

* `rampFriction` — the friction of the law, with `rampFriction_neg`, `rampFriction_mono` and
  `abs_rampFriction_le`;
* `analyticError_linear`, `overrideTorque_linear` — what the law answers in a cycle;
* `modelFault_of_linear` — only a network that does not answer leaves a cycle without torques;
* `linear_share` — the share of the law in the error of any cycle of a run: none of its friction
  without lateral jerk, the frictions of two jerks with it, and the friction of the friction input
  on top of a network that asks for it.

That the ramp keeps order takes a friction that is not negative, which no check makes sure of.
-/

set_option autoImplicit false

namespace LateralTorque

/-! ## Friction -/

/-- The friction torque for an error, none strictly inside the deadzone. -/
noncomputable def rampFriction (friction deadzone error : ℝ) : ℝ :=
  friction * max (-1) (min 1 ((if |error| < deadzone then 0 else error) / 0.3))

theorem centerDeadzone_eq (error deadzone : ℝ) :
    centerDeadzone error deadzone = if |error| < deadzone then 0 else error := by
  simp only [centerDeadzone, abs_lt]

theorem centerDeadzone_mono (deadzone : ℝ) :
    Monotone fun error => centerDeadzone error deadzone := by
  intro a b hab
  unfold centerDeadzone
  grind

theorem rampFriction_eq (friction deadzone error : ℝ) :
    rampFriction friction deadzone error
      = friction * Scalar.clamp (centerDeadzone error deadzone / 0.3) (-1) 1 := by
  rw [Exact.clamp_eq, centerDeadzone_eq, rampFriction]

/-- A ramp between two points that lie opposite each other, as a line held between their values. -/
theorem interp_ramp_eq_clamp {limit : ℝ} (hlimit : 0 < limit) (x value : ℝ) :
    interp x [-limit, limit] [-value, value] = value * Scalar.clamp (x / limit) (-1) 1 := by
  rw [interp_ramp hlimit, Exact.clamp_eq]
  rcases le_or_gt x (-limit) with hlow | hlow
  · have hquotient : x / limit ≤ -1 := by rwa [div_le_iff₀ hlimit, neg_one_mul]
    rw [if_pos hlow, min_eq_right (by linarith), max_eq_left hquotient, mul_neg_one]
  rcases le_or_gt limit x with hhigh | hhigh
  · have hquotient : 1 ≤ x / limit := (one_le_div hlimit).mpr hhigh
    rw [if_neg hlow.not_ge, if_pos hhigh, min_eq_left hquotient, max_eq_right (by norm_num),
      mul_one]
  · have hleft : -1 ≤ x / limit := by
      rw [le_div_iff₀ hlimit, neg_one_mul]
      exact hlow.le
    have hright : x / limit ≤ 1 := (div_le_one hlimit).mpr hhigh.le
    rw [if_neg hlow.not_ge, if_neg hhigh.not_ge, min_eq_right hright, max_eq_right hleft, mul_comm]

/-- The friction of the linear law, where it is asked for. -/
theorem frictionTorque_eq (error deadzone : ℝ) (tuning : Tuning ℝ) :
    frictionTorque error deadzone frictionThreshold tuning true
      = rampFriction tuning.friction deadzone error := by
  have hthreshold : (frictionThreshold : ℝ) = 0.3 := by norm_num [frictionThreshold]
  rw [rampFriction_eq, ← hthreshold]
  exact interp_ramp_eq_clamp frictionThreshold_pos _ _

theorem rampFriction_neg (friction deadzone error : ℝ) :
    rampFriction friction deadzone (-error) = -rampFriction friction deadzone error := by
  rw [rampFriction_eq, rampFriction_eq, centerDeadzone_neg, neg_div, Exact.clamp_neg zero_le_one,
    mul_neg]

theorem rampFriction_mono {friction : ℝ} (h : 0 ≤ friction) (deadzone : ℝ) :
    Monotone (rampFriction friction deadzone) := by
  intro a b hab
  have hcentered : centerDeadzone a deadzone / 0.3 ≤ centerDeadzone b deadzone / 0.3 :=
    div_le_div_of_nonneg_right (centerDeadzone_mono deadzone hab) (by norm_num)
  rw [rampFriction_eq, rampFriction_eq, Exact.clamp_eq, Exact.clamp_eq]
  exact mul_le_mul_of_nonneg_left (max_le_max_left _ (min_le_min_left _ hcentered)) h

theorem abs_rampFriction_le (friction deadzone error : ℝ) :
    |rampFriction friction deadzone error| ≤ |friction| := by
  have hshare : |Scalar.clamp (centerDeadzone error deadzone / 0.3) (-1) 1| ≤ 1 :=
    abs_le.mpr (Exact.clamp_mem (by norm_num) _)
  rw [rampFriction_eq, abs_mul]
  exact mul_le_of_le_one_right (abs_nonneg _) hshare

theorem abs_rampFriction_sub_le (friction deadzone a b : ℝ) :
    |rampFriction friction deadzone a - rampFriction friction deadzone b| ≤ 2 * |friction| := by
  have ha := abs_rampFriction_le friction deadzone a
  have hb := abs_rampFriction_le friction deadzone b
  calc |rampFriction friction deadzone a - rampFriction friction deadzone b|
      ≤ |rampFriction friction deadzone a| + |rampFriction friction deadzone b| := abs_sub _ _
    _ ≤ 2 * |friction| := by linarith

theorem rampFriction_of_lt {deadzone error : ℝ} (h : |error| < deadzone) (friction : ℝ) :
    rampFriction friction deadzone error = 0 := by
  simp [rampFriction, h]

/-! ## Answers of the law -/

theorem torque_linear (inputs : AnalyticInputs ℝ) (tuning : Tuning ℝ) (frictionInput deadzone : ℝ)
    (compensate gravityAdjusted : Bool) :
    AnalyticModel.linear.torque inputs tuning frictionInput deadzone compensate gravityAdjusted
      = .ok (inputs.lateralAccel / tuning.accelFactor
        + if compensate then rampFriction tuning.friction deadzone frictionInput else 0) := by
  cases compensate with
  | false => rfl
  | true => exact congrArg (fun f => Except.ok (_ + f)) (frictionTorque_eq _ _ _)

namespace Controller

variable {c : Controller ℝ}

/-- The error of the linear law: one quotient, and the difference of two frictions if lateral jerk
is in use. -/
theorem analyticError_linear (h : c.capabilities.torqueModel.analyticModel = .linear)
    (input : CycleInput ℝ) (sig : LateralSignals ℝ) (jerk : JerkEstimate ℝ)
    (setpoint measurement : ℝ) :
    c.analyticError input sig jerk setpoint measurement
      = .ok ((setpoint - measurement) / c.tuning.accelFactor
        + if c.params.useLateralJerk then
            rampFriction c.tuning.friction sig.accelDeadzone jerk.setpoint
              - rampFriction c.tuning.friction sig.accelDeadzone jerk.measurement
          else 0) := by
  unfold analyticError
  dsimp only
  rw [h, torque_linear, torque_linear]
  refine congrArg Except.ok ?_
  simp only [analyticInputs]
  split <;> ring

theorem analyticError_linear_of_plain (h : c.capabilities.torqueModel.analyticModel = .linear)
    (hplain : c.params.useLateralJerk = false) (input : CycleInput ℝ) (sig : LateralSignals ℝ)
    (jerk : JerkEstimate ℝ) (setpoint measurement : ℝ) :
    c.analyticError input sig jerk setpoint measurement
      = .ok ((setpoint - measurement) / c.tuning.accelFactor) := by
  rw [analyticError_linear h, hplain, if_neg Bool.false_ne_true, add_zero]

theorem analyticFeedforward_linear (h : c.capabilities.torqueModel.analyticModel = .linear)
    (input : CycleInput ℝ) (sig : LateralSignals ℝ) (frictionInput : ℝ) :
    c.analyticFeedforward input sig frictionInput
      = .ok ((sig.desiredAccel - sig.rollCompensation) / c.tuning.accelFactor
        + rampFriction c.tuning.friction sig.accelDeadzone frictionInput) := by
  rw [analyticFeedforward, h, torque_linear, if_pos rfl]
  rfl

theorem overrideTorque_linear (h : c.capabilities.torqueModel.analyticModel = .linear)
    (network : NeuralModel ℝ) (input : CycleInput ℝ) (sig : LateralSignals ℝ)
    (frictionInput : ℝ) :
    c.overrideTorque network input sig frictionInput
      = .ok (if network.frictionOverride || c.tuning.overridden then
          some (rampFriction c.tuning.friction sig.accelDeadzone frictionInput)
        else none) := by
  unfold overrideTorque
  split
  · rw [h, torque_linear, if_pos rfl, zero_div, zero_add]
    rfl
  · rfl

/-- The torques of the analytic model come with its error. -/
theorem error_of_analyticTorques {α : Type} [Scalar α] {c : Controller α} {input : CycleInput α}
    {sig : LateralSignals α} {jerk : JerkEstimate α} {setpoint measurement : α}
    {torques : ModelTorques α}
    (h : c.analyticTorques input sig jerk setpoint measurement = .ok torques) :
    c.analyticError input sig jerk setpoint measurement = .ok torques.error := by
  unfold analyticTorques at h
  obtain ⟨error, herror, h⟩ := exists_of_bind_eq_ok h
  obtain ⟨feedforward, -, h⟩ := exists_of_bind_eq_ok h
  cases h
  exact herror

/-- The torques of a network with the friction of the linear law: the network gives all of the
feedforward, and all of the error but the friction. -/
theorem neuralTorques_linear (h : c.capabilities.torqueModel.analyticModel = .linear)
    {network : NeuralModel ℝ} {input : CycleInput ℝ} {sig : LateralSignals ℝ} {frictionInput : ℝ}
    {features : Features ℝ} {torques : ModelTorques ℝ}
    (hok : c.neuralTorques network input sig frictionInput features = .ok torques) :
    ∃ fromSetpoint fromMeasurement,
      network.evaluate features.setpoint = .ok fromSetpoint ∧
      network.evaluate features.measurement = .ok fromMeasurement ∧
      network.evaluate features.feedforward = .ok torques.feedforward ∧
      torques.frictionInput = frictionInput ∧
      torques.error = fromSetpoint - fromMeasurement
        + if network.frictionOverride || c.tuning.overridden then
            rampFriction c.tuning.friction sig.accelDeadzone frictionInput
          else 0 := by
  obtain ⟨fromSetpoint, fromMeasurement, _, friction, hset, hmeasured, hforward, hfriction, rfl⟩ :=
    neuralTorques_eq_ok_iff.mp hok
  rw [overrideTorque_linear h, Except.ok.injEq] at hfriction
  refine ⟨fromSetpoint, fromMeasurement, hset, hmeasured, hforward, rfl, ?_⟩
  rw [← hfriction]
  cases network.frictionOverride || c.tuning.overridden with
  | true => rfl
  | false => exact (add_zero _).symm

end Controller

/-! ## A cycle -/

namespace Controller

/-- With the linear law there are torques, unless a network does not answer. -/
theorem exists_torques_of_linear {c : Controller ℝ}
    (h : c.capabilities.torqueModel.analyticModel = .linear)
    (hanswers : ∀ network, c.capabilities.torqueModel.neuralModel? = some network →
      ∀ vector, ∃ torque, network.evaluate vector = .ok torque) (input : CycleInput ℝ) :
    ∃ torques, (c.outcome input).1 = .ok torques := by
  have hanalytic : ∀ sig jerk setpoint measurement, ∃ torques,
      c.analyticTorques input sig jerk setpoint measurement = .ok torques := by
    intro sig jerk setpoint measurement
    unfold analyticTorques
    dsimp only
    rw [analyticError_linear h, analyticFeedforward_linear h]
    exact ⟨_, rfl⟩
  unfold outcome modelTorques
  cases input.usableTrajectory with
  | none => exact hanalytic _ _ _ _
  | some t =>
    cases hnetwork : c.capabilities.torqueModel.neuralModel? with
    | none => exact hanalytic _ _ _ _
    | some network =>
      dsimp only
      generalize (c.context.assemble _ t).2 = features
      obtain ⟨fromSetpoint, hset⟩ := hanswers network hnetwork features.setpoint
      obtain ⟨fromMeasurement, hmeasured⟩ := hanswers network hnetwork features.measurement
      obtain ⟨feedforward, hforward⟩ := hanswers network hnetwork features.feedforward
      exact ⟨_, neuralTorques_eq_ok_iff.mpr ⟨_, _, _, _, hset, hmeasured, hforward,
        overrideTorque_linear h _ _ _ _, rfl⟩⟩

/-- So in exact arithmetic only a network that does not answer makes a fault. -/
theorem modelFault_of_linear {c : Controller ℝ}
    (h : c.capabilities.torqueModel.analyticModel = .linear)
    (hanswers : ∀ network, c.capabilities.torqueModel.neuralModel? = some network →
      ∀ vector, ∃ torque, network.evaluate vector = .ok torque) (input : CycleInput ℝ) :
    (c.step input).1.report.modelFault = false := by
  rw [Bool.eq_false_iff]
  intro hfault
  obtain ⟨torques, hresult⟩ := exists_torques_of_linear (c := c.openCycle.1) (by simpa using h)
    (by simpa using hanswers) input
  have hinfinite := ((c.step_modelFault_iff input).mp hfault).2 torques hresult
  cases hinfinite

end Controller

namespace RunCycle

section Questions

variable {α : Type} [Scalar α]

/-- The controller of a cycle once its tuning is settled. -/
def opened (s : RunCycle α) : Controller α := s.before.openCycle.1

def signals (s : RunCycle α) : LateralSignals α := s.opened.signals s.input

/-- What a cycle sees along the plan. -/
def jerk (s : RunCycle α) : JerkEstimate α := s.opened.lookAhead s.input s.signals

/-- The desired lateral acceleration with the low speed term. -/
def setpoint (s : RunCycle α) : α :=
  s.signals.desiredAccel
    + (s.opened.nextLowSpeed s.input).lastFactor * s.input.desired.curvature

/-- The measured lateral acceleration with the low speed term. -/
def measurement (s : RunCycle α) : α :=
  s.signals.actualAccel + (s.opened.nextLowSpeed s.input).lastFactor * s.signals.actualCurvature

variable {s : RunCycle α}

/-- An active cycle that does not ask the neural model asks the analytic one. -/
theorem outcome_of_analytic (hactive : s.input.active = true) (h : s.usedNeural = false) :
    (s.opened.outcome s.input).1
      = s.opened.analyticTorques s.input s.signals s.jerk s.setpoint s.measurement := by
  have hunused : (s.opened.outcome s.input).2.2 = false := by
    have hreport := s.before.step_report_usedNeural s.input
    rw [hactive, Bool.true_and] at hreport
    exact hreport.symm.trans h
  unfold Controller.outcome Controller.modelTorques at hunused ⊢
  cases ht : s.input.usableTrajectory with
  | none => rfl
  | some t =>
    cases hnetwork : s.opened.capabilities.torqueModel.neuralModel? with
    | none => rfl
    | some network =>
      rw [ht, hnetwork] at hunused
      cases hunused

/-- A cycle that asks the neural model shows it its features. -/
theorem outcome_of_neural (h : s.usedNeural = true) : ∃ network features,
    s.before.capabilities.torqueModel.neuralModel? = some network ∧
    s.features? = some features ∧ (s.opened.outcome s.input).1
      = s.opened.neuralTorques network s.input s.signals (s.featureInputs network).frictionInput
        features := by
  obtain ⟨hactive, t, network, ht, hnetwork⟩ := usedNeural_iff.mp h
  have hopened : s.opened.capabilities.torqueModel.neuralModel? = some network := by
    rw [opened, Controller.openCycle_capabilities, hnetwork]
  refine ⟨network, (s.opened.context.assemble (s.featureInputs network) t).2, hnetwork, ?_, ?_⟩
  · rw [features?, ht, hnetwork, opened, Controller.openCycle_context]
    simp [hactive]
  · unfold Controller.outcome Controller.modelTorques
    rw [ht, hopened]
    rfl

end Questions

/-- The error of a cycle without any friction. -/
noncomputable def plainError (s : RunCycle ℝ) : ℝ :=
  (s.setpoint - s.measurement) / s.opened.tuning.accelFactor

/-- The friction of the linear law in a cycle. -/
noncomputable def friction (s : RunCycle ℝ) (error : ℝ) : ℝ :=
  rampFriction s.opened.tuning.friction s.signals.accelDeadzone error

variable {s : RunCycle ℝ} {torques : ModelTorques ℝ}

/-- Without lateral jerk the analytic error has no friction, whatever friction, deadzone and roll
compensation there are. -/
theorem plain_share (hlaw : s.opened.capabilities.torqueModel.analyticModel = .linear)
    (hactive : s.input.active = true) (hunused : s.usedNeural = false)
    (hplain : s.opened.params.useLateralJerk = false)
    (hresult : (s.opened.outcome s.input).1 = .ok torques) : torques.error = s.plainError ∧
      ∀ friction deadzone roll,
        { s.opened with tuning := { s.opened.tuning with friction := friction } }.analyticError
          s.input { s.signals with accelDeadzone := deadzone, rollCompensation := roll } s.jerk
          s.setpoint s.measurement = .ok torques.error := by
  rw [outcome_of_analytic hactive hunused] at hresult
  have herror := Controller.error_of_analyticTorques hresult
  rw [Controller.analyticError_linear_of_plain hlaw hplain, Except.ok.injEq] at herror
  refine ⟨herror.symm, fun friction deadzone roll => ?_⟩
  rw [← herror]
  apply Controller.analyticError_linear_of_plain
  · exact hlaw
  · exact hplain

/-- With lateral jerk the analytic error has the friction of the setpoint against that of the
measurement. -/
theorem jerk_share (hlaw : s.opened.capabilities.torqueModel.analyticModel = .linear)
    (hactive : s.input.active = true) (hunused : s.usedNeural = false)
    (hjerk : s.opened.params.useLateralJerk = true)
    (hresult : (s.opened.outcome s.input).1 = .ok torques) :
    torques.error - s.plainError = s.friction s.jerk.setpoint - s.friction s.jerk.measurement ∧
      |torques.error - s.plainError| ≤ 2 * |s.opened.tuning.friction| := by
  rw [outcome_of_analytic hactive hunused] at hresult
  have herror := Controller.error_of_analyticTorques hresult
  rw [Controller.analyticError_linear hlaw, hjerk, if_pos rfl, Except.ok.injEq] at herror
  have hfrictions : torques.error - s.plainError
      = s.friction s.jerk.setpoint - s.friction s.jerk.measurement := by
    rw [← herror]
    exact add_sub_cancel_left _ _
  refine ⟨hfrictions, ?_⟩
  rw [hfrictions]
  exact abs_rampFriction_sub_le _ _ _ _

/-- With the neural model the error has the friction of the friction input, or none. -/
theorem neural_share (hlaw : s.opened.capabilities.torqueModel.analyticModel = .linear)
    (hneural : s.usedNeural = true) (hresult : (s.opened.outcome s.input).1 = .ok torques) :
    ∃ network features fromSetpoint fromMeasurement,
      s.before.capabilities.torqueModel.neuralModel? = some network ∧ s.features? = some features ∧
      network.evaluate features.setpoint = .ok fromSetpoint ∧
      network.evaluate features.measurement = .ok fromMeasurement ∧
      network.evaluate features.feedforward = .ok torques.feedforward ∧
      torques.frictionInput = (s.featureInputs network).frictionInput ∧
      torques.error = fromSetpoint - fromMeasurement
        + (if network.frictionOverride || s.opened.tuning.overridden then
            s.friction torques.frictionInput
          else 0) ∧
      |torques.error - (fromSetpoint - fromMeasurement)| ≤ |s.opened.tuning.friction| ∧
      (|torques.frictionInput| < s.signals.accelDeadzone →
        torques.error = fromSetpoint - fromMeasurement) := by
  obtain ⟨network, features, hnetwork, hfeatures, houtcome⟩ := outcome_of_neural hneural
  rw [houtcome] at hresult
  obtain ⟨fromSetpoint, fromMeasurement, hset, hmeasured, hforward, hfriction, herror⟩ :=
    Controller.neuralTorques_linear hlaw hresult
  rw [← hfriction] at herror
  refine ⟨network, features, fromSetpoint, fromMeasurement, hnetwork, hfeatures, hset, hmeasured,
    hforward, hfriction, herror, ?_, fun hwithin => ?_⟩
  · rw [herror, add_sub_cancel_left]
    split
    · exact abs_rampFriction_le _ _ _
    · rw [abs_zero]
      exact abs_nonneg _
  · rw [herror, rampFriction_of_lt hwithin, ite_self, add_zero]

end RunCycle

namespace Controller

/-- **The share of the linear law in the error.**  After any commands, an active cycle without a
fault drives the PID controller with an error to which the law adds friction in three ways only.
Without the neural model and without lateral jerk there is none: the error is a quotient that no
friction, deadzone or roll compensation enters.  With lateral jerk it is the difference of the
frictions of two jerks.  With the neural model it is the friction of the friction input on top of
the error of the network, where the network or the tuning asks for it, while the feedforward is the
network's own. -/
theorem linear_share {c₀ : Controller ℝ}
    (hlinear : c₀.capabilities.torqueModel.analyticModel = .linear) (commands : List (Command ℝ))
    {input : CycleInput ℝ} (hactive : input.active = true)
    (hsound : ((c₀.run commands).step input).1.report.modelFault = false) :
    let s : RunCycle ℝ := ⟨c₀.run commands, input⟩
    let r := s.after.report
    let tuning := s.opened.tuning
    let deadzone := s.signals.accelDeadzone
    (∃ feedforward,
      s.after.pid = s.before.pid.update r.error feedforward input.vehicle.speed
        input.freezesIntegrator ∧
      (s.usedNeural = false → c₀.params.useLateralJerk = false → r.error = s.plainError ∧
        ∀ otherFriction otherDeadzone otherRoll,
          { s.opened with tuning := { tuning with friction := otherFriction } }.analyticError input
            { s.signals with accelDeadzone := otherDeadzone, rollCompensation := otherRoll }
            s.jerk s.setpoint s.measurement = .ok r.error) ∧
      (s.usedNeural = false → c₀.params.useLateralJerk = true →
        r.error - s.plainError = s.friction s.jerk.setpoint - s.friction s.jerk.measurement ∧
        |r.error - s.plainError| ≤ 2 * |tuning.friction|) ∧
      (s.usedNeural = true → ∃ network features fromSetpoint fromMeasurement,
        c₀.capabilities.torqueModel.neuralModel? = some network ∧ s.features? = some features ∧
        network.evaluate features.setpoint = .ok fromSetpoint ∧
        network.evaluate features.measurement = .ok fromMeasurement ∧
        network.evaluate features.feedforward = .ok feedforward ∧
        r.frictionInput = (s.featureInputs network).frictionInput ∧
        r.error = fromSetpoint - fromMeasurement
          + (if network.frictionOverride || tuning.overridden then s.friction r.frictionInput
            else 0) ∧
        |r.error - (fromSetpoint - fromMeasurement)| ≤ |tuning.friction| ∧
        (|r.frictionInput| < deadzone → r.error = fromSetpoint - fromMeasurement))) ∧
    (∀ error, frictionTorque error deadzone frictionThreshold tuning true = s.friction error ∧
      s.friction (-error) = -s.friction error) ∧
    (0 ≤ tuning.friction → Monotone s.friction) := by
  intro s r tuning deadzone
  have hlaw : s.opened.capabilities.torqueModel.analyticModel = .linear := by
    rw [RunCycle.opened, openCycle_capabilities, run_torqueModel, hlinear]
  have hparams : s.opened.params = c₀.params := by
    rw [RunCycle.opened, openCycle_params, run_params]
  obtain ⟨torques, hresult, hpid, (herror : r.error = torques.error),
    (hinput : r.frictionInput = torques.frictionInput), -⟩ := s.before.step_driven hactive hsound
  rw [herror, hinput]
  refine ⟨⟨torques.feedforward, hpid, ?_, ?_, ?_⟩, ?_, ?_⟩
  · intro hunused hplain
    exact RunCycle.plain_share hlaw hactive hunused (hparams ▸ hplain) hresult
  · intro hunused hjerk
    exact RunCycle.jerk_share hlaw hactive hunused (hparams ▸ hjerk) hresult
  · intro hneural
    have hmodel : s.before.capabilities.torqueModel = c₀.capabilities.torqueModel :=
      c₀.run_torqueModel commands
    rw [← hmodel]
    exact RunCycle.neural_share hlaw hneural hresult
  · intro error
    exact ⟨frictionTorque_eq _ _ _, rampFriction_neg _ _ _⟩
  · intro hfriction
    exact rampFriction_mono hfriction _

/-- A turn along a plan after a reset, of a vehicle with the linear law alone, with lateral jerk,
and with a network that has the friction of the law on top. -/
theorem linear_share_of_turn :
    let input : CycleInput ℝ :=
      { CycleInput.turn 20 0.001 with trajectory := some (JerkEstimate.planEndingAt 0) }
    let turned (params : Params ℝ) (model : TorqueModel ℝ) : RunCycle ℝ :=
      ⟨(initial params { Capabilities.standard with torqueModel := model }).run [.reset], input⟩
    let plain := turned .standard (.analytic .linear)
    let jerky := turned { Params.standard with useLateralJerk := true } (.analytic .linear)
    let neural := turned .standard (.neural summing .linear)
    plain.after.report.error = 0.2 ∧
      |jerky.after.report.error - jerky.plainError| ≤ 2 * 0.1 ∧
      ∃ features, neural.features? = some features ∧
        |neural.after.report.error - (features.setpoint.tail.sum - features.measurement.tail.sum)|
          ≤ 0.1 := by
  intro input turned plain jerky neural
  have hactive : input.active = true := rfl
  have hlinear : ∀ (params : Params ℝ) (model : TorqueModel ℝ), model.analyticModel = .linear →
      (initial params { Capabilities.standard with
        torqueModel := model }).capabilities.torqueModel.analyticModel = .linear := by
    intro params model hlaw
    exact hlaw
  have hsound : ∀ params model, model.analyticModel = .linear →
      (∀ network, model.neuralModel? = some network →
        ∀ vector, ∃ torque, network.evaluate vector = .ok torque) →
      (turned params model).after.report.modelFault = false := by
    intro params model hlaw hanswers
    exact modelFault_of_linear (hlinear params model hlaw) hanswers input
  have hunused : ∀ params, (turned params (.analytic .linear)).usedNeural = false := by
    intro params
    rw [Bool.eq_false_iff, ne_eq, RunCycle.usedNeural_iff]
    rintro ⟨-, t, network, -, ⟨⟩⟩
  have hneural : neural.usedNeural = true := by
    refine RunCycle.usedNeural_iff.mpr ⟨hactive, JerkEstimate.planEndingAt 0, summing, ?_, rfl⟩
    exact Option.filter_eq_some_iff.mpr ⟨rfl, JerkEstimate.isGood_planEndingAt 0⟩
  refine ⟨?_, ?_, ?_⟩
  · obtain ⟨⟨_, -, hshare, -, -⟩, -, -⟩ := linear_share
      (hlinear .standard (.analytic .linear) rfl) [.reset] hactive
      (hsound _ _ rfl (by rintro network ⟨⟩))
    refine (hshare (hunused _) rfl).1.trans ?_
    have hset : plain.setpoint = 0.5 := by
      show (0.001 : ℝ) * Scalar.square 20 * curvatureAttenuation 20
        + LowSpeedTable.standard.factor 20 false * 0.001 = 0.5
      norm_num [Scalar.square, curvatureAttenuation, LowSpeedTable.factor, LowSpeedTable.standard,
        interp, interpPoints, interpAfter, linearMap]
    have hstraight : plain.signals.actualCurvature = 0 := by
      show LateralSignals.steeringCurvature (⟨15.0, 2.7, -0.002⟩ : BicycleModel ℝ).curvature
        (⟨20, 0, 0, 0, 0, false⟩ : VehicleState ℝ) ⟨0, none, 0⟩ = 0
      simp [LateralSignals.steeringCurvature, BicycleModel.curvature, BicycleModel.rollCurvature,
        Scalar.radians]
    have hmeasured : plain.measurement = 0 := by
      show plain.signals.actualCurvature * Scalar.square 20
        + LowSpeedTable.standard.factor 20 false * plain.signals.actualCurvature = 0
      rw [hstraight, zero_mul, mul_zero, add_zero]
    show (plain.setpoint - plain.measurement) / 2.5 = 0.2
    rw [hset, hmeasured]
    norm_num
  · obtain ⟨⟨_, -, -, hshare, -⟩, -, -⟩ := linear_share
      (hlinear { Params.standard with useLateralJerk := true } (.analytic .linear) rfl) [.reset]
      hactive (hsound _ _ rfl (by rintro network ⟨⟩))
    refine (hshare (hunused _) rfl).2.trans_eq ?_
    show 2 * |(0.1 : ℝ)| = 2 * 0.1
    norm_num
  · obtain ⟨⟨_, -, -, -, hshare⟩, -, -⟩ := linear_share
      (hlinear .standard (.neural summing .linear) rfl) [.reset] hactive
      (hsound _ _ rfl (by rintro network ⟨⟩ vector; exact ⟨_, rfl⟩))
    obtain ⟨network, features, _, _, ⟨⟩, hfeatures, ⟨⟩, ⟨⟩, -, -, -, hbound, -⟩ := hshare hneural
    refine ⟨features, hfeatures, hbound.trans_eq ?_⟩
    show |(0.1 : ℝ)| = 0.1
    norm_num

end Controller

end LateralTorque
