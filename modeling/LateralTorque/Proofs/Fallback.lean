import LateralTorque.Proofs.Run

/-!
# Cycles without a usable plan

The neural model and the jerk terms need a plan.  Where there is none, a cycle computes with the
analytic model alone, and ought to do what the plain controller does, which has neither neural model
nor jerk terms.  Three settings of the full controller stay in force all the same: the low speed
factor is suppressed, the acceleration error is scaled in the friction input, and the torques of the
error carry friction.

This holds of any number system, doubles included, of any vehicle, models and low speed law, and of
any state that a controller may be in, reached by a run or not.

* `prepare_of_no_plan` — what a cycle computes without a usable plan;
* `Reverts` — none of the three settings makes a difference to a cycle;
* `fallback_agrees_iff` — the cycle computes what the plain controller computes from the same state
  exactly where they make none, and then the cycle as a whole is the plain controller's;
* `suppressed_without_plan` — a cycle in which all three do.

A run of the plain controller beside one of the full controller is not compared beyond the one
cycle: their memories come apart with the first cycle that has a plan.
-/

set_option autoImplicit false

namespace LateralTorque

variable {α : Type} [Scalar α]

/-! ## What a cycle computes -/

/-- What a cycle without a usable plan computes ahead of the PID controller. -/
@[ext] structure FallbackCycle (α : Type) where
  lowSpeedFactor : α
  frictionInput : α
  error : Except ModelError α
  feedforward : Except ModelError α

/-- The torques, if the model gives them. -/
def FallbackCycle.torques {α : Type} (f : FallbackCycle α) :
    Except ModelError (ModelTorques α) := do
  let error ← f.error
  let feedforward ← f.feedforward
  return {
    error := error
    feedforward := feedforward
    frictionInput := f.frictionInput
    features := none }

namespace Controller

/-- The controller without neural model and jerk terms. -/
def plain (c : Controller α) : Controller α :=
  { c with
    params := { c.params with useLateralJerk := false }
    capabilities := { c.capabilities with
      torqueModel := .analytic c.capabilities.torqueModel.analyticModel } }

/-- Whether a controller has anything that the plain one has not. -/
def enhanced (c : Controller α) : Bool :=
  c.capabilities.torqueModel.neuralModel?.isSome || c.params.useLateralJerk

/-- The low speed factor of a cycle, suppressed or not. -/
def factorUnder (c : Controller α) (input : CycleInput α) (suppress : Bool) : α :=
  (c.scheduleLowSpeed { c.lowSpeedInputs input (c.signals input) with
    suppress := suppress }).1.lastFactor

/-- The acceleration error of a cycle. -/
def accelError (c : Controller α) (input : CycleInput α) : α :=
  (c.signals input).desiredAccel - (c.signals input).actualAccel

/-- The torque error of a cycle without jerk terms, with friction in its torques or without. -/
def errorUnder (c : Controller α) (input : CycleInput α) (factor : α) (compensate : Bool) :
    Except ModelError α := do
  let sig := c.signals input
  let model := c.capabilities.torqueModel.analyticModel
  let fromSetpoint ← model.torque
    (analyticInputs input sig (sig.desiredAccel + factor * input.desired.curvature)) c.tuning 0
    sig.accelDeadzone compensate false
  let fromMeasurement ← model.torque
    (analyticInputs input sig (sig.actualAccel + factor * sig.actualCurvature)) c.tuning 0
    sig.accelDeadzone compensate false
  return fromSetpoint - fromMeasurement

/-- What a cycle without a usable plan computes. -/
def fallback (c : Controller α) (input : CycleInput α) : FallbackCycle α :=
  let frictionInput := c.analyticFrictionInput (c.signals input)
    (JerkEstimate.none c.params.accelFrictionFactor)
  let factor := c.factorUnder input c.suppressesLowSpeed
  { lowSpeedFactor := factor
    frictionInput := frictionInput
    error := c.errorUnder input factor c.params.useLateralJerk
    feedforward := c.analyticFeedforward input (c.signals input) frictionInput }

variable {input : CycleInput α}

theorem lookAhead_of_no_plan (c : Controller α) (hplan : input.usableTrajectory = none) :
    c.lookAhead input (c.signals input) = JerkEstimate.none c.params.accelFrictionFactor := by
  unfold lookAhead
  rw [hplan]

/-- An active cycle without a usable plan, up to the torque model. -/
theorem prepare_of_no_plan (c : Controller α) (hplan : input.usableTrajectory = none) :
    (c.prepare input).2.1 = (c.fallback input).torques ∧
      (c.prepare input).1 = { c with
        lowSpeed := ⟨(c.fallback input).lowSpeedFactor⟩
        report := { c.report with
          active := true
          actualAccel := (c.signals input).actualAccel
          desiredAccel := (c.signals input).desiredAccel
          lowSpeedFactor := (c.fallback input).lowSpeedFactor
          desiredJerk := 0
          lookaheadJerk := 0
          usedNeural := false } } := by
  unfold prepare modelTorques
  simp only [c.lookAhead_of_no_plan hplan, hplan]
  exact ⟨rfl, rfl⟩

/-! ## The plain controller -/

omit [Scalar α] in
theorem suppressesLowSpeed_eq (c : Controller α) :
    c.suppressesLowSpeed =
      (c.enhanced || !c.capabilities.torqueModel.analyticModel.isLinear) := rfl

theorem fallback_frictionInput (c : Controller α) (input : CycleInput α) :
    (c.fallback input).frictionInput =
      if c.params.useLateralJerk then
        c.params.accelFrictionFactor * c.accelError input + c.params.jerkFrictionFactor * 0
      else c.accelError input := rfl

theorem fallback_error (c : Controller α) (input : CycleInput α) :
    (c.fallback input).error =
      c.errorUnder input (c.fallback input).lowSpeedFactor c.params.useLateralJerk := rfl

theorem fallback_feedforward (c : Controller α) (input : CycleInput α) :
    (c.fallback input).feedforward =
      c.analyticFeedforward input (c.signals input) (c.fallback input).frictionInput := rfl

theorem plain_fallback (c : Controller α) (input : CycleInput α) :
    c.plain.fallback input =
      { lowSpeedFactor :=
          c.factorUnder input (!c.capabilities.torqueModel.analyticModel.isLinear)
        frictionInput := c.accelError input
        error := c.errorUnder input
          (c.factorUnder input (!c.capabilities.torqueModel.analyticModel.isLinear)) false
        feedforward := c.analyticFeedforward input (c.signals input) (c.accelError input) } := by
  have hsuppress : c.plain.suppressesLowSpeed
      = !c.capabilities.torqueModel.analyticModel.isLinear := by
    rw [suppressesLowSpeed_eq]
    rfl
  rw [← hsuppress]
  rfl

theorem plain_openCycle (c : Controller α) : c.plain.openCycle.1 = c.openCycle.1.plain := by
  rw [openCycle_eq, openCycle_eq]
  rfl

/-! ## Where the two agree -/

/-- None of the settings that stay in force makes a difference to a cycle: not the suppression,
where the plain controller does not suppress too; not the scaling of the acceleration error, with no
jerk to add; and not the friction in the torques of the error. -/
structure Reverts (c : Controller α) (input : CycleInput α) : Prop where
  factor : c.enhanced = true → c.capabilities.torqueModel.analyticModel.isLinear = true →
    c.factorUnder input true = c.factorUnder input false
  friction : c.params.useLateralJerk = true →
    c.params.accelFrictionFactor * c.accelError input + c.params.jerkFrictionFactor * 0
      = c.accelError input
  error : c.params.useLateralJerk = true →
    c.errorUnder input (c.fallback input).lowSpeedFactor true
      = c.errorUnder input (c.fallback input).lowSpeedFactor false

theorem lowSpeedFactor_eq_plain_iff (c : Controller α) (input : CycleInput α) :
    (c.fallback input).lowSpeedFactor = (c.plain.fallback input).lowSpeedFactor ↔
      (c.enhanced = true → c.capabilities.torqueModel.analyticModel.isLinear = true →
        c.factorUnder input true = c.factorUnder input false) := by
  rw [plain_fallback]
  show c.factorUnder input c.suppressesLowSpeed = c.factorUnder input _ ↔ _
  rw [suppressesLowSpeed_eq]
  cases c.enhanced <;> cases c.capabilities.torqueModel.analyticModel.isLinear <;> simp

theorem frictionInput_eq_plain_iff (c : Controller α) (input : CycleInput α) :
    (c.fallback input).frictionInput = (c.plain.fallback input).frictionInput ↔
      (c.params.useLateralJerk = true →
        c.params.accelFrictionFactor * c.accelError input + c.params.jerkFrictionFactor * 0
          = c.accelError input) := by
  rw [plain_fallback, fallback_frictionInput]
  cases c.params.useLateralJerk <;> simp

theorem error_eq_plain_iff (c : Controller α) (input : CycleInput α)
    (hfactor : (c.fallback input).lowSpeedFactor = (c.plain.fallback input).lowSpeedFactor) :
    (c.fallback input).error = (c.plain.fallback input).error ↔
      (c.params.useLateralJerk = true →
        c.errorUnder input (c.fallback input).lowSpeedFactor true
          = c.errorUnder input (c.fallback input).lowSpeedFactor false) := by
  have hplain : (c.plain.fallback input).error
      = c.errorUnder input (c.plain.fallback input).lowSpeedFactor false := rfl
  rw [hplain, ← hfactor, fallback_error]
  cases c.params.useLateralJerk <;> simp

/-- The two controllers compute the same where the settings make no difference, and nowhere
else. -/
theorem fallback_eq_plain_iff (c : Controller α) (input : CycleInput α) :
    c.fallback input = c.plain.fallback input ↔ c.Reverts input := by
  constructor
  · intro h
    have hfactor := congrArg FallbackCycle.lowSpeedFactor h
    exact ⟨(c.lowSpeedFactor_eq_plain_iff input).mp hfactor,
      (c.frictionInput_eq_plain_iff input).mp (congrArg FallbackCycle.frictionInput h),
      (c.error_eq_plain_iff input hfactor).mp (congrArg FallbackCycle.error h)⟩
  · intro h
    have hfactor := (c.lowSpeedFactor_eq_plain_iff input).mpr h.factor
    have hfriction := (c.frictionInput_eq_plain_iff input).mpr h.friction
    refine FallbackCycle.ext hfactor hfriction ((c.error_eq_plain_iff input hfactor).mpr h.error) ?_
    -- The feedforward depends on the setting through the friction input alone.
    rw [fallback_feedforward, hfriction]
    rfl

theorem plain_settle (c : Controller α) (input : CycleInput α)
    (result : Except ModelError (ModelTorques α)) :
    (c.plain.settle input result).1 = (c.settle input result).1.plain := by
  cases result with
  | error cause => rfl
  | ok torques =>
    by_cases hfinite : torques.areFinite = true
    · simp only [settle, hfinite, if_true]
      rfl
    · simp only [settle, hfinite]
      rfl

/-- A cycle that computes the same ends the same. -/
theorem plain_step (c : Controller α) (hactive : input.active = true)
    (hplan : input.usableTrajectory = none)
    (hagrees : c.openCycle.1.fallback input = c.openCycle.1.plain.fallback input) :
    (c.plain.step input).1 = (c.step input).1.plain := by
  have hprepared : (c.openCycle.1.plain.prepare input).1
      = (c.openCycle.1.prepare input).1.plain := by
    rw [(prepare_of_no_plan _ hplan).2, (prepare_of_no_plan _ hplan).2, hagrees]
    rfl
  have hresult : (c.openCycle.1.plain.prepare input).2.1 = (c.openCycle.1.prepare input).2.1 := by
    rw [(prepare_of_no_plan _ hplan).1, (prepare_of_no_plan _ hplan).1, hagrees]
  rw [step_of_active _ hactive, step_of_active _ hactive, plain_openCycle, hprepared, hresult]
  exact plain_settle _ _ _

/-- **Without a usable plan** an active cycle computes what the plain controller computes from the
same state exactly where none of the settings of the full controller makes a difference to it; there
it leaves the same state, torque and record. -/
theorem fallback_agrees_iff (c : Controller α) (hactive : input.active = true)
    (hplan : input.usableTrajectory = none) :
    ((c.openCycle.1.prepare input).2.1 = (c.openCycle.1.fallback input).torques ∧
      (c.openCycle.1.prepare input).1.report.lowSpeedFactor
        = (c.openCycle.1.fallback input).lowSpeedFactor) ∧
    (c.openCycle.1.fallback input = c.plain.openCycle.1.fallback input ↔
      c.openCycle.1.Reverts input) ∧
    (c.openCycle.1.Reverts input → (c.plain.step input).1 = (c.step input).1.plain) := by
  obtain ⟨hresult, hprepared⟩ := c.openCycle.1.prepare_of_no_plan hplan
  have hiff := c.openCycle.1.fallback_eq_plain_iff input
  rw [plain_openCycle]
  refine ⟨⟨hresult, ?_⟩, hiff, fun h => plain_step c hactive hplan (hiff.mpr h)⟩
  rw [hprepared]

/-- Parameters with the jerk terms on. -/
def jerky : Params Float := { Params.standard with useLateralJerk := true }

/-- With a low speed factor that is never suppressed and an acceleration error taken as it is, the
jerk terms leave nothing behind. -/
theorem fallback_agrees_unsuppressed :
    let c := initial { jerky with accelFrictionFactor := 1.0 }
      { Capabilities.standard with lowSpeedLaw := fun _ _ => 1.0 }
    let input := CycleInput.turn 20.0 0.001
    input.active = true ∧ input.usableTrajectory = none ∧
      (c.plain.step input).1 = (c.step input).1.plain := by
  intro c input
  have hplan : input.usableTrajectory = none := rfl
  have hagrees := fallback_agrees_iff c rfl hplan
  refine ⟨rfl, rfl, hagrees.2.2 ⟨fun _ _ => rfl, fun _ => by decide +kernel, fun _ => ?_⟩⟩
  exact congrArg Except.ok (by decide +kernel)

/-- The standard table and scaling do leave their mark: the low speed factor is suppressed, the
friction input smaller, and so are error and feedforward. -/
theorem suppressed_without_plan :
    create jerky Capabilities.standard = .ok (initial jerky Capabilities.standard) ∧
      let input := CycleInput.turn 20.0 0.001
      let full := ((initial jerky Capabilities.standard).step input).1.report
      let plain := ((initial jerky Capabilities.standard).plain.step input).1.report
      input.usableTrajectory = none ∧
        (full.lowSpeedFactor = 1.0 ∧ plain.lowSpeedFactor = 100.0) ∧
        full.frictionInput < plain.frictionInput ∧ full.error < plain.error ∧ full.f < plain.f :=
  ⟨create_standard (Params.validate_eq_ok_iff.mpr (by decide +kernel)) rfl, rfl,
    by decide +kernel⟩

end Controller

end LateralTorque
