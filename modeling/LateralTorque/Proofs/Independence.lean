import LateralTorque.Proofs.Fallback

/-!
# What a cycle does not depend on

Two parts of a cycle's input reach less of it than they could.  A plan that cannot be used, or that
the controller has no use for, reaches nothing.  The torque that the actuator reports reaches the
delay estimate at the end of the cycle, which is read from the next cycle on.

These are statements about two runs whose inputs differ in one part, in any number system and for
any vehicle and models.  Agreement is that of whole states, and so of torques, records and all that
follows from them.

* `runs_eq_of_alike` — runs whose cycles cannot be told apart are the same;
* `step_withPlan`, `runs_agree_barring_plans` — the plan, from any state;
* `step_withFeedback`, `feedback_lags_one_cycle` — the feedback, at the end of any run, and over
  whole runs of a controller that does not estimate the delay.

What a usable plan reaches in a controller that has a use for it is not described here, nor what
another delay does to later cycles.
-/

set_option autoImplicit false

namespace LateralTorque

/-! ## Runs that differ in their inputs -/

section Inputs

variable {α : Type}

/-- Commands of two runs that are the same but for the input of a cycle, which differs as `alike`
allows. -/
inductive Command.Alike (alike : CycleInput α → CycleInput α → Prop) :
    Command α → Command α → Prop where
  | same (command : Command α) : Alike alike command command
  | cycle {a b : CycleInput α} (h : alike a b) : Alike alike (.cycle a) (.cycle b)

/-- An input with another plan. -/
def CycleInput.withPlan (input : CycleInput α) (plan : Option (Trajectory α)) : CycleInput α :=
  { input with trajectory := plan }

/-- An input with another torque reported by the actuator. -/
def CycleInput.withFeedback (input : CycleInput α) (torque : Option α) : CycleInput α :=
  { input with actuatorTorque := torque }

end Inputs

variable {α : Type} [Scalar α]

namespace Controller

/-- **Runs that cannot be told apart.**  Where cycles with alike inputs leave the same from every
state in `P`, and no command leads out of `P`, runs from a state in `P` with alike inputs go through
the same states. -/
theorem runs_eq_of_alike {P : Controller α → Prop} {alike : CycleInput α → CycleInput α → Prop}
    (hkeep : ∀ c command, P c → P (c.obey command))
    (hstep : ∀ c a b, P c → alike a b → (c.step a).1 = (c.step b).1)
    {commands others : List (Command α)} (h : List.Forall₂ (Command.Alike alike) commands others)
    {c : Controller α} (hc : P c) :
    c.cycles commands = c.cycles others ∧ c.run commands = c.run others := by
  induction h generalizing c with
  | nil => exact ⟨rfl, rfl⟩
  | @cons command other rest others hhead _ ih =>
    have hcycle : command.isCycle = other.isCycle := by cases hhead <;> rfl
    have hsame : c.obey command = c.obey other := by
      cases hhead with
      | same => rfl
      | cycle halike => exact hstep c _ _ hc halike
    obtain ⟨hcycles, hrun⟩ := ih (hkeep c command hc)
    rw [hsame] at hcycles hrun
    refine ⟨?_, (congrArg (fun d => d.run rest) hsame).trans hrun⟩
    rw [cycles, cycles, hcycle, hsame, hcycles]

/-! ## The plan -/

/-- The plan that a cycle consults: a usable one, where the controller has a use for it. -/
def consultedPlan (c : Controller α) (input : CycleInput α) : Option (Trajectory α) :=
  if c.enhanced then input.usableTrajectory else none

variable {c : Controller α} {input : CycleInput α} {plan : Option (Trajectory α)}

theorem lookAhead_eq (c : Controller α) (input : CycleInput α) (sig : LateralSignals α) :
    c.lookAhead input sig =
      match c.consultedPlan input with
      | some t => JerkEstimate.ofTrajectory t input.vehicle.speed sig.desiredAccel sig.actualJerk
          c.delay.delay c.tuning.useSteeringAngle c.params.jerkFrictionFactor
          c.params.accelFrictionFactor
      | none => JerkEstimate.none c.params.accelFrictionFactor := by
  unfold lookAhead consultedPlan enhanced
  cases input.usableTrajectory with
  | none => cases (c.capabilities.torqueModel.neuralModel?.isSome || c.params.useLateralJerk) <;> rfl
  | some t =>
    cases (c.capabilities.torqueModel.neuralModel?.isSome || c.params.useLateralJerk) <;> rfl

theorem modelTorques_eq (c : Controller α) (input : CycleInput α) (sig : LateralSignals α)
    (jerk : JerkEstimate α) (setpoint measurement : α) :
    c.modelTorques input sig jerk setpoint measurement =
      match c.consultedPlan input, c.capabilities.torqueModel.neuralModel? with
      | some t, some network =>
        let inputs := c.featureInputs network input sig jerk setpoint measurement
        let (context, features) := c.context.assemble inputs t
        (c.neuralTorques network input sig inputs.frictionInput features, context, true)
      | _, _ => (c.analyticTorques input sig jerk setpoint measurement, c.context, false) := by
  unfold modelTorques consultedPlan enhanced
  cases c.capabilities.torqueModel.neuralModel? with
  | some network => rfl
  | none => cases input.usableTrajectory <;> cases c.params.useLateralJerk <;> rfl

/-- **A cycle sees of the plan what it consults**, and nothing else. -/
theorem step_withPlan (h : c.openCycle.1.consultedPlan (input.withPlan plan)
      = c.openCycle.1.consultedPlan input) :
    c.step (input.withPlan plan) = c.step input := by
  have hprepare : c.openCycle.1.prepare (input.withPlan plan) = c.openCycle.1.prepare input := by
    unfold prepare
    simp only [lookAhead_eq, modelTorques_eq, h]
    rfl
  have hactive : (input.withPlan plan).active = input.active := rfl
  unfold step stepActive
  rw [hactive]
  dsimp only
  rw [hprepare]
  rfl

theorem consultedPlan_of_unusable (c : Controller α) {input : CycleInput α}
    (h : ∀ t, input.trajectory = some t → t.isGood = false) : c.consultedPlan input = none := by
  have hnone : input.usableTrajectory = none := by
    rw [CycleInput.usableTrajectory, Option.filter_eq_none_iff]
    exact fun t ht => by simp [h t ht]
  rw [consultedPlan, hnone, ite_self]

theorem consultedPlan_of_plain (h : c.enhanced = false) (input : CycleInput α) :
    c.consultedPlan input = none := by
  simp [consultedPlan, h]

end Controller

/-- Two inputs that differ at most in their plans, neither of which, if there is one, can be
used. -/
def CycleInput.DifferInUnusablePlans (a b : CycleInput α) : Prop :=
  ∃ plan, b = a.withPlan plan ∧ (∀ t, a.trajectory = some t → t.isGood = false) ∧
    ∀ t, plan = some t → t.isGood = false

/-- Two inputs that differ at most in their plans. -/
def CycleInput.DifferInPlans {α : Type} (a b : CycleInput α) : Prop := ∃ plan, b = a.withPlan plan

namespace Controller

/-- **Runs agree but for plans that are not consulted.**  From any state of any controller, two runs
in which one has a plan that cannot be used where the other has none, or another one that cannot be
used, go through the same states and so hand out the same torques and records.  So do, without neural
model and jerk terms, two runs that differ in their plans in any way. -/
theorem runs_agree_barring_plans (c : Controller α) (commands others : List (Command α)) :
    (List.Forall₂ (Command.Alike CycleInput.DifferInUnusablePlans) commands others →
      c.cycles commands = c.cycles others ∧ c.run commands = c.run others) ∧
    ∀ model, c.capabilities.torqueModel = .analytic model → c.params.useLateralJerk = false →
      List.Forall₂ (Command.Alike CycleInput.DifferInPlans) commands others →
        c.cycles commands = c.cycles others ∧ c.run commands = c.run others := by
  refine ⟨fun h => ?_, fun model hmodel hjerk h => ?_⟩
  · refine runs_eq_of_alike (P := fun _ => True) (fun _ _ _ => trivial) ?_ h trivial
    rintro d a b - ⟨plan, rfl, ha, hplan⟩
    rw [step_withPlan]
    rw [consultedPlan_of_unusable _ ha, consultedPlan_of_unusable _ hplan]
  · have hplain : c.enhanced = false := by rw [enhanced, hmodel, hjerk]; rfl
    refine runs_eq_of_alike (P := fun d => d.enhanced = false) (fun d command hd => ?_) ?_ h hplain
    · rwa [enhanced, obey_torqueModel, obey_params]
    · rintro d a b hd ⟨plan, rfl⟩
      have hopen : d.openCycle.1.enhanced = false := by
        rwa [enhanced, openCycle_capabilities, openCycle_params]
      rw [step_withPlan]
      rw [consultedPlan_of_plain hopen, consultedPlan_of_plain hopen]

/-- A plan along which the acceleration grows. -/
def growingPlan : Trajectory Float :=
  ⟨Trajectory.timeGrid, Trajectory.timeGrid, Trajectory.timeGrid, Trajectory.timeGrid⟩

/-- A plan that breaks off, against none, with the jerk terms on; and a plan that can be used, against
none, with the jerk terms off. -/
theorem runs_agree_barring_cut_plan :
    let turn : CycleInput Float := .turn 20.0 0.01
    let cut : Trajectory Float := { growingPlan with times := growingPlan.times.take 20 }
    let full := initial { Params.standard with useLateralJerk := true } Capabilities.standard
    let plain := initial Params.standard Capabilities.standard
    cut.isGood = false ∧ growingPlan.isGood = true ∧
      full.cycles [.cycle (turn.withPlan (some cut)), .reset, .cycle turn]
        = full.cycles [.cycle turn, .reset, .cycle turn] ∧
      plain.cycles [.cycle (turn.withPlan (some growingPlan)), .reset, .cycle turn]
        = plain.cycles [.cycle turn, .reset, .cycle turn] := by
  intro turn cut full plain
  have hcut : cut.isGood = false := by decide +kernel
  have hgood : growingPlan.isGood = true := by decide +kernel
  have hrest : List.Forall₂ (Command.Alike CycleInput.DifferInUnusablePlans)
      [.reset, .cycle turn] [.reset, .cycle turn] :=
    .cons (.same _) (.cons (.same _) .nil)
  refine ⟨hcut, hgood, ?_, ?_⟩
  · refine ((runs_agree_barring_plans full _ _).1 (.cons (.cycle ⟨none, rfl, ?_, ?_⟩) hrest)).1
    · rintro t ⟨⟩
      exact hcut
    · rintro t ⟨⟩
  · exact ((runs_agree_barring_plans plain _ _).2 .linear rfl rfl
      (.cons (.cycle ⟨none, rfl⟩) (.cons (.same _) (.cons (.same _) .nil)))).1

end Controller

/-! ## The feedback of the actuator -/

theorem DelayEstimator.update_of_disabled {e : DelayEstimator α} (h : e.enabled = false)
    (realised : Option α) (commanded : α) : e.update realised commanded = e := by
  simp [update, accepted?, h]

namespace Controller

/-- A controller with another delay estimate, in its memory and in its record. -/
def withDelay (c : Controller α) (delay : DelayEstimator α) : Controller α :=
  { c with delay := delay, report := { c.report with actuatorDelay := delay.delay } }

/-- The delay in the record is the one that the next cycle is going to use. -/
theorem step_report_actuatorDelay (c : Controller α) (input : CycleInput α) :
    (c.step input).1.report.actuatorDelay = (c.step input).1.delay.delay := by
  have hopen : c.openCycle.1.report.actuatorDelay = c.openCycle.1.delay.delay := by
    rw [openCycle_eq]
    rfl
  rcases c.step_cases input with ⟨_, hs⟩ | ⟨_, _, hs⟩ | ⟨_, _, _, _, hs⟩ <;> rw [hs]
  · exact hopen
  · exact hopen
  · rfl

theorem settle_withFeedback {c : Controller α} (h : c.report.actuatorDelay = c.delay.delay)
    (input : CycleInput α) (torque : Option α) (result : Except ModelError (ModelTorques α)) :
    (c.settle (input.withFeedback torque) result).1
      = (c.settle input result).1.withDelay
        (c.settle (input.withFeedback torque) result).1.delay := by
  have hhold : c.hold = c.hold.withDelay c.hold.delay := by
    have hheld : c.hold.report.actuatorDelay = c.hold.delay.delay := h
    rw [withDelay, ← hheld]
  cases result with
  | error cause => exact hhold
  | ok torques =>
    cases hfinite : torques.areFinite with
    | false =>
      simp only [settle, hfinite]
      exact hhold
    | true =>
      simp only [settle, hfinite, if_true]
      rfl

/-- A cycle that is held does not look at its input again. -/
theorem settle_of_fault {result : Except ModelError (ModelTorques α)}
    (h : ∀ torques, result = .ok torques → torques.areFinite = false) (c : Controller α)
    (input other : CycleInput α) : c.settle input result = c.settle other result := by
  cases result with
  | error cause => rfl
  | ok torques => simp [settle, h torques rfl]

theorem prepare_withFeedback (c : Controller α) (input : CycleInput α) (torque : Option α) :
    c.prepare (input.withFeedback torque) = c.prepare input := rfl

/-- **The feedback reaches the delay estimate** and nothing else in its cycle. -/
theorem step_withFeedback (c : Controller α) (input : CycleInput α) (torque : Option α) :
    (c.step (input.withFeedback torque)).1
      = (c.step input).1.withDelay (c.step (input.withFeedback torque)).1.delay := by
  cases hactive : input.active with
  | false =>
    have hidle : (input.withFeedback torque).active = false := hactive
    have hdelay := c.step_report_actuatorDelay input
    rw [step_of_idle _ hactive] at hdelay ⊢
    rw [step_of_idle _ hidle, withDelay, ← hdelay]
  | true =>
    have hengaged : (input.withFeedback torque).active = true := hactive
    have hdelay : (c.openCycle.1.prepare input).1.report.actuatorDelay
        = (c.openCycle.1.prepare input).1.delay.delay := by
      rw [prepare_eq, openCycle_eq]
      rfl
    rw [step_of_active _ hactive, step_of_active _ hengaged, prepare_withFeedback]
    exact settle_withFeedback hdelay input torque _

/-- In a cycle that does not reach the PID controller the feedback reaches nothing at all. -/
theorem step_withFeedback_of_undriven (c : Controller α) (input : CycleInput α)
    (torque : Option α) (h : (c.step input).1.report.driven = false) :
    c.step (input.withFeedback torque) = c.step input := by
  have hsame : (input.withFeedback torque).active = input.active := rfl
  cases hactive : input.active with
  | false =>
    unfold step
    simp only [hsame, hactive, Bool.false_eq_true, if_false]
  | true =>
    have hfault : (c.step input).1.report.modelFault = true := by
      simpa [Diagnostics.driven, hactive] using h
    have hsettle := settle_of_fault ((c.step_modelFault_iff input).mp hfault).2
      (c.openCycle.1.prepare input).1 (input.withFeedback torque) input
    unfold step stepActive
    simp only [hsame, hactive, if_true, prepare_withFeedback]
    rw [hsettle]

/-- A delay that is not estimated takes no feedback, and no command turns the estimate on. -/
theorem obey_delay_of_disabled {c : Controller α} (h : c.delay.enabled = false)
    (command : Command α) : (c.obey command).delay.enabled = false := by
  cases command with
  | cycle input =>
    rw [obey, step_delay]
    split
    · rwa [DelayEstimator.update_of_disabled h]
    · exact h
  | reset | supply _ => exact h
  | retune factor offset friction => rwa [obey_retune_eq]

end Controller

/-- Two inputs that differ at most in the torque that the actuator reports. -/
def CycleInput.DifferInFeedback {α : Type} (a b : CycleInput α) : Prop :=
  ∃ torque, b = a.withFeedback torque

namespace Controller

/-- Without an estimate of the delay, runs that differ in the feedback are the same. -/
theorem runs_agree_of_disabled {c : Controller α} (h : c.delay.enabled = false)
    {commands others : List (Command α)}
    (hothers : List.Forall₂ (Command.Alike CycleInput.DifferInFeedback) commands others) :
    c.cycles commands = c.cycles others ∧ c.run commands = c.run others := by
  refine runs_eq_of_alike (P := fun d => d.delay.enabled = false)
    (fun d command hd => obey_delay_of_disabled hd command) ?_ hothers h
  rintro d a b hd ⟨torque, rfl⟩
  have hkept (input : CycleInput α) : (d.step input).1.delay = d.delay := by
    rw [step_delay, DelayEstimator.update_of_disabled hd, ite_self]
  have hrecord := d.step_report_actuatorDelay a
  rw [step_withFeedback, withDelay, hkept, ← hkept a, ← hrecord]

/-- **The feedback acts one cycle late.**  At the end of any run, a cycle that is told another torque
of the actuator hands out the same torque and, but for the delay, the same record; it leaves the same
state but for the delay estimate, which a cycle that reaches the PID controller takes the feedback
into; and in an idle cycle or one with a fault nothing depends on the feedback.  Where the delay is
not estimated, whole runs do not depend on it. -/
theorem feedback_lags_one_cycle {params : Params α} {capabilities : Capabilities α}
    {c₀ : Controller α} (h : create params capabilities = .ok c₀) (commands : List (Command α)) :
    (∀ input torque,
      let c := c₀.run commands
      let d := (c.step input).1
      let e := (c.step (input.withFeedback torque)).1
      e.output = d.output ∧
        e.report = { d.report with actuatorDelay := e.report.actuatorDelay } ∧
        e = { d with delay := e.delay, report := e.report } ∧
        d.delay = (if d.report.driven then c.delay.update input.actuatorTorque d.pid.control
          else c.delay) ∧
        (input.active = false ∨ d.report.modelFault = true → e = d)) ∧
    (params.estimateDelay = false → ∀ others,
      List.Forall₂ (Command.Alike CycleInput.DifferInFeedback) commands others →
        c₀.cycles commands = c₀.cycles others ∧ c₀.run commands = c₀.run others) := by
  refine ⟨fun input torque => ?_, fun hdisabled others hothers => ?_⟩
  · intro c d e
    have hlag : e = d.withDelay e.delay := c.step_withFeedback input torque
    refine ⟨?_, ?_, ?_, c.step_delay input, fun hundriven => ?_⟩
    · rw [hlag]
      rfl
    · rw [hlag]
      rfl
    · rw [hlag]
      rfl
    · refine congrArg Prod.fst (c.step_withFeedback_of_undriven input torque ?_)
      rcases hundriven with hidle | hfault
      · rw [Diagnostics.driven, step_report_active, hidle, Bool.false_and]
      · rw [Diagnostics.driven, hfault, Bool.not_true, Bool.and_false]
  · obtain ⟨-, -, rfl⟩ := create_eq_ok_iff.mp h
    exact runs_agree_of_disabled hdisabled hothers

/-- Parameters with the jerk terms on, the curvature measured from the yaw rate, and the delay of the
actuator estimated or not. -/
def farSighted (estimateDelay : Bool) : Params Float :=
  { Params.standard with
    useLateralJerk := true
    estimateDelay := estimateDelay
    tuning := { Tuning.standard with useSteeringAngle := false } }

/-- A turn along a plan. -/
def growingTurn : CycleInput Float :=
  (CycleInput.turn 20.0 0.001).withPlan (some growingPlan)

theorem create_farSighted (estimateDelay : Bool) :
    create (farSighted estimateDelay) Capabilities.standard
      = .ok (initial (farSighted estimateDelay) Capabilities.standard) :=
  create_standard (Params.validate_eq_ok_iff.mpr (by cases estimateDelay <;> decide +kernel)) rfl

/-- Feedback in the second of two turns leaves the torque as it is, and moves the jerk of the third.
With a static delay it does not matter in which of them it comes. -/
theorem feedback_lags_one_cycle_in_turn :
    (let c := (initial (farSighted true) Capabilities.standard).run [.cycle growingTurn]
      let d := (c.step growingTurn).1
      let e := (c.step (growingTurn.withFeedback (some 0.3))).1
      e.output = d.output ∧
        (d.step growingTurn).1.report.desiredJerk < (e.step growingTurn).1.report.desiredJerk) ∧
    let c := initial (farSighted false) Capabilities.standard
    c.cycles [.cycle (growingTurn.withFeedback (some 0.3)), .cycle growingTurn]
      = c.cycles [.cycle growingTurn, .cycle growingTurn] := by
  have hlag := (feedback_lags_one_cycle (create_farSighted true) [.cycle growingTurn]).1
    growingTurn (some 0.3)
  refine ⟨⟨hlag.1, by decide +kernel⟩, ?_⟩
  exact ((feedback_lags_one_cycle (create_farSighted false) _).2 rfl _
    (.cons (.cycle ⟨none, rfl⟩) (.cons (.same _) .nil))).1

end Controller

end LateralTorque
