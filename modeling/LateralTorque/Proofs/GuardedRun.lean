import LateralTorque.Proofs.Divisors
import LateralTorque.Proofs.Guarded

/-!
# Runs in guarded arithmetic

A controller with the linear law does in guarded arithmetic what it does in exact arithmetic,
command by command, as long as the divisors of every cycle are positive.  So nothing hinges on any
other quotient.

The controller was accepted, its analytic model is the linear law, and its source of tuning keeps
the factor positive.  A neural model, the curvature model and the low speed law may be any
functions: they are handed over as they are, and what they divide by is their own matter.

* `Controller.guarded` — a controller with its linear law in guarded arithmetic;
* `Controller.prepare_guarded`, `Controller.settle_guarded` — the parts of a cycle;
* `Controller.step_guarded`, `Controller.run_guarded` — a cycle and a run;
* `Controller.divisors_positive` — no run divides by zero: the divisors that `PositiveDivisors`
  names are positive, curves are interpolated on segments with a width only, and construction, run
  and cycle come to the same however other quotients go astray.
-/

set_option autoImplicit false

namespace LateralTorque

/-! ## Controllers in guarded arithmetic -/

/-- A torque model whose analytic part is the linear law in guarded arithmetic. -/
noncomputable def TorqueModel.guarded (astray : ℝ → ℝ → ℝ) : TorqueModel ℝ → TorqueModel ℝ
  | .analytic _ => .analytic (@AnalyticModel.linear ℝ (Exact.guarded astray))
  | .neural network _ => .neural network (@AnalyticModel.linear ℝ (Exact.guarded astray))

noncomputable def Capabilities.guarded (astray : ℝ → ℝ → ℝ) (k : Capabilities ℝ) :
    Capabilities ℝ :=
  { k with torqueModel := k.torqueModel.guarded astray }

noncomputable def Controller.guarded (astray : ℝ → ℝ → ℝ) (c : Controller ℝ) : Controller ℝ :=
  { c with capabilities := c.capabilities.guarded astray }

variable {astray : ℝ → ℝ → ℝ}

theorem Controller.neuralModel?_guarded (c : Controller ℝ) :
    (c.guarded astray).capabilities.torqueModel.neuralModel?
      = c.capabilities.torqueModel.neuralModel? := by
  dsimp only [Controller.guarded, Capabilities.guarded]
  cases c.capabilities.torqueModel <;> rfl

theorem Controller.analyticModel_guarded (c : Controller ℝ) :
    (c.guarded astray).capabilities.torqueModel.analyticModel
      = @AnalyticModel.linear ℝ (Exact.guarded astray) := by
  dsimp only [Controller.guarded, Capabilities.guarded]
  cases c.capabilities.torqueModel <;> rfl

/-! ## The tuning source -/

theorem KeyValueStore.requireNumber_guarded (s : KeyValueStore) (key : String) :
    @requireNumber ℝ (Exact.guarded astray) s key = s.requireNumber key := by
  have hnumber : @finiteNumber? ℝ (Exact.guarded astray) = finiteNumber? := rfl
  unfold requireNumber readNumber
  rw [hnumber]

theorem Tuning.readOverrides_guarded (store : KeyValueStore) (t : Tuning ℝ) :
    @readOverrides ℝ (Exact.guarded astray) store t = t.readOverrides store := by
  unfold readOverrides
  simp only [KeyValueStore.requireNumber_guarded]

theorem TuningSource.refresh_guarded (source : TuningSource ℝ) (tick : Nat) (t : Tuning ℝ) :
    @refresh ℝ (Exact.guarded astray) source tick t = source.refresh tick t := by
  unfold refresh
  simp only [Tuning.readOverrides_guarded]
  rfl

/-! ## Parts of a cycle -/

theorem Trajectory.ascending_guarded (times : List ℝ) :
    @ascending ℝ (Exact.guarded astray) times = ascending times := by
  induction times with
  | nil => rfl
  | cons first rest ih =>
    cases rest with
    | nil => rfl
    | cons second rest =>
      unfold ascending
      rw [ih]

theorem CycleInput.usableTrajectory_guarded (input : CycleInput ℝ) :
    @usableTrajectory ℝ (Exact.guarded astray) input = input.usableTrajectory := by
  have hgood : @Trajectory.isGood ℝ (Exact.guarded astray) = Trajectory.isGood := by
    funext t
    unfold Trajectory.isGood
    rw [Trajectory.ascending_guarded]
    rfl
  unfold usableTrajectory
  rw [hgood]

theorem GainSchedule.nonDescending_guarded (speeds : List ℝ) :
    @nonDescending ℝ (Exact.guarded astray) speeds = nonDescending speeds := by
  induction speeds with
  | nil => rfl
  | cons first rest ih =>
    cases rest with
    | nil => rfl
    | cons second rest =>
      unfold nonDescending
      rw [ih]

theorem GainSchedule.isValid_guarded (g : GainSchedule ℝ) :
    @isValid ℝ (Exact.guarded astray) g = g.isValid := by
  unfold isValid
  rw [nonDescending_guarded]
  rfl

namespace Controller

variable {c : Controller ℝ} {input : CycleInput ℝ}

theorem openCycle_guarded (c : Controller ℝ) :
    @openCycle ℝ (Exact.guarded astray) (c.guarded astray)
      = (c.openCycle.1.guarded astray, c.openCycle.2) := by
  have hrefresh : @refreshTuning ℝ (Exact.guarded astray)
        { c.guarded astray with tick := c.tick + 1 }
      = ({ c with tick := c.tick + 1 }.refreshTuning.1.guarded astray,
        { c with tick := c.tick + 1 }.refreshTuning.2) := by
    unfold refreshTuning
    dsimp only [Controller.guarded, Capabilities.guarded]
    rw [TuningSource.refresh_guarded]
    cases c.capabilities.tuningSource.refresh (c.tick + 1) c.tuning <;> rfl
  exact congrArg (fun r : Controller ℝ × List (Event ℝ) =>
    ({ r.1 with report := r.1.openRecord }, r.2)) hrefresh

theorem signals_guarded (c : Controller ℝ) (input : CycleInput ℝ) :
    @signals ℝ (Exact.guarded astray) (c.guarded astray) input = c.signals input :=
  LateralSignals.build_guarded _ _ _ _ _

section Linear

variable (hlinear : c.capabilities.torqueModel.analyticModel = .linear)

include hlinear

/-- With a positive factor the linear law gives the same torque. -/
theorem torque_guarded (hfactor : 0 < c.tuning.accelFactor) (inputs : AnalyticInputs ℝ)
    (frictionInput deadzone : ℝ) (compensate gravityAdjusted : Bool) :
    (c.guarded astray).capabilities.torqueModel.analyticModel.torque inputs
        (c.guarded astray).tuning frictionInput deadzone compensate gravityAdjusted
      = c.capabilities.torqueModel.analyticModel.torque inputs c.tuning frictionInput deadzone
        compensate gravityAdjusted := by
  rw [analyticModel_guarded, hlinear]
  exact congrArg Except.ok (linearTorque_guarded inputs hfactor frictionInput deadzone compensate)

theorem suppressesLowSpeed_guarded :
    (c.guarded astray).suppressesLowSpeed = c.suppressesLowSpeed := by
  unfold suppressesLowSpeed
  rw [neuralModel?_guarded, analyticModel_guarded, hlinear]
  rfl

theorem scheduleLowSpeed_guarded (input : CycleInput ℝ) (sig : LateralSignals ℝ) :
    @scheduleLowSpeed ℝ (Exact.guarded astray) (c.guarded astray)
        (@lowSpeedInputs ℝ (Exact.guarded astray) (c.guarded astray) input sig)
      = c.scheduleLowSpeed (c.lowSpeedInputs input sig) := by
  unfold lowSpeedInputs
  rw [suppressesLowSpeed_guarded hlinear]
  rfl

theorem analyticTorques_guarded (hfactor : 0 < c.tuning.accelFactor) (input : CycleInput ℝ)
    (sig : LateralSignals ℝ) (jerk : JerkEstimate ℝ) (setpoint measurement : ℝ) :
    @analyticTorques ℝ (Exact.guarded astray) (c.guarded astray) input sig jerk setpoint measurement
      = c.analyticTorques input sig jerk setpoint measurement := by
  have herror : @analyticError ℝ (Exact.guarded astray) (c.guarded astray) input sig jerk setpoint
      measurement = c.analyticError input sig jerk setpoint measurement := by
    unfold analyticError
    dsimp only
    rw [torque_guarded hlinear hfactor, torque_guarded hlinear hfactor]
    rfl
  have hforward (frictionInput : ℝ) : @analyticFeedforward ℝ (Exact.guarded astray)
      (c.guarded astray) input sig frictionInput
        = c.analyticFeedforward input sig frictionInput := by
    unfold analyticFeedforward
    rw [torque_guarded hlinear hfactor]
  unfold analyticTorques
  rw [herror]
  simp only [hforward]
  rfl

theorem neuralTorques_guarded (hfactor : 0 < c.tuning.accelFactor) (network : NeuralModel ℝ)
    (input : CycleInput ℝ) (sig : LateralSignals ℝ) (frictionInput : ℝ) (features : Features ℝ) :
    @neuralTorques ℝ (Exact.guarded astray) (c.guarded astray) network input sig frictionInput
        features
      = c.neuralTorques network input sig frictionInput features := by
  have hoverride : @overrideTorque ℝ (Exact.guarded astray) (c.guarded astray) network input sig
      frictionInput = c.overrideTorque network input sig frictionInput := by
    unfold overrideTorque
    rw [torque_guarded hlinear hfactor]
    rfl
  unfold neuralTorques
  rw [hoverride]

end Linear

theorem lookAhead_guarded (hdelay : 0 < c.delay.delay + jerkTimeMargin) (input : CycleInput ℝ)
    (sig : LateralSignals ℝ) :
    @lookAhead ℝ (Exact.guarded astray) (c.guarded astray) input sig = c.lookAhead input sig := by
  unfold lookAhead
  rw [CycleInput.usableTrajectory_guarded]
  cases hplan : input.usableTrajectory with
  | none => rfl
  | some t =>
    have hgood := CycleInput.isGood_of_usableTrajectory hplan
    simp only [neuralModel?_guarded]
    exact congrArg (ite _ · _) (JerkEstimate.ofTrajectory_guarded hgood _ _ _ hdelay _ _ _)

theorem modelTorques_guarded (hlinear : c.capabilities.torqueModel.analyticModel = .linear)
    (hfactor : 0 < c.tuning.accelFactor) (input : CycleInput ℝ) (sig : LateralSignals ℝ)
    (jerk : JerkEstimate ℝ) (setpoint measurement : ℝ) :
    @modelTorques ℝ (Exact.guarded astray) (c.guarded astray) input sig jerk setpoint measurement
      = c.modelTorques input sig jerk setpoint measurement := by
  unfold modelTorques
  rw [CycleInput.usableTrajectory_guarded, neuralModel?_guarded,
    analyticTorques_guarded hlinear hfactor]
  cases input.usableTrajectory with
  | none => rfl
  | some t =>
    cases c.capabilities.torqueModel.neuralModel? with
    | none => rfl
    | some network =>
      have hfeatures : @featureInputs ℝ (Exact.guarded astray) (c.guarded astray) network input sig
          jerk setpoint measurement
            = c.featureInputs network input sig jerk setpoint measurement := rfl
      dsimp only
      rw [hfeatures, FeatureContext.assemble_guarded, neuralTorques_guarded hlinear hfactor]
      rfl

/-- Up to the torque model a cycle divides by positive numbers only. -/
theorem prepare_guarded (hlinear : c.capabilities.torqueModel.analyticModel = .linear)
    (h : c.PositiveDivisors input) :
    @prepare ℝ (Exact.guarded astray) (c.guarded astray) input
      = ((c.prepare input).1.guarded astray, (c.prepare input).2) := by
  unfold prepare
  dsimp only
  rw [signals_guarded, scheduleLowSpeed_guarded hlinear, lookAhead_guarded h.jerkTime.2,
    modelTorques_guarded hlinear h.accelFactor]
  rfl

theorem drive_guarded (hperiod : 0 < c.pid.period) (input : CycleInput ℝ)
    (torques : ModelTorques ℝ) :
    @drive ℝ (Exact.guarded astray) (c.guarded astray) input torques
      = ((c.drive input torques).1.guarded astray, (c.drive input torques).2) := by
  have hpid : @Pid.update ℝ (Exact.guarded astray) (c.guarded astray).pid torques.error
      torques.feedforward input.vehicle.speed
      (@CycleInput.freezesIntegrator ℝ (Exact.guarded astray) input)
      = c.pid.update torques.error torques.feedforward input.vehicle.speed
        input.freezesIntegrator := Pid.update_guarded hperiod _ _ _ _
  have hreport : @DelayEstimator.report? ℝ (Exact.guarded astray) = DelayEstimator.report? := by
    funext e realised commanded tick
    unfold DelayEstimator.report?
    rw [DelayEstimator.update_guarded]
    rfl
  unfold drive
  dsimp only
  rw [hpid, hreport, DelayEstimator.update_guarded]
  rfl

theorem settle_guarded (hperiod : 0 < c.pid.period) (input : CycleInput ℝ)
    (result : Except ModelError (ModelTorques ℝ)) :
    @settle ℝ (Exact.guarded astray) (c.guarded astray) input result
      = ((c.settle input result).1.guarded astray, (c.settle input result).2) := by
  cases result with
  | error cause => rfl
  | ok torques =>
    have hfinite : @ModelTorques.areFinite ℝ (Exact.guarded astray) torques = torques.areFinite :=
      rfl
    unfold settle
    dsimp only
    rw [hfinite, drive_guarded hperiod]
    cases torques.areFinite <;> rfl

theorem stepActive_guarded (hlinear : c.capabilities.torqueModel.analyticModel = .linear)
    (h : c.PositiveDivisors input) :
    @stepActive ℝ (Exact.guarded astray) (c.guarded astray) input
      = ((c.stepActive input).1.guarded astray, (c.stepActive input).2) := by
  have hperiod : 0 < (c.prepare input).1.pid.period := h.period.2.1
  unfold stepActive
  rw [prepare_guarded hlinear h]
  dsimp only
  rw [settle_guarded hperiod]

/-! ## Runs -/

/-- **A cycle divides by positive numbers only.** -/
theorem step_guarded (hlinear : c.capabilities.torqueModel.analyticModel = .linear)
    (h : c.openCycle.1.PositiveDivisors input) :
    @step ℝ (Exact.guarded astray) (c.guarded astray) input
      = ((c.step input).1.guarded astray, (c.step input).2) := by
  have hopened : c.openCycle.1.capabilities.torqueModel.analyticModel = .linear := by
    rw [openCycle_capabilities, hlinear]
  unfold step
  rw [openCycle_guarded]
  dsimp only
  rw [stepActive_guarded hopened h]
  cases input.active <;> rfl

theorem obey_guarded (hlinear : c.capabilities.torqueModel.analyticModel = .linear)
    (h : c.Divisible) (command : Command ℝ) :
    @obey ℝ (Exact.guarded astray) (c.guarded astray) command
      = (c.obey command).guarded astray := by
  cases command with
  | cycle input => exact congrArg Prod.fst (step_guarded hlinear (h.positiveDivisors input))
  | reset =>
    have hcontext : @FeatureContext.reset ℝ (Exact.guarded astray) c.context = c.context.reset :=
      FeatureContext.create_guarded h.context.period
    unfold obey reset
    dsimp only [Controller.guarded]
    rw [hcontext]
    rfl
  | retune factor offset friction =>
    have hretuned :=
      @obey_retune_eq ℝ (Exact.guarded astray) (c.guarded astray) factor offset friction
    have hsame := c.obey_retune_eq factor offset friction
    exact hretuned.trans (congrArg (Controller.guarded astray) hsame.symm)
  | supply source => rfl

/-- No run divides by a number that is not positive. -/
theorem run_guarded (hlinear : c.capabilities.torqueModel.analyticModel = .linear)
    (h : c.Divisible) {commands : List (Command ℝ)}
    (hsupply : ∀ source, .supply source ∈ commands → source.KeepsPositive) :
    @run ℝ (Exact.guarded astray) (c.guarded astray) commands
      = (c.run commands).guarded astray := by
  induction commands generalizing c with
  | nil => rfl
  | cons command rest ih =>
    have hnext : (c.obey command).Divisible :=
      h.obey fun source heq => hsupply source (heq ▸ List.mem_cons_self)
    have hmodel : (c.obey command).capabilities.torqueModel.analyticModel = .linear := by
      rw [obey_torqueModel, hlinear]
    -- The first command leaves the same controller in both arithmetics, and one that can divide.
    refine (congrArg (fun d => @run ℝ (Exact.guarded astray) d rest)
      (obey_guarded hlinear h command)).trans ?_
    exact ih hmodel hnext fun source hmem => hsupply source (List.mem_cons_of_mem _ hmem)

theorem create_guarded {params : Params ℝ} {capabilities : Capabilities ℝ} {c₀ : Controller ℝ}
    (h : create params capabilities = .ok c₀) :
    @create ℝ (Exact.guarded astray) params (capabilities.guarded astray)
      = .ok (c₀.guarded astray) := by
  obtain ⟨hvalid, hsize, rfl⟩ := create_eq_ok_iff.mp h
  obtain ⟨hmax, hrate, hdelay, hfactor, hschedules⟩ := Params.validate_eq_ok_iff.mp hvalid
  refine (@create_eq_ok_iff ℝ (Exact.guarded astray) _ _ _).mpr ⟨?_, ?_, ?_⟩
  · refine (@Params.validate_eq_ok_iff ℝ (Exact.guarded astray) _).mpr
      ⟨hmax, hrate, hdelay, hfactor, fun named hmem => ?_⟩
    rw [GainSchedule.isValid_guarded]
    exact hschedules named hmem
  · intro network hnetwork
    exact hsize network ((initial params capabilities).neuralModel?_guarded ▸ hnetwork)
  · rw [initial_guarded hrate]
    rfl

/-- **No division by zero.**  For a controller that was accepted, with the linear law as its analytic
model, after any run and for any input: the divisors of the next cycle are positive; a curve is
interpolated only on segments that have a width; and construction, run and cycle come to the same in
guarded arithmetic, however quotients by other numbers go astray, so that nothing hinges on one.
Fixed tuning and stores with any contents will do, and a source of the host's own as long as it keeps
the factor positive. -/
theorem divisors_positive {params : Params ℝ} {capabilities : Capabilities ℝ} {c₀ : Controller ℝ}
    (h : create params capabilities = .ok c₀)
    (hlinear : capabilities.torqueModel.analyticModel = .linear)
    (hsource : capabilities.tuningSource.KeepsPositive) {commands : List (Command ℝ)}
    (hsupply : ∀ source, .supply source ∈ commands → source.KeepsPositive) :
    (∀ input, (c₀.run commands).openCycle.1.PositiveDivisors input) ∧
    (∀ (x : ℝ) breakpoints values, interp x breakpoints values ∈ 0 :: values ∨
      ∃ p q, [p, q] <:+: breakpoints.zip values ∧ 0 < q.1 - p.1 ∧
        interp x breakpoints values = linearMap p.1 q.1 p.2 q.2 x) ∧
    ∀ astray,
      @create ℝ (Exact.guarded astray) params (capabilities.guarded astray)
        = .ok (c₀.guarded astray) ∧
      @run ℝ (Exact.guarded astray) (c₀.guarded astray) commands
        = (c₀.run commands).guarded astray ∧
      ∀ input, @step ℝ (Exact.guarded astray) ((c₀.run commands).guarded astray) input
        = (((c₀.run commands).step input).1.guarded astray, ((c₀.run commands).step input).2) := by
  have hstart : c₀.Divisible := divisible_of_create h hsource
  have hend : (c₀.run commands).Divisible := hstart.run hsupply
  have hmodel : c₀.capabilities.torqueModel.analyticModel = .linear := by
    obtain ⟨-, -, rfl⟩ := create_eq_ok_iff.mp h
    exact hlinear
  refine ⟨hend.positiveDivisors, fun x breakpoints values => ?_, fun astray => ?_⟩
  · rcases Exact.interp_cases x breakpoints values with hvalue | ⟨p, q, hsegment, hp, hq, heq⟩
    · exact .inl hvalue
    · exact .inr ⟨p, q, hsegment, sub_pos.mpr (hp.trans_le hq), heq⟩
  · refine ⟨create_guarded h, run_guarded hmodel hstart hsupply, fun input => ?_⟩
    exact step_guarded ((c₀.run_torqueModel commands).symm ▸ hmodel) (hend.positiveDivisors input)

/-- Parameters with the jerk terms on and the delay of the actuator estimated. -/
noncomputable def lookingAhead : Params ℝ :=
  { Params.standard with useLateralJerk := true, estimateDelay := true }

/-- Overrides, a live estimate and a reset between two turns leave the divisors positive. -/
theorem divisors_positive_over_overrides :
    let capabilities : Capabilities ℝ :=
      { Capabilities.standard with tuningSource := .keyed (.ofList []) }
    let commands : List (Command ℝ) :=
      [.cycle (.turn 20 0.001), .supply (.keyed (overrideStore "300" "12")), .retune 3 0 0.1, .reset]
    let c := (initial lookingAhead capabilities).run commands
    create lookingAhead capabilities = .ok (initial lookingAhead capabilities) ∧
      (∀ source, .supply source ∈ commands → source.KeepsPositive) ∧
      0 < c.openCycle.1.tuning.accelFactor ∧ 0 < c.openCycle.1.delay.delay + jerkTimeMargin := by
  intro capabilities commands c
  have hcreate : create lookingAhead capabilities = .ok (initial lookingAhead capabilities) :=
    create_standard Params.validate_standard_exact rfl
  have hsupply : ∀ source, .supply source ∈ commands → source.KeepsPositive := by
    intro source hmem
    simp only [commands, List.mem_cons, reduceCtorEq, Command.supply.injEq, List.not_mem_nil,
      or_false, false_or] at hmem
    rw [hmem]
    trivial
  have hpositive := (divisors_positive hcreate rfl trivial hsupply).1 (.turn 20 0.001)
  exact ⟨hcreate, hsupply, hpositive.accelFactor, hpositive.jerkTime.2⟩

end Controller

end LateralTorque
