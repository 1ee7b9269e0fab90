import Mathlib
import LateralTorque.Proofs.Mirror
import LateralTorque.Proofs.Recording
import LateralTorque.Proofs.Run

/-!
# Runs in the mirror

The memory of a controller has a mirror image too: what it remembers of the past with a sign changes
it, and counters, factors and delays stay.  In exact arithmetic a controller whose vehicle and
models do not tell left from right takes the mirror image of a run to the mirror image of its
outcome.

The commands may be any cycles, resets, live estimates and changes of the source of tuning, of which
only the cycles have sides.  Faults, idle cycles and cycles without a plan are among them.

* `Symmetric` — vehicles and models that do not tell left from right, `symmetric_standard` those of
  a single track vehicle with a table of low speed factors and the linear law;
* `step_mirror`, `cycles_mirror` — one cycle, and every cycle of a run, for all such vehicles;
* `cycles_mirror_of_create` — the torques and records of a run from the start, feature vectors and
  terms of the PID controller included.

Of a neural model it has to be assumed that it is odd; that a trained one is so is not to be
expected of its weights.
-/

set_option autoImplicit false

namespace LateralTorque

/-! ## Vehicles and models that do not tell left from right -/

noncomputable def LowSpeedInputs.mirror (inputs : LowSpeedInputs ℝ) : LowSpeedInputs ℝ :=
  { inputs with
    desiredAccel := -inputs.desiredAccel
    actualAccel := -inputs.actualAccel
    actualJerk := -inputs.actualJerk }

/-- What a controller must be given to work the same to the left and to the right. -/
structure Capabilities.Symmetric (capabilities : Capabilities ℝ) : Prop where
  curvature : CurvatureModel.Odd capabilities.curvatureModel
  lowSpeed : ∀ tuning inputs,
    capabilities.lowSpeedLaw tuning inputs.mirror = capabilities.lowSpeedLaw tuning inputs
  analytic : capabilities.torqueModel.analyticModel.Odd
  neural : ∀ network, capabilities.torqueModel.neuralModel? = some network → network.Odd

theorem symmetric_standard {capabilities : Capabilities ℝ} {vehicle : BicycleModel ℝ}
    {table : LowSpeedTable ℝ} (hvehicle : capabilities.curvatureModel = vehicle.curvature)
    (htable : capabilities.lowSpeedLaw = table.law)
    (hlinear : capabilities.torqueModel.analyticModel = .linear)
    (hneural : ∀ network, capabilities.torqueModel.neuralModel? = some network → network.Odd) :
    capabilities.Symmetric := by
  refine ⟨?_, ?_, ?_, hneural⟩
  · rw [hvehicle]
    exact Exact.curvature_neg vehicle
  · rw [htable]
    exact fun _ _ => rfl
  · rw [hlinear]
    exact linear_odd

/-! ## Records -/

/-- Recorded vectors of features in the mirror: the speed stands at the start of each. -/
noncomputable def mirrorRecord (values : List ℝ) : List ℝ :=
  values.mapIdx fun index value => if index % featureCount = 0 then value else -value

theorem mirrorRecord_nil : mirrorRecord [] = [] := rfl

theorem mirrorRecord_append {vector rest : List ℝ} (h : vector.length = featureCount) :
    mirrorRecord (vector ++ rest) = mirrorVector vector ++ mirrorRecord rest := by
  unfold mirrorRecord
  rw [List.mapIdx_append, h]
  congr 1
  · cases vector with
    | nil => rfl
    | cons speed tail =>
      have htail : tail.length + 1 = featureCount := h
      rw [List.mapIdx_cons, mirrorVector]
      congr 1
      refine List.ext_getElem (by simp) fun index hindex _ => ?_
      have hinside : ¬ (index + 1) % featureCount = 0 := by
        rw [List.length_mapIdx] at hindex
        rw [Nat.mod_eq_of_lt (by omega)]
        omega
      simp [hinside]
  · simp only [Nat.add_mod_right]

theorem Features.Full.toList_mirror {f : Features ℝ} (h : f.Full) :
    f.mirror.toList = mirrorRecord f.toList := by
  have hlist : f.toList = f.feedforward ++ (f.setpoint ++ (f.measurement ++ [])) := by
    simp [Features.toList]
  rw [hlist, mirrorRecord_append h.feedforward, mirrorRecord_append h.setpoint,
    mirrorRecord_append h.measurement, mirrorRecord_nil]
  simp [Features.toList, Features.mirror]

theorem NeuralModel.Odd.evaluate_mirrorVector {network : NeuralModel ℝ} (h : network.Odd)
    {vector : List ℝ} (hfull : vector.length = featureCount) :
    network.evaluate (mirrorVector vector) = (network.evaluate vector).map (- ·) := by
  cases vector with
  | nil => cases hfull
  | cons speed rest => exact h speed rest

noncomputable def Diagnostics.mirror (r : Diagnostics ℝ) : Diagnostics ℝ :=
  { r with
    p := -r.p
    i := -r.i
    d := -r.d
    f := -r.f
    error := -r.error
    output := -r.output
    actualAccel := -r.actualAccel
    desiredAccel := -r.desiredAccel
    desiredJerk := -r.desiredJerk
    lookaheadJerk := -r.lookaheadJerk
    frictionInput := -r.frictionInput
    features := r.features.map mirrorRecord }

noncomputable def ModelTorques.mirror (t : ModelTorques ℝ) : ModelTorques ℝ where
  error := -t.error
  feedforward := -t.feedforward
  frictionInput := -t.frictionInput
  features := t.features.map mirrorRecord

namespace Controller

/-- A controller in the mirror.  Only its memory has sides; parameters and models are the same. -/
noncomputable def mirror (c : Controller ℝ) : Controller ℝ :=
  { c with
    pid := c.pid.mirror
    context := c.context.mirror
    output := -c.output
    report := c.report.mirror }

theorem initial_mirror (params : Params ℝ) (capabilities : Capabilities ℝ) :
    (initial params capabilities).mirror = initial params capabilities := by
  simp [initial, mirror, Pid.create, Pid.mirror, LowPass.create, LowPass.mirror,
    FeatureContext.create_mirror, Diagnostics.initial, Diagnostics.mirror]

/-! ## The parts of a cycle -/

theorem openCycle_mirror (c : Controller ℝ) : c.mirror.openCycle.1 = c.openCycle.1.mirror := by
  rw [openCycle_eq, openCycle_eq]
  simp [mirror, nextTuning, openRecord, Diagnostics.initial, Diagnostics.mirror]

theorem signals_mirror {c : Controller ℝ} (h : c.capabilities.Symmetric) (input : CycleInput ℝ) :
    c.mirror.signals input.mirror = (c.signals input).mirror :=
  LateralSignals.build_mirror _ _ _ _ h.curvature

theorem scheduleLowSpeed_mirror {c : Controller ℝ} (h : c.capabilities.Symmetric)
    (input : CycleInput ℝ) (sig : LateralSignals ℝ) :
    (c.mirror.scheduleLowSpeed (c.mirror.lowSpeedInputs input.mirror sig.mirror)).1
      = (c.scheduleLowSpeed (c.lowSpeedInputs input sig)).1 := by
  have hlaw := h.lowSpeed c.tuning
    { c.lowSpeedInputs input sig with previousFactor := c.lowSpeed.lastFactor }
  show c.lowSpeed.update c.capabilities.lowSpeedLaw c.tuning (c.lowSpeedInputs input sig).mirror
    = c.lowSpeed.update c.capabilities.lowSpeedLaw c.tuning (c.lowSpeedInputs input sig)
  unfold LowSpeedScheduler.update LowSpeedScheduler.demand
  exact congrArg
    (fun factor => (⟨if Scalar.isFinite factor then factor else 0⟩ : LowSpeedScheduler ℝ)) hlaw

theorem lookAhead_mirror (c : Controller ℝ) (input : CycleInput ℝ) (sig : LateralSignals ℝ) :
    c.mirror.lookAhead input.mirror sig.mirror = (c.lookAhead input sig).mirror := by
  unfold lookAhead
  rw [usableTrajectory_mirror]
  cases input.usableTrajectory with
  | none => exact (JerkEstimate.none_mirror _).symm
  | some t =>
    by_cases huse : (c.capabilities.torqueModel.neuralModel?.isSome || c.params.useLateralJerk)
    · simp only [mirror, Option.map_some, huse, if_true]
      exact JerkEstimate.ofTrajectory_mirror _ _ _ _ _ _ _ _
    · simp only [mirror, Option.map_some, huse]
      exact (JerkEstimate.none_mirror _).symm

/-! ## Torques -/

theorem sub_neg_results (a b : Except ModelError ℝ) :
    (do return (← a.map (- ·)) - (← b.map (- ·)))
      = (do return (← a) - (← b) : Except ModelError ℝ).map (- ·) := by
  cases a with
  | error cause => rfl
  | ok x =>
    cases b with
    | error cause => rfl
    | ok y => exact congrArg Except.ok (by ring)

theorem analyticInputs_mirror (input : CycleInput ℝ) (sig : LateralSignals ℝ) (accel : ℝ) :
    analyticInputs input.mirror sig.mirror (-accel) = (analyticInputs input sig accel).mirror := rfl

theorem analyticError_mirror {c : Controller ℝ} (h : c.capabilities.Symmetric)
    (input : CycleInput ℝ) (sig : LateralSignals ℝ) (jerk : JerkEstimate ℝ)
    (setpoint measurement : ℝ) :
    c.mirror.analyticError input.mirror sig.mirror jerk.mirror (-setpoint) (-measurement)
      = (c.analyticError input sig jerk setpoint measurement).map (- ·) := by
  have hset := h.analytic (analyticInputs input sig setpoint) c.tuning jerk.setpoint
    sig.accelDeadzone c.params.useLateralJerk false
  have hmeasured := h.analytic (analyticInputs input sig measurement) c.tuning jerk.measurement
    sig.accelDeadzone c.params.useLateralJerk false
  unfold analyticError
  simp only [analyticInputs_mirror]
  simp only [mirror, LateralSignals.mirror, JerkEstimate.mirror, hset, hmeasured]
  exact sub_neg_results _ _

theorem analyticFrictionInput_mirror (c : Controller ℝ) (sig : LateralSignals ℝ)
    (jerk : JerkEstimate ℝ) :
    c.mirror.analyticFrictionInput sig.mirror jerk.mirror
      = -c.analyticFrictionInput sig jerk := by
  unfold analyticFrictionInput
  cases hjerk : c.params.useLateralJerk <;>
    simp only [mirror, LateralSignals.mirror, JerkEstimate.mirror, hjerk, if_true,
      Bool.false_eq_true, if_false] <;> ring

theorem analyticFeedforward_mirror {c : Controller ℝ} (h : c.capabilities.Symmetric)
    (input : CycleInput ℝ) (sig : LateralSignals ℝ) (frictionInput : ℝ) :
    c.mirror.analyticFeedforward input.mirror sig.mirror (-frictionInput)
      = (c.analyticFeedforward input sig frictionInput).map (- ·) := by
  have haccel : sig.mirror.desiredAccel - sig.mirror.rollCompensation
      = -(sig.desiredAccel - sig.rollCompensation) := by
    simp only [LateralSignals.mirror]
    ring
  unfold analyticFeedforward
  rw [haccel, analyticInputs_mirror]
  exact h.analytic _ _ _ _ _ _

theorem analyticTorques_mirror {c : Controller ℝ} (h : c.capabilities.Symmetric)
    (input : CycleInput ℝ) (sig : LateralSignals ℝ) (jerk : JerkEstimate ℝ)
    (setpoint measurement : ℝ) :
    c.mirror.analyticTorques input.mirror sig.mirror jerk.mirror (-setpoint) (-measurement)
      = (c.analyticTorques input sig jerk setpoint measurement).map ModelTorques.mirror := by
  unfold analyticTorques
  simp only [analyticError_mirror h, analyticFrictionInput_mirror, analyticFeedforward_mirror h]
  cases c.analyticError input sig jerk setpoint measurement with
  | error cause => rfl
  | ok error =>
    cases c.analyticFeedforward input sig (c.analyticFrictionInput sig jerk) <;> rfl

theorem featureInputs_mirror (c : Controller ℝ) (network : NeuralModel ℝ) (input : CycleInput ℝ)
    (sig : LateralSignals ℝ) (jerk : JerkEstimate ℝ) (setpoint measurement : ℝ) :
    c.mirror.featureInputs network input.mirror sig.mirror jerk.mirror (-setpoint) (-measurement)
      = (c.featureInputs network input sig jerk setpoint measurement).mirror := by
  have hfriction : ∀ factor weight error lookahead scale : ℝ,
      (factor * -error + weight * -lookahead) * scale
        = -((factor * error + weight * lookahead) * scale) := by
    intro factor weight error lookahead scale
    ring
  have herror : -setpoint - -measurement = -(setpoint - measurement) := by ring
  unfold featureInputs
  simp only [FeatureInputs.mirror, JerkEstimate.mirror, herror, hfriction]
  rfl

theorem overrideTorque_mirror {c : Controller ℝ} (h : c.capabilities.Symmetric)
    (network : NeuralModel ℝ) (input : CycleInput ℝ) (sig : LateralSignals ℝ)
    (frictionInput : ℝ) :
    c.mirror.overrideTorque network input.mirror sig.mirror (-frictionInput)
      = (c.overrideTorque network input sig frictionInput).map (Option.map (- ·)) := by
  have hlevel : ∀ speed accel : ℝ,
      (⟨0, 0, speed, accel⟩ : AnalyticInputs ℝ).mirror = ⟨0, 0, speed, accel⟩ := by
    intro speed accel
    simp [AnalyticInputs.mirror]
  have hodd := h.analytic ⟨0, 0, input.vehicle.speed, input.vehicle.longitudinalAccel⟩ c.tuning
    frictionInput sig.accelDeadzone true false
  rw [hlevel] at hodd
  unfold overrideTorque
  by_cases hoverride : network.frictionOverride || c.tuning.overridden
  · simp only [mirror, hoverride, if_true]
    refine (congrArg (Except.map some) hodd).trans ?_
    cases c.capabilities.torqueModel.analyticModel.torque _ c.tuning frictionInput
      sig.accelDeadzone true false <;> rfl
  · simp only [mirror, hoverride]
    rfl

theorem neuralTorques_mirror {c : Controller ℝ} (h : c.capabilities.Symmetric)
    {network : NeuralModel ℝ} (hodd : network.Odd) (input : CycleInput ℝ) (sig : LateralSignals ℝ)
    (frictionInput : ℝ) {features : Features ℝ} (hfull : features.Full) :
    c.mirror.neuralTorques network input.mirror sig.mirror (-frictionInput) features.mirror
      = (c.neuralTorques network input sig frictionInput features).map ModelTorques.mirror := by
  have hset := hodd.evaluate_mirrorVector hfull.setpoint
  have hmeasured := hodd.evaluate_mirrorVector hfull.measurement
  have hforward := hodd.evaluate_mirrorVector hfull.feedforward
  unfold neuralTorques
  rw [overrideTorque_mirror h, hfull.toList_mirror]
  simp only [Features.mirror, hset, hmeasured, hforward]
  cases network.evaluate features.setpoint with
  | error cause => rfl
  | ok fromSetpoint =>
  cases network.evaluate features.measurement with
  | error cause => rfl
  | ok fromMeasurement =>
  cases network.evaluate features.feedforward with
  | error cause => rfl
  | ok feedforward =>
  cases c.overrideTorque network input sig frictionInput with
  | error cause => rfl
  | ok friction =>
    refine congrArg Except.ok ?_
    cases friction <;>
      simp only [ModelTorques.mirror, Option.map_none, Option.map_some, ModelTorques.mk.injEq,
        and_true] <;> ring

/-- What the torque model makes of a cycle in the mirror, with the histories after it. -/
theorem modelTorques_mirror {c : Controller ℝ} (h : c.capabilities.Symmetric)
    (input : CycleInput ℝ) (sig : LateralSignals ℝ) (jerk : JerkEstimate ℝ)
    (setpoint measurement : ℝ) :
    c.mirror.modelTorques input.mirror sig.mirror jerk.mirror (-setpoint) (-measurement) =
      let (result, context, usedNeural) := c.modelTorques input sig jerk setpoint measurement
      (result.map ModelTorques.mirror, context.mirror, usedNeural) := by
  unfold modelTorques
  rw [usableTrajectory_mirror]
  cases input.usableTrajectory with
  | none =>
    simp only [Option.map_none, analyticTorques_mirror h]
    rfl
  | some t =>
    cases hnetwork : c.capabilities.torqueModel.neuralModel? with
    | none =>
      have hmirror : c.mirror.capabilities.torqueModel.neuralModel? = none := hnetwork
      simp only [Option.map_some, hmirror, analyticTorques_mirror h]
      rfl
    | some network =>
      have hmirror : c.mirror.capabilities.torqueModel.neuralModel? = some network := hnetwork
      have hcontext : c.mirror.context = c.context.mirror := rfl
      simp only [Option.map_some, hmirror, featureInputs_mirror, hcontext,
        FeatureContext.assemble_mirror]
      have hfull : ∀ inputs, (c.context.assemble inputs t).2.Full :=
        fun inputs => FeatureContext.features_full _ _ _
      rw [← neuralTorques_mirror h (h.neural network hnetwork) input sig _ (hfull _)]
      rfl

/-- An active cycle in the mirror, up to the torque model. -/
theorem prepare_mirror {c : Controller ℝ} (h : c.capabilities.Symmetric) (input : CycleInput ℝ) :
    (c.mirror.prepare input.mirror).1 = (c.prepare input).1.mirror ∧
      (c.mirror.prepare input.mirror).2.1 = (c.prepare input).2.1.map ModelTorques.mirror := by
  have hlowSpeed : c.mirror.nextLowSpeed input.mirror = c.nextLowSpeed input := by
    unfold nextLowSpeed
    rw [signals_mirror h, scheduleLowSpeed_mirror h]
  have hset : ∀ a factor b : ℝ, -a + factor * -b = -(a + factor * b) := by
    intro a factor b
    ring
  have houtcome : c.mirror.outcome input.mirror = ((c.outcome input).1.map ModelTorques.mirror,
      (c.outcome input).2.1.mirror, (c.outcome input).2.2) := by
    unfold outcome
    dsimp only
    rw [signals_mirror h, lookAhead_mirror, hlowSpeed]
    simp only [LateralSignals.mirror, CycleInput.mirror, DesiredMotion.mirror, hset]
    exact modelTorques_mirror h _ _ _ _ _
  rw [prepare_eq, prepare_eq, prepare_result, prepare_result, houtcome, hlowSpeed,
    signals_mirror h, lookAhead_mirror]
  exact ⟨rfl, rfl⟩

/-! ## The end of a cycle -/

theorem hold_mirror (c : Controller ℝ) : c.mirror.hold = c.hold.mirror := by
  simp [hold, mirror, Diagnostics.mirror, Pid.mirror, isSaturated_neg]

/-- What holds of every controller in use: nothing that it is given tells left from right, and the
limits of its output lie opposite each other. -/
structure Balanced (c : Controller ℝ) : Prop where
  capabilities : c.capabilities.Symmetric
  lower : c.pid.lowerLimit = -c.pid.upperLimit
  upper : 0 ≤ c.pid.upperLimit

theorem drive_mirror {c : Controller ℝ} (h : Balanced c) (input : CycleInput ℝ)
    (torques : ModelTorques ℝ) :
    (c.mirror.drive input.mirror torques.mirror).1 = (c.drive input torques).1.mirror := by
  have hpid : c.mirror.pid.update torques.mirror.error torques.mirror.feedforward
        input.mirror.vehicle.speed input.mirror.freezesIntegrator
      = (c.pid.update torques.error torques.feedforward input.vehicle.speed
        input.freezesIntegrator).mirror :=
    c.pid.update_mirror h.lower h.upper _ _ _ _
  unfold drive
  dsimp only
  rw [hpid]
  generalize c.pid.update torques.error torques.feedforward input.vehicle.speed
    input.freezesIntegrator = pid
  have hdelay : c.mirror.delay.update input.mirror.actuatorTorque pid.mirror.control
      = c.delay.update input.actuatorTorque pid.control := c.delay.update_neg _ _
  have hsaturated : isSaturated pid.mirror.control c.mirror.params.steerMax
      = isSaturated pid.control c.params.steerMax := isSaturated_neg _ _
  rw [hdelay, hsaturated]
  rfl

theorem settle_mirror {c : Controller ℝ} (h : Balanced c) (input : CycleInput ℝ)
    (result : Except ModelError (ModelTorques ℝ)) :
    (c.mirror.settle input.mirror (result.map ModelTorques.mirror)).1
      = (c.settle input result).1.mirror := by
  cases result with
  | error cause => exact c.hold_mirror
  | ok torques => exact drive_mirror h input torques

theorem balanced_prepare {c : Controller ℝ} (h : Balanced c) (input : CycleInput ℝ) :
    Balanced (c.openCycle.1.prepare input).1 :=
  ⟨by simpa [prepare_eq] using h.capabilities, by simpa using h.lower, by simpa using h.upper⟩

/-- **One cycle in the mirror** leaves the mirror image of what the cycle leaves. -/
theorem step_mirror {c : Controller ℝ} (h : Balanced c) (input : CycleInput ℝ) :
    (c.mirror.step input.mirror).1 = (c.step input).1.mirror := by
  cases hactive : input.active with
  | false =>
    have hidle : input.mirror.active = false := hactive
    rw [step_of_idle _ hactive, step_of_idle _ hidle, openCycle_mirror]
    simp [mirror]
  | true =>
    have hengaged : input.mirror.active = true := hactive
    have hopen : c.openCycle.1.capabilities.Symmetric := by simpa using h.capabilities
    obtain ⟨hprepared, hresult⟩ := prepare_mirror hopen input
    rw [step_of_active _ hactive, step_of_active _ hengaged, openCycle_mirror, hprepared, hresult]
    exact settle_mirror (balanced_prepare h input) input _

/-! ## Runs -/

theorem balanced_step {c : Controller ℝ} (h : Balanced c) (input : CycleInput ℝ) :
    Balanced (c.step input).1 := by
  have hready := balanced_prepare h input
  rcases c.step_cases input with ⟨_, hs⟩ | ⟨_, _, hs⟩ | ⟨_, torques, _, _, hs⟩ <;> rw [hs]
  · exact ⟨hready.capabilities, hready.lower, hready.upper⟩
  · exact ⟨hready.capabilities, hready.lower, hready.upper⟩
  · exact ⟨hready.capabilities, hready.lower, hready.upper⟩

theorem balanced_obey {c : Controller ℝ} (h : Balanced c) (command : Command ℝ) :
    Balanced (c.obey command) := by
  cases command with
  | cycle input => exact balanced_step h input
  | reset => exact ⟨h.capabilities, h.lower, h.upper⟩
  | retune factor offset friction =>
    obtain ⟨tuning, hr⟩ := c.obey_retune factor offset friction
    rw [hr]
    exact ⟨h.capabilities, h.lower, h.upper⟩
  | supply source =>
    exact ⟨⟨h.capabilities.curvature, h.capabilities.lowSpeed, h.capabilities.analytic,
      h.capabilities.neural⟩, h.lower, h.upper⟩

end Controller

/-- A command in the mirror: what is not a cycle has no sides. -/
noncomputable def Command.mirror : Command ℝ → Command ℝ
  | .cycle input => .cycle input.mirror
  | .reset => .reset
  | .retune factor offset friction => .retune factor offset friction
  | .supply source => .supply source

namespace Controller

theorem reset_mirror (c : Controller ℝ) : c.mirror.reset = c.reset.mirror := by
  have hpid : c.pid.mirror.reset = c.pid.reset.mirror := c.pid.reset_mirror
  have hcontext : c.context.mirror.reset = c.context.reset.mirror :=
    (FeatureContext.create_mirror _).symm
  simp [reset, mirror, hpid, hcontext]

theorem retune_mirror (c : Controller ℝ) (factor offset friction : ℝ) :
    c.mirror.retune factor offset friction = (c.retune factor offset friction).map mirror := by
  unfold retune
  split <;> rfl

theorem obey_mirror {c : Controller ℝ} (h : Balanced c) (command : Command ℝ) :
    c.mirror.obey command.mirror = (c.obey command).mirror := by
  cases command with
  | cycle input => exact step_mirror h input
  | reset => exact c.reset_mirror
  | retune factor offset friction =>
    simp only [obey, Command.mirror, retune_mirror]
    cases c.retune factor offset friction <;> rfl
  | supply source => rfl

/-- **A run in the mirror** goes through the mirror images of the states of the run. -/
theorem cycles_mirror {c : Controller ℝ} (h : Balanced c) (commands : List (Command ℝ)) :
    c.mirror.cycles (commands.map Command.mirror) = (c.cycles commands).map mirror := by
  induction commands generalizing c with
  | nil => rfl
  | cons command rest ih =>
    have hcycle : command.mirror.isCycle = command.isCycle := by cases command <;> rfl
    have hrest := ih (balanced_obey h command)
    rw [← obey_mirror h] at hrest
    simp only [List.map_cons, cycles, hcycle, hrest]
    split
    · rw [List.map_cons, obey_mirror h]
    · rfl

/-- **Left and right are alike.**  A run whose cycles are mirrored hands out the opposite torques
and leaves the mirrored records: for a single track vehicle with a table of low speed factors and
the linear law, any source of tuning, and a neural model, if there is one, that does not tell left
from right. -/
theorem cycles_mirror_of_create {params : Params ℝ} {capabilities : Capabilities ℝ}
    {c₀ : Controller ℝ} (hcreate : create params capabilities = .ok c₀)
    {vehicle : BicycleModel ℝ} (hvehicle : capabilities.curvatureModel = vehicle.curvature)
    {table : LowSpeedTable ℝ} (htable : capabilities.lowSpeedLaw = table.law)
    (hlinear : capabilities.torqueModel.analyticModel = .linear)
    (hneural : ∀ network, capabilities.torqueModel.neuralModel? = some network → network.Odd)
    (commands : List (Command ℝ)) :
    (c₀.cycles (commands.map Command.mirror)).map (fun d => (d.output, d.report)) =
      (c₀.cycles commands).map fun d => (-d.output, d.report.mirror) := by
  obtain ⟨hvalid, -, rfl⟩ := create_eq_ok_iff.mp hcreate
  have hbalanced : Balanced (initial params capabilities) :=
    ⟨symmetric_standard hvehicle htable hlinear hneural, rfl,
      (Params.validate_eq_ok_iff.mp hvalid).1.le⟩
  have hrun := cycles_mirror hbalanced commands
  rw [initial_mirror] at hrun
  rw [hrun, List.map_map]
  rfl

/-- A neural model that adds up all features but the speed. -/
noncomputable def summing : NeuralModel ℝ where
  inputSize := featureCount
  evaluate vector := .ok vector.tail.sum
  frictionOverride := true
  frictionFactor := 0.5

theorem summing_odd : summing.Odd := by
  intro speed rest
  have hsum : (rest.map (- ·)).sum = -rest.sum := (List.sum_neg rest).symm
  exact congrArg Except.ok hsum

/-- A turn along a plan, a reset and a cycle without a plan. -/
theorem cycles_mirror_of_summing :
    let params : Params ℝ := { Params.standard with useLateralJerk := true, estimateDelay := true }
    let capabilities : Capabilities ℝ :=
      { Capabilities.standard with torqueModel := .neural summing .linear }
    let commands : List (Command ℝ) :=
      [.cycle { CycleInput.turn 20 0.01 with
        trajectory := some ⟨Trajectory.timeGrid, Trajectory.timeGrid, Trajectory.timeGrid,
          Trajectory.timeGrid⟩
        actuatorTorque := some 0.1 }, .reset, .cycle (.turn 5 0.02)]
    create params capabilities = .ok (initial params capabilities) ∧
      ((initial params capabilities).cycles (commands.map Command.mirror)).map (·.output) =
        ((initial params capabilities).cycles commands).map fun d => -d.output := by
  intro params capabilities commands
  have hvalid : params.validate = .ok () := by
    refine Params.validate_eq_ok_iff.mpr ⟨?_, ?_, ?_, ?_, ?_⟩
    · norm_num [params, Params.standard]
    · norm_num [params, Params.standard]
    · norm_num [params, Params.standard]
    · norm_num [params, Params.standard, Tuning.standard]
    · simp [params, Params.schedules, Params.standard, GainSchedule.constant,
        GainSchedule.isValid, GainSchedule.nonDescending]
  have hcreate : create params capabilities = .ok (initial params capabilities) := by
    refine create_eq_ok_iff.mpr ⟨hvalid, ?_, rfl⟩
    rintro network ⟨⟩
    rfl
  have hvehicle : capabilities.curvatureModel
      = (⟨15.0, 2.7, -0.002⟩ : BicycleModel ℝ).curvature := rfl
  have htable : capabilities.lowSpeedLaw = LowSpeedTable.standard.law := rfl
  have hmirror := cycles_mirror_of_create hcreate hvehicle htable rfl
    (by rintro network ⟨⟩; exact summing_odd) commands
  refine ⟨hcreate, ?_⟩
  have houtputs := congrArg (List.map Prod.fst) hmirror
  rwa [List.map_map, List.map_map] at houtputs

end Controller

end LateralTorque
