import LateralTorque.Proofs.NetworkRun

/-!
# NaN that a network does not notice

The output of a network is the one number that is checked.  NaN among the features gets there
through any layers but a rectified one, after which the output is that of the layers behind it for
zeros.

The network is any that is accepted, in any number system with the laws of `NaN`; inputs have the
right number and NaN among them, in any places and beside any other values.

* `NetworkDescription.NoticesNaN` — no layer is rectified, or what is behind the first such layer
  gives an output that is not finite anyway;
* `Network.nan_noticed_iff` — exactly such networks refuse NaN, and a controller with one of them
  holds its torque in every cycle that shows NaN to it;
* `rectified_nan_unnoticed` — a rectified network of doubles that answers 0.5.

For a network that does not notice NaN the answer is named, and it is the same for all inputs with
NaN.  Infinite inputs are another matter and left out: a rectifier lets them through.
-/

set_option autoImplicit false

namespace LateralTorque

variable {α : Type} [Scalar α]

/-- The output for inputs with NaN is not finite. -/
def NetworkDescription.NoticesNaN (d : NetworkDescription α) : Prop :=
  (∀ l ∈ d.layers, l.activation ≠ .relu) ∨
    ∃ value, unseenOutputs? d.layers = some [value] ∧ Scalar.isFinite value = false

namespace Network

variable {d : NetworkDescription α} {n : Network α}

/-- What becomes of inputs with NaN. -/
theorem evaluate_of_nan (laws : NaNArithmetic α) (functions : NaNFunctions α)
    (h : ofDescription d = .ok n) {x : List α} (hlength : x.length = d.inputMean.length)
    (hnan : ∃ v ∈ x, Scalar.isNaN v = true) :
    (d.NoticesNaN ∧ n.evaluate x = .error .notFinite) ∨
      ∃ value, ¬ d.NoticesNaN ∧ unseenOutputs? d.layers = some [value] ∧
        n.evaluate x = .ok value := by
  obtain ⟨value, hvalue⟩ := exists_output? h hlength
  have hkept : ∀ l ∈ d.layers, l.activation ≠ .relu → l.activation.KeepsNaN α :=
    fun l _ ha => Activation.keepsNaN_of_ne_relu laws functions ha
  rcases output?_of_nan laws h hkept hnan hvalue with ⟨hnone, hout⟩ | hunseen
  · left
    have hinfinite := laws.not_finite value hout
    exact ⟨.inl hnone, (evaluate_eq_notFinite_iff h hvalue).mpr hinfinite⟩
  · cases hfinite : Scalar.isFinite value with
    | false =>
      left
      exact ⟨.inr ⟨value, hunseen, hfinite⟩, (evaluate_eq_notFinite_iff h hvalue).mpr hfinite⟩
    | true =>
      right
      refine ⟨value, ?_, hunseen, (evaluate_eq_ok_iff h hvalue).mpr ⟨rfl, hfinite⟩⟩
      rintro (hnone | ⟨other, hother, hinfinite⟩)
      · rw [unseenOutputs?_of_not_rectified hnone] at hunseen
        cases hunseen
      · rw [hunseen, Option.some.injEq, List.singleton_inj] at hother
        rw [← hother, hfinite] at hinfinite
        cases hinfinite

/-- **Which networks notice NaN.**  On inputs with NaN an accepted network refuses to answer exactly
where no layer is rectified or where the layers behind the first rectified one have an output for
zeros that is not finite; otherwise it answers that output, whatever the other inputs are.  A
controller with a network that notices NaN reports a fault in every cycle that shows NaN to it, and
holds the torque of the cycle before. -/
theorem nan_noticed_iff (laws : NaNArithmetic α) (functions : NaNFunctions α)
    (h : ofDescription d = .ok n) :
    (∀ x, x.length = d.inputMean.length → (∃ v ∈ x, Scalar.isNaN v = true) →
      (n.evaluate x = .error .notFinite ↔ d.NoticesNaN) ∧
        ∀ value, n.evaluate x = .ok value → unseenOutputs? d.layers = some [value]) ∧
    (d.NoticesNaN →
      ∀ (params : Params α) (capabilities : Capabilities α) (fallback : AnalyticModel α)
        (c₀ : Controller α), capabilities.torqueModel = .neural n.toNeuralModel fallback →
        Controller.create params capabilities = .ok c₀ →
        ∀ (commands : List (Command α)) (input : CycleInput α) (f : Features α),
          let now : RunCycle α := ⟨c₀.run commands, input⟩
          now.features? = some f → (∃ v ∈ f.toList, Scalar.isNaN v = true) →
            now.after.report.modelFault = true ∧ now.after.output = now.before.output) := by
  constructor
  · intro x hlength hnan
    rcases evaluate_of_nan laws functions h hlength hnan with
      ⟨hnotices, hrefused⟩ | ⟨value, hnotices, hunseen, hanswer⟩
    · rw [hrefused]
      exact ⟨iff_of_true rfl hnotices, fun value hvalue => by cases hvalue⟩
    · rw [hanswer]
      refine ⟨iff_of_false (by rintro ⟨⟩) hnotices, fun other hother => ?_⟩
      cases hother
      exact hunseen
  · intro hnotices params capabilities fallback c₀ hmodel hcreate commands input f now hf hnan
    obtain ⟨hcount, hnetwork⟩ := network_of_create h hmodel hcreate commands
    have hfull := RunCycle.features_full hf
    have hvector : ∃ x ∈ [f.setpoint, f.measurement, f.feedforward],
        x.length = featureCount ∧ ∃ v ∈ x, Scalar.isNaN v = true := by
      obtain ⟨v, hv, hnan⟩ := hnan
      rw [Features.toList, List.mem_append, List.mem_append] at hv
      rcases hv with (hv | hv) | hv
      · exact ⟨f.feedforward, by simp, hfull.feedforward, v, hv, hnan⟩
      · exact ⟨f.setpoint, by simp, hfull.setpoint, v, hv, hnan⟩
      · exact ⟨f.measurement, by simp, hfull.measurement, v, hv, hnan⟩
    obtain ⟨x, hx, hlength, hnan⟩ := hvector
    rcases evaluate_of_nan laws functions h (hlength.trans hcount.symm) hnan with
      ⟨-, hrefused⟩ | ⟨_, hunnoticed, -, -⟩
    · have hfault := RunCycle.modelFault_of_error hnetwork hf hx hrefused
      exact ⟨hfault, (now.before.held_of_fault hfault).output⟩
    · exact absurd hnotices hunnoticed

variable (α) in
/-- A network with two inputs and two layers. -/
def twoLayers (first second : Activation) : NetworkDescription α where
  inputMean := [1, 0]
  inputDeviation := [2.0, 0]
  layers := [
    { weights := [[1, 0], [0, 1]]
      bias := [0, 0]
      activation := first },
    { weights := [[1, -1]]
      bias := [0.5]
      activation := second }]
  frictionOverride := true
  frictionFactor := 1

theorem wellSized_twoLayers (first second : Activation) : (twoLayers α first second).WellSized := by
  rw [NetworkDescription.wellSized_iff]
  refine ⟨by simp [twoLayers], rfl, by simp [twoLayers], ?_, ?_, rfl⟩
  · exact ⟨by simp, rfl, by simp [twoLayers]⟩
  · exact ⟨by simp, rfl, by simp⟩

/-- A hyperbolic tangent and a sigmoid pass NaN on to the output. -/
theorem nan_noticed_by_smooth_layers : ∃ n,
    ofDescription (twoLayers Extended .tanh .sigmoid) = .ok n ∧
      n.evaluate [.nan, .real 3] = .error .notFinite := by
  have hsized : (twoLayers Extended .tanh .sigmoid).WellSized := wellSized_twoLayers _ _
  obtain ⟨n, hn⟩ := exists_ofDescription_iff.mpr hsized
  have hnotices : (twoLayers Extended .tanh .sigmoid).NoticesNaN := .inl (by simp [twoLayers])
  have hanswer := (nan_noticed_iff Extended.nanArithmetic Extended.nanFunctions hn).1
    [.nan, .real 3] rfl ⟨.nan, by simp, Extended.isNaN_iff.mpr rfl⟩
  exact ⟨n, hn, hanswer.1.mpr hnotices⟩

/-- Behind a rectified layer, NaN is not noticed. -/
theorem rectified_nan_unnoticed : ∃ n, ofDescription (twoLayers Float .relu .linear) = .ok n ∧
    Scalar.isNaN (0.0 / 0.0 : Float) = true ∧ n.evaluate [0.0 / 0.0, 0.0] = .ok 0.5 := by
  have hsized : (twoLayers Float .relu .linear).WellSized := wellSized_twoLayers _ _
  obtain ⟨n, hn⟩ := exists_ofDescription_iff.mpr hsized
  have houtput : (twoLayers Float .relu .linear).output? [0.0 / 0.0, 0.0] = some 0.5 := by
    decide +kernel
  exact ⟨n, hn, by decide +kernel, (evaluate_eq_ok_iff hn houtput).mpr ⟨rfl, by decide +kernel⟩⟩

end Network

end LateralTorque
