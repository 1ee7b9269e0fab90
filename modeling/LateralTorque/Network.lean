import LateralTorque.TorqueModel

/-!
# Dense feed-forward networks

A network arrives as nested lists of numbers.  `Network.ofDescription` checks their sizes and packs
each layer into one block of weights whose sizes are part of its type, so that evaluation cannot
meet sizes that do not fit.

* `NetworkDescription` — a network as it is written down;
* `Network`, `LayerChain`, `DenseLayer` — a network with sizes that fit;
* `Network.evaluate` — its answer for a list of features, refused if the list has another length
  than the inputs or if the one number that comes out is not finite;
* `Network.ofDescription` — the network of a description, or the first flaw found in it.

Inputs are scaled by a mean and a deviation, where a deviation too small to divide by leaves its
input unscaled.  Sums are added from the first input on, in the order that rounding depends on.
Weights are not checked, and neither is what passes from layer to layer.
-/

set_option autoImplicit false

namespace LateralTorque

/-! ## Descriptions -/

/-- What a layer applies to each of its sums. -/
inductive Activation where
  | linear
  | relu
  | sigmoid
  | tanh
deriving DecidableEq

/-- A layer as it is written down: one row of weights per output. -/
structure LayerDescription (α : Type) where
  weights : List (List α)
  bias : List α
  activation : Activation

/-- A network as it is written down. -/
structure NetworkDescription (α : Type) where
  inputMean : List α
  inputDeviation : List α
  layers : List (LayerDescription α)
  frictionOverride : Bool
  frictionFactor : α

/-! ## Networks -/

/-- A dense layer.  The rows of its weights stand one after the other. -/
structure DenseLayer (α : Type) (inputs outputs : Nat) where
  weights : Vector α (outputs * inputs)
  bias : Vector α outputs
  activation : Activation

/-- Layers that feed one another, from a number of inputs to a number of outputs. -/
inductive LayerChain (α : Type) : (inputs outputs : Nat) → Type where
  | done {width : Nat} : LayerChain α width width
  | cons {inputs width outputs : Nat} (layer : DenseLayer α inputs width)
      (rest : LayerChain α width outputs) : LayerChain α inputs outputs

/-- A network with one output. -/
structure Network (α : Type) where
  inputSize : Nat
  inputMean : Vector α inputSize
  inputDeviation : Vector α inputSize
  layers : LayerChain α inputSize 1
  frictionOverride : Bool
  frictionFactor : α

variable {α : Type} [Scalar α]

/-! ## Evaluation -/

/-- What an activation makes of a sum. -/
def Activation.apply : Activation → α → α
  | .linear, v => v
  | .relu, v => Scalar.maxNum v 0
  | .sigmoid, v => 1 / (1 + Scalar.exp (-v))
  | .tanh, v => Scalar.tanh v

namespace DenseLayer

variable {inputs outputs : Nat}

/-- The weight of an input in an output. -/
def weight (layer : DenseLayer α inputs outputs) (row : Fin outputs) (column : Fin inputs) : α :=
  layer.weights.get ⟨row.1 * inputs + column.1, by
    have h : row.1 * inputs + inputs ≤ outputs * inputs := by
      rw [← Nat.succ_mul]; exact Nat.mul_le_mul_right _ row.2
    have := column.2
    omega⟩

/-- The weighted sum of the inputs in one output, added from the first input on. -/
def weightedSum (layer : DenseLayer α inputs outputs) (row : Fin outputs)
    (x : Vector α inputs) : α :=
  let products := (List.finRange inputs).map fun column => layer.weight row column * x.get column
  match products with
  | [] => 0
  | first :: rest => rest.foldl (fun sum product => product + sum) first

/-- The outputs of a layer. -/
def apply (layer : DenseLayer α inputs outputs) (x : Vector α inputs) : Vector α outputs :=
  Vector.ofFn fun row => layer.activation.apply (layer.weightedSum row x + layer.bias.get row)

end DenseLayer

/-- The outputs of a chain of layers. -/
def LayerChain.apply {inputs outputs : Nat} :
    LayerChain α inputs outputs → Vector α inputs → Vector α outputs
  | .done, x => x
  | .cons layer rest, x => rest.apply (layer.apply x)

namespace Network

/-- The output for inputs of the right number, finite or not. -/
def output (n : Network α) (x : Vector α n.inputSize) : α :=
  let normal := (x.zipWith (· - ·) n.inputMean).zipWith (· / ·) n.inputDeviation
  (n.layers.apply normal)[0]

/-- The torque for a list of features; an output that is not finite is refused. -/
def evaluate (n : Network α) (features : List α) : Except ModelError α :=
  if h : features.toArray.size = n.inputSize then
    let out := n.output ⟨features.toArray, h⟩
    if Scalar.isFinite out then .ok out else .error .notFinite
  else .error (.inputSize n.inputSize features.length)

/-- The network as the neural model of a controller. -/
def toNeuralModel (n : Network α) : NeuralModel α where
  inputSize := n.inputSize
  evaluate := n.evaluate
  frictionOverride := n.frictionOverride
  frictionFactor := n.frictionFactor

end Network

/-! ## From a description to a network -/

/-- The smallest deviation that an input is divided by; the spacing of doubles above one. -/
def leastDeviation : α := 2.220446049250313080847263336181640625e-16

/-- A deviation too small to divide by leaves its input unscaled. -/
def usableDeviation (deviation : α) : α :=
  if leastDeviation < Scalar.abs deviation then deviation else 1

omit [Scalar α] in
theorem length_flatten_of_forall {rows : List (List α)} {width : Nat}
    (h : rows.all (·.length == width) = true) : rows.flatten.length = rows.length * width := by
  induction rows with
  | nil => simp
  | cons row rest ih =>
    simp only [List.all_cons, Bool.and_eq_true, beq_iff_eq] at h
    simp [ih h.2, h.1, Nat.succ_mul, Nat.add_comm]

namespace LayerDescription

/-- Packs a layer, number `index` of its network, whose inputs are `width` in number. -/
def toLayer (index width : Nat) (d : LayerDescription α) :
    Except NetworkFlaw (DenseLayer α width d.weights.length) :=
  if d.weights.length = 0 then
    .error (.rowCount index d.weights.length d.bias.length)
  else if hb : d.bias.length = d.weights.length then
    if hw : d.weights.all (·.length == width) = true then
      .ok
        { weights := ⟨d.weights.flatten.toArray, by simpa using length_flatten_of_forall hw⟩
          bias := ⟨d.bias.toArray, by simpa using hb⟩
          activation := d.activation }
    else .error (.columnCount index width)
  else .error (.rowCount index d.weights.length d.bias.length)

end LayerDescription

/-- Packs the layers of a network from number `index` on, the first of them with `width` inputs.
The last layer has to have a single output. -/
def LayerChain.ofDescriptions (index width : Nat) :
    List (LayerDescription α) → Except NetworkFlaw (LayerChain α width 1)
  | [] => if h : width = 1 then .ok (h ▸ .done) else .error (.outputCount width)
  | d :: rest => do
    let layer ← d.toLayer index width
    let chain ← LayerChain.ofDescriptions (index + 1) d.weights.length rest
    return .cons layer chain

/-- The network of a description, or the first flaw found in it. -/
def Network.ofDescription (d : NetworkDescription α) : Except NetworkFlaw (Network α) :=
  if d.inputMean.length = 0 then
    .error (.inputSizes d.inputMean.length d.inputDeviation.length)
  else if h : d.inputDeviation.length = d.inputMean.length then
    if d.layers.isEmpty then .error .noLayers
    else do
      let layers ← LayerChain.ofDescriptions 0 d.inputMean.length d.layers
      return {
        inputSize := d.inputMean.length
        inputMean := ⟨d.inputMean.toArray, by simp⟩
        inputDeviation := ⟨(d.inputDeviation.map usableDeviation).toArray, by simpa using h⟩
        layers := layers
        frictionOverride := d.frictionOverride
        frictionFactor := d.frictionFactor }
  else .error (.inputSizes d.inputMean.length d.inputDeviation.length)

end LateralTorque
