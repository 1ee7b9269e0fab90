import LateralTorque.FileSystem
import LateralTorque.Json.Number
import LateralTorque.Network

/-!
# Networks from JSON texts

A network file holds one JSON record: means and deviations of the inputs, the layers, and optionally
how the network goes together with the analytic friction.

* `NetworkDescription.read?` — a record read as the description of a network;
* `Network.ofText`, `Network.load` — the network of a text and of a file, or why there is none.

A text that is not such a record is unreadable as a whole; sizes that do not fit are found
afterwards, when the network is packed.
-/

set_option autoImplicit false

namespace LateralTorque

variable {α : Type} [Scalar α]

/-- The activation with a name. -/
def Activation.ofName? : String → Option Activation
  | "linear" => some .linear
  | "relu" => some .relu
  | "sigmoid" => some .sigmoid
  | "tanh" => some .tanh
  | _ => none

/-- A number of a network file. -/
def readWeight? (d : Data) : Option α := d.numeral?.bind Json.scalar?

/-- A layer of a network file. -/
def LayerDescription.read? (d : Data) : Option (LayerDescription α) := do
  let r ← d.record? ["weights", "bias", "activation"]
  return {
    weights := ← r.required? "weights" (Data.list? (Data.list? readWeight?))
    bias := ← r.required? "bias" (Data.list? readWeight?)
    activation := ← r.required? "activation" fun d => d.choice?.bind Activation.ofName? }

/-- A network file. -/
def NetworkDescription.read? (d : Data) : Option (NetworkDescription α) := do
  let r ← d.record?
    ["input_mean", "input_std", "layers", "friction_override", "friction_factor"]
  return {
    inputMean := ← r.required? "input_mean" (Data.list? readWeight?)
    inputDeviation := ← r.required? "input_std" (Data.list? readWeight?)
    layers := ← r.required? "layers" (Data.list? LayerDescription.read?)
    frictionOverride := ← r.optional? "friction_override" false Data.flag?
    frictionFactor := ← r.optional? "friction_factor" 1 readWeight? }

/-- The network that a JSON text describes. -/
def Network.ofText (text : String) : Except ModelError (Network α) :=
  match (Json.read? text).bind NetworkDescription.read? with
  | some description => (Network.ofDescription description).mapError .malformed
  | none => .error .unreadable

/-- The network in a file. -/
def Network.load {m : Type → Type} [Monad m] (files : FileSystem m) (path : String) :
    m (Except ModelError (Network α)) := do
  match ← files.readText path with
  | .ok text => return Network.ofText text
  | .error cause => return .error (.file cause)

end LateralTorque
