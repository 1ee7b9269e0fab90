import Mathlib
import LateralTorque.Network
import LateralTorque.Proofs.Exact
import LateralTorque.Proofs.Run

/-!
# Networks as nested lists

A network arrives as nested lists of numbers and is packed into blocks whose sizes are part of their
types.  Here the lists are evaluated as they stand, with every size looked at when it is needed.  In
a description that is accepted this evaluation never meets a size that does not fit, and it gives
what the packed network gives.

This holds of any number system: sums are added in the same order on both sides, so that the
rounding is the same too.

* `NetworkDescription.WellSized` — the sizes of a description fit;
* `Network.exists_ofDescription_iff` — such descriptions are accepted, and no others;
* `NetworkDescription.evaluate?` — the lists evaluated as they stand, with sums that are `addedUp`
  in the order of the inputs (`addedUp_eq_sum`: in exact arithmetic, just their sum);
* `Network.evaluate?_of_ofDescription` — the packed network gives the same;
* `Network.evaluate_of_output?` — which value it answers, if it does.

Weights, means and deviations may be any numbers; nothing is said about the function that a network
computes.
-/

set_option autoImplicit false

namespace LateralTorque

variable {α : Type}

/-! ## Sizes -/

/-- The sizes of a layer with `width` inputs fit. -/
structure LayerDescription.Fits (l : LayerDescription α) (width : Nat) : Prop where
  rows : l.weights ≠ []
  biases : l.bias.length = l.weights.length
  columns : ∀ row ∈ l.weights, row.length = width

/-- Number of inputs of a network, followed by the number of outputs of each layer. -/
def NetworkDescription.widths (d : NetworkDescription α) : List Nat :=
  d.inputMean.length :: d.layers.map fun l => l.weights.length

/-- The sizes of a network fit: each layer is fed by the one before it, the first one by the inputs,
and the last one has one output. -/
structure NetworkDescription.WellSized (d : NetworkDescription α) : Prop where
  inputs : d.inputMean ≠ []
  deviations : d.inputDeviation.length = d.inputMean.length
  layers : d.layers ≠ []
  rows : ∀ l ∈ d.layers, l.weights ≠ []
  biases : ∀ l ∈ d.layers, l.bias.length = l.weights.length
  columns : ∀ (i : Nat) (l : LayerDescription α), d.layers[i]? = some l →
    ∀ row ∈ l.weights, d.widths[i]? = some row.length
  output : d.widths.getLast? = some 1

/-- Each layer fits the one before it, and the last one has one output. -/
def Chained : (width : Nat) → List (LayerDescription α) → Prop
  | width, [] => width = 1
  | width, l :: rest => l.Fits width ∧ Chained l.weights.length rest

/-- Fitting along the layers, layer by layer. -/
theorem chained_iff {width : Nat} {layers : List (LayerDescription α)} :
    Chained width layers ↔ (∀ l ∈ layers, l.weights ≠ []) ∧
      (∀ l ∈ layers, l.bias.length = l.weights.length) ∧
      (∀ (i : Nat) (l : LayerDescription α), layers[i]? = some l → ∀ row ∈ l.weights,
        (width :: layers.map fun l => l.weights.length)[i]? = some row.length) ∧
      (width :: layers.map fun l => l.weights.length).getLast? = some 1 := by
  induction layers generalizing width with
  | nil => simp [Chained]
  | cons first rest ih =>
    rw [Chained, ih, List.forall_mem_cons, List.forall_mem_cons, List.map_cons,
      List.getLast?_cons_cons]
    constructor
    · rintro ⟨hfirst, hrows, hbiases, hcolumns, houtput⟩
      refine ⟨⟨hfirst.rows, hrows⟩, ⟨hfirst.biases, hbiases⟩, fun i l hl row hrow => ?_, houtput⟩
      cases i with
      | zero =>
        cases hl
        exact congrArg some (hfirst.columns row hrow).symm
      | succ i => exact hcolumns i l hl row hrow
    · rintro ⟨⟨hfirst, hrows⟩, ⟨hbias, hbiases⟩, hcolumns, houtput⟩
      refine ⟨⟨hfirst, hbias, fun row hrow => ?_⟩, hrows, hbiases,
        fun i l hl row hrow => hcolumns (i + 1) l hl row hrow, houtput⟩
      have hwidth := hcolumns 0 first rfl row hrow
      exact (Option.some.inj hwidth).symm

theorem NetworkDescription.wellSized_iff {d : NetworkDescription α} :
    d.WellSized ↔ d.inputMean ≠ [] ∧ d.inputDeviation.length = d.inputMean.length ∧
      d.layers ≠ [] ∧ Chained d.inputMean.length d.layers := by
  rw [chained_iff]
  constructor
  · intro h
    exact ⟨h.inputs, h.deviations, h.layers, h.rows, h.biases, h.columns, h.output⟩
  · rintro ⟨hinputs, hdeviations, hlayers, hrows, hbiases, hcolumns, houtput⟩
    exact ⟨hinputs, hdeviations, hlayers, hrows, hbiases, hcolumns, houtput⟩

/-! ## Packing -/

/-- The packed form of a layer whose sizes fit. -/
def LayerDescription.packed {width : Nat} (l : LayerDescription α) (h : l.Fits width) :
    DenseLayer α width l.weights.length where
  weights := ⟨l.weights.flatten.toArray, by
    simpa using length_flatten_of_forall (List.all_eq_true.mpr fun row hrow =>
      beq_iff_eq.mpr (h.columns row hrow))⟩
  bias := ⟨l.bias.toArray, by simpa using h.biases⟩
  activation := l.activation

/-- A layer is packed where its sizes fit and nowhere else. -/
theorem LayerDescription.toLayer_eq_ok_iff {index width : Nat} {l : LayerDescription α}
    {layer : DenseLayer α width l.weights.length} :
    l.toLayer index width = .ok layer ↔ ∃ h : l.Fits width, layer = l.packed h := by
  unfold toLayer
  constructor
  · intro hpacked
    split at hpacked
    · cases hpacked
    · rename_i hrows
      split at hpacked
      · rename_i hbiases
        split at hpacked
        · rename_i hcolumns
          cases hpacked
          refine ⟨⟨?_, hbiases, ?_⟩, rfl⟩
          · rwa [ne_eq, ← List.length_eq_zero_iff]
          · intro row hrow
            exact beq_iff_eq.mp (List.all_eq_true.mp hcolumns row hrow)
        · cases hpacked
      · cases hpacked
  · rintro ⟨h, rfl⟩
    have hrows : ¬ l.weights.length = 0 := by
      rw [List.length_eq_zero_iff]
      exact h.rows
    have hcolumns : l.weights.all (·.length == width) = true :=
      List.all_eq_true.mpr fun row hrow => beq_iff_eq.mpr (h.columns row hrow)
    rw [if_neg hrows, dif_pos h.biases, dif_pos hcolumns]
    rfl

/-- Layers are packed one after the other. -/
theorem LayerChain.ofDescriptions_cons_eq_ok_iff {index width : Nat} {l : LayerDescription α}
    {rest : List (LayerDescription α)} {chain : LayerChain α width 1} :
    LayerChain.ofDescriptions index width (l :: rest) = .ok chain ↔
      ∃ (h : l.Fits width) (following : LayerChain α l.weights.length 1),
        LayerChain.ofDescriptions (index + 1) l.weights.length rest = .ok following ∧
          chain = .cons (l.packed h) following := by
  rw [LayerChain.ofDescriptions]
  constructor
  · intro hpacked
    obtain ⟨layer, hlayer, hpacked⟩ := exists_of_bind_eq_ok hpacked
    obtain ⟨following, hrest, hpacked⟩ := exists_of_bind_eq_ok hpacked
    obtain ⟨h, rfl⟩ := LayerDescription.toLayer_eq_ok_iff.mp hlayer
    cases hpacked
    exact ⟨h, following, hrest, rfl⟩
  · rintro ⟨h, following, hrest, rfl⟩
    have hlayer : l.toLayer index width = .ok (l.packed h) :=
      LayerDescription.toLayer_eq_ok_iff.mpr ⟨h, rfl⟩
    rw [hlayer, hrest]
    rfl

theorem LayerChain.exists_ofDescriptions_iff (index : Nat) {width : Nat}
    {layers : List (LayerDescription α)} :
    (∃ chain, LayerChain.ofDescriptions index width layers = .ok chain) ↔
      Chained width layers := by
  induction layers generalizing index width with
  | nil =>
    unfold ofDescriptions Chained
    by_cases h : width = 1 <;> simp [h]
  | cons l rest ih =>
    rw [Chained, ← ih (index + 1)]
    constructor
    · rintro ⟨chain, hchain⟩
      obtain ⟨h, following, hrest, -⟩ := ofDescriptions_cons_eq_ok_iff.mp hchain
      exact ⟨h, following, hrest⟩
    · rintro ⟨h, following, hrest⟩
      exact ⟨_, ofDescriptions_cons_eq_ok_iff.mpr ⟨h, following, hrest, rfl⟩⟩

variable [Scalar α]

/-- What an accepted description is packed into. -/
theorem Network.ofDescription_eq_ok_iff {d : NetworkDescription α} {n : Network α} :
    Network.ofDescription d = .ok n ↔ d.inputMean ≠ [] ∧ d.layers ≠ [] ∧
      ∃ (h : d.inputDeviation.length = d.inputMean.length)
        (layers : LayerChain α d.inputMean.length 1),
        LayerChain.ofDescriptions 0 d.inputMean.length d.layers = .ok layers ∧
          n = {
            inputSize := d.inputMean.length
            inputMean := ⟨d.inputMean.toArray, by simp⟩
            inputDeviation := ⟨(d.inputDeviation.map usableDeviation).toArray, by simpa using h⟩
            layers := layers
            frictionOverride := d.frictionOverride
            frictionFactor := d.frictionFactor } := by
  unfold Network.ofDescription
  constructor
  · intro hpacked
    split at hpacked
    · cases hpacked
    · rename_i hinputs
      split at hpacked
      · rename_i hdeviations
        split at hpacked
        · cases hpacked
        · rename_i hlayers
          obtain ⟨layers, hchain, hpacked⟩ := exists_of_bind_eq_ok hpacked
          cases hpacked
          refine ⟨?_, ?_, hdeviations, layers, hchain, rfl⟩
          · rwa [ne_eq, ← List.length_eq_zero_iff]
          · rwa [List.isEmpty_iff] at hlayers
      · cases hpacked
  · rintro ⟨hinputs, hlayers, hdeviations, layers, hchain, rfl⟩
    have hcount : ¬ d.inputMean.length = 0 := by
      rw [List.length_eq_zero_iff]
      exact hinputs
    have hsome : ¬ d.layers.isEmpty = true := by
      rw [List.isEmpty_iff]
      exact hlayers
    rw [if_neg hcount, dif_pos hdeviations, if_neg hsome, hchain]
    rfl

/-- **A description is accepted** exactly where its sizes fit. -/
theorem Network.exists_ofDescription_iff {d : NetworkDescription α} :
    (∃ n, Network.ofDescription d = .ok n) ↔ d.WellSized := by
  rw [NetworkDescription.wellSized_iff]
  constructor
  · rintro ⟨n, hn⟩
    obtain ⟨hinputs, hlayers, hdeviations, layers, hchain, -⟩ := ofDescription_eq_ok_iff.mp hn
    exact ⟨hinputs, hdeviations, hlayers,
      (LayerChain.exists_ofDescriptions_iff 0).mp ⟨layers, hchain⟩⟩
  · rintro ⟨hinputs, hdeviations, hlayers, hchained⟩
    obtain ⟨layers, hchain⟩ := (LayerChain.exists_ofDescriptions_iff 0).mpr hchained
    exact ⟨_, ofDescription_eq_ok_iff.mpr ⟨hinputs, hlayers, hdeviations, layers, hchain, rfl⟩⟩

/-! ## Evaluation of the lists -/

/-- Numbers added from the first one on. -/
def addedUp : List α → α
  | [] => 0
  | first :: rest => rest.foldl (fun sum number => number + sum) first

/-- In exact arithmetic the order does not matter. -/
theorem addedUp_eq_sum (numbers : List ℝ) : addedUp numbers = numbers.sum := by
  have hfold : ∀ (rest : List ℝ) (start : ℝ),
      rest.foldl (fun sum number => number + sum) start = start + rest.sum := by
    intro rest
    induction rest with
    | nil => intro start; simp
    | cons number rest ih =>
      intro start
      rw [List.foldl_cons, ih, List.sum_cons]
      ring
  cases numbers with
  | nil => rfl
  | cons first rest =>
    rw [List.sum_cons]
    exact hfold rest first

/-- The outputs of a layer, one for each row, if all rows have as many weights as there are inputs
and there is a bias for each of them. -/
def LayerDescription.outputs? (l : LayerDescription α) (x : List α) : Option (List α) :=
  if l.bias.length = l.weights.length ∧ ∀ row ∈ l.weights, row.length = x.length then
    some (l.weights.zipWith
      (fun row bias => l.activation.apply (addedUp (row.zipWith (· * ·) x) + bias)) l.bias)
  else none

namespace NetworkDescription

/-- The inputs against their means, in units of their deviations where those can be divided by. -/
def normalised? (d : NetworkDescription α) (x : List α) : Option (List α) :=
  if d.inputMean.length = x.length ∧ d.inputDeviation.length = x.length then
    some ((x.zipWith (· - ·) d.inputMean).zipWith (· / ·) (d.inputDeviation.map usableDeviation))
  else none

/-- The first output of the last layer, if there is one and all sizes fit on the way. -/
def output? (d : NetworkDescription α) (x : List α) : Option α := do
  let normal ← d.normalised? x
  let outputs ← d.layers.foldlM (fun y l => l.outputs? y) normal
  outputs.head?

/-- The lists evaluated as they stand; nothing where a size does not fit. -/
def evaluate? (d : NetworkDescription α) (x : List α) : Option (Except ModelError α) :=
  if x.length = d.inputMean.length then do
    let value ← d.output? x
    return if Scalar.isFinite value then .ok value else .error .notFinite
  else some (.error (.inputSize d.inputMean.length x.length))

end NetworkDescription

/-! ## The packed network on the lists -/

omit [Scalar α] in
/-- The place of a weight in rows of one length, laid out one after the other. -/
theorem getElem?_flatten_of_forall {rows : List (List α)} {width : Nat}
    (h : ∀ row ∈ rows, row.length = width) {r c : Nat} (hc : c < width) :
    rows.flatten[r * width + c]? = rows[r]?.bind (·[c]?) := by
  induction rows generalizing r with
  | nil => simp
  | cons row rest ih =>
    rw [List.forall_mem_cons] at h
    rw [List.flatten_cons]
    cases r with
    | zero =>
      rw [Nat.zero_mul, Nat.zero_add, List.getElem?_append_left (by omega)]
      rfl
    | succ r =>
      have hplace : (r + 1) * width + c = row.length + (r * width + c) := by
        rw [h.1, Nat.succ_mul]
        omega
      rw [hplace, List.getElem?_append_right (by omega), Nat.add_sub_cancel_left]
      exact ih h.2

namespace LayerDescription

variable {l : LayerDescription α} {width : Nat}

omit [Scalar α] in
theorem weight_packed (h : l.Fits width) (row : Fin l.weights.length) (column : Fin width) :
    some ((l.packed h).weight row column) = l.weights[row.1][column.1]? := by
  have hplace := getElem?_flatten_of_forall h.columns (r := row.1) column.2
  rw [List.getElem?_eq_getElem row.2, Option.bind_some] at hplace
  rw [← hplace]
  unfold DenseLayer.weight
  simp [packed, Vector.get_eq_getElem]

/-- A row of weights against the inputs. -/
theorem weightedSum_packed (h : l.Fits width) (row : Fin l.weights.length) (x : Vector α width) :
    (l.packed h).weightedSum row x = addedUp (l.weights[row.1].zipWith (· * ·) x.toList) := by
  have hlength : l.weights[row.1].length = width := h.columns _ (List.getElem_mem row.2)
  have hproducts : (List.finRange width).map (fun column =>
        (l.packed h).weight row column * x.get column)
      = l.weights[row.1].zipWith (· * ·) x.toList := by
    apply List.ext_getElem
    · simp [hlength]
    · intro i hi hi'
      have hwidth : i < width := by simpa using hi
      have hweight := weight_packed h row ⟨i, hwidth⟩
      rw [List.getElem?_eq_getElem (by omega), Option.some.injEq] at hweight
      simp only [List.getElem_map, List.getElem_finRange, List.getElem_zipWith]
      rw [← hweight]
      rfl
  unfold DenseLayer.weightedSum
  dsimp only
  rw [hproducts]
  rfl

/-- A layer whose sizes fit gives what its lists give. -/
theorem outputs?_packed (h : l.Fits width) (x : Vector α width) :
    l.outputs? x.toList = some ((l.packed h).apply x).toList := by
  have hsizes : l.bias.length = l.weights.length ∧ ∀ row ∈ l.weights,
      row.length = x.toList.length :=
    ⟨h.biases, fun row hrow => by rw [h.columns row hrow, Vector.length_toList]⟩
  rw [outputs?, if_pos hsizes, Option.some.injEq]
  apply List.ext_getElem
  · simp [h.biases]
  · intro r hr hr'
    have hrow : r < l.weights.length := by simpa using hr'
    have hsum := weightedSum_packed h ⟨r, hrow⟩ x
    simp only [List.getElem_zipWith, Vector.getElem_toList, DenseLayer.apply, Vector.getElem_ofFn]
    rw [hsum]
    simp [packed, Vector.get_eq_getElem]

end LayerDescription

/-- Packed layers give what their lists give. -/
theorem LayerChain.foldlM_outputs? {index width : Nat} {layers : List (LayerDescription α)}
    {chain : LayerChain α width 1} (h : LayerChain.ofDescriptions index width layers = .ok chain)
    (x : Vector α width) :
    layers.foldlM (fun y l => l.outputs? y) x.toList = some (chain.apply x).toList := by
  induction layers generalizing index width with
  | nil =>
    unfold ofDescriptions at h
    split at h
    · rename_i hone
      subst hone
      cases h
      rfl
    · cases h
  | cons l rest ih =>
    obtain ⟨hfits, following, hrest, rfl⟩ := ofDescriptions_cons_eq_ok_iff.mp h
    rw [List.foldlM_cons, LayerDescription.outputs?_packed hfits]
    exact ih hrest ((l.packed hfits).apply x)

namespace Network

variable {d : NetworkDescription α} {n : Network α}

theorem inputSize_of_ofDescription (h : ofDescription d = .ok n) :
    n.inputSize = d.inputMean.length := by
  obtain ⟨-, -, hdeviations, layers, -, rfl⟩ := ofDescription_eq_ok_iff.mp h
  rfl

omit [Scalar α] in
theorem toList_of_one (v : Vector α 1) : v.toList = [v.get ⟨0, Nat.one_pos⟩] := by
  apply List.ext_getElem
  · simp
  · intro i hi hi'
    obtain rfl : i = 0 := by simpa using hi'
    simp [Vector.get_eq_getElem]

/-- On as many inputs as it takes, the lists of an accepted network come to one output, the one of
the packed network. -/
theorem outputs_of_ofDescription (h : ofDescription d = .ok n) (x : Vector α n.inputSize) :
    ∃ normal, d.normalised? x.toList = some normal ∧
      d.layers.foldlM (fun y l => l.outputs? y) normal = some [n.output x] := by
  obtain ⟨-, -, hdeviations, layers, hchain, rfl⟩ := ofDescription_eq_ok_iff.mp h
  have hsizes : d.inputMean.length = x.toList.length ∧
      d.inputDeviation.length = x.toList.length := by
    rw [Vector.length_toList]
    exact ⟨rfl, hdeviations⟩
  have hnormal : d.normalised? x.toList = some ((x.zipWith (· - ·) ⟨d.inputMean.toArray, by simp⟩
      |>.zipWith (· / ·) ⟨(d.inputDeviation.map usableDeviation).toArray, by
        simpa using hdeviations⟩).toList) := by
    rw [NetworkDescription.normalised?, if_pos hsizes]
    simp
  refine ⟨_, hnormal, ?_⟩
  rw [LayerChain.foldlM_outputs? hchain, toList_of_one]
  rfl

theorem output?_of_ofDescription (h : ofDescription d = .ok n) (x : Vector α n.inputSize) :
    d.output? x.toList = some (n.output x) := by
  obtain ⟨normal, hnormal, houtputs⟩ := outputs_of_ofDescription h x
  rw [NetworkDescription.output?, hnormal, Option.bind_eq_bind, Option.bind_some, houtputs]
  rfl

/-- **The packed network** gives what its lists give, and they never meet a size that does not
fit. -/
theorem evaluate?_of_ofDescription (h : ofDescription d = .ok n) (x : List α) :
    d.evaluate? x = some (n.evaluate x) := by
  have hsize := inputSize_of_ofDescription h
  unfold NetworkDescription.evaluate? evaluate
  by_cases hx : x.length = d.inputMean.length
  · have hx' : x.toArray.size = n.inputSize := by simpa [hsize] using hx
    have houtput := output?_of_ofDescription h ⟨x.toArray, hx'⟩
    have hlist : (⟨x.toArray, hx'⟩ : Vector α n.inputSize).toList = x := by simp
    rw [hlist] at houtput
    rw [if_pos hx, dif_pos hx', houtput]
    rfl
  · have hx' : ¬ x.toArray.size = n.inputSize := by simpa [hsize] using hx
    rw [if_neg hx, dif_neg hx', hsize]

/-- On as many inputs as it takes, the lists of an accepted network have an output. -/
theorem exists_output? (h : ofDescription d = .ok n) {x : List α}
    (hx : x.length = d.inputMean.length) : ∃ value, d.output? x = some value := by
  have hlength : x.toArray.size = n.inputSize := by
    rw [inputSize_of_ofDescription h]
    exact hx
  exact ⟨_, output?_of_ofDescription h ⟨x.toArray, hlength⟩⟩

theorem length_of_output? {x : List α} {value : α} (h : d.output? x = some value) :
    x.length = d.inputMean.length := by
  by_contra hlength
  unfold NetworkDescription.output? NetworkDescription.normalised? at h
  rw [if_neg fun hsizes => hlength hsizes.1.symm] at h
  cases h

/-- A network answers the output of its lists where that is finite. -/
theorem evaluate_of_output? (h : ofDescription d = .ok n) {x : List α} {value : α}
    (hvalue : d.output? x = some value) :
    n.evaluate x = if Scalar.isFinite value then .ok value else .error .notFinite := by
  have hevaluate := evaluate?_of_ofDescription h x
  rw [NetworkDescription.evaluate?, if_pos (length_of_output? hvalue), hvalue] at hevaluate
  exact (Option.some.inj hevaluate).symm

theorem evaluate_eq_ok_iff (h : ofDescription d = .ok n) {x : List α} {output value : α}
    (houtput : d.output? x = some output) :
    n.evaluate x = .ok value ↔ value = output ∧ Scalar.isFinite output = true := by
  rw [evaluate_of_output? h houtput]
  split
  · rename_i hfinite
    simp [hfinite, eq_comm]
  · rename_i hinfinite
    simp [hinfinite]

theorem evaluate_eq_notFinite_iff (h : ofDescription d = .ok n) {x : List α} {output : α}
    (houtput : d.output? x = some output) :
    n.evaluate x = .error .notFinite ↔ Scalar.isFinite output = false := by
  rw [evaluate_of_output? h houtput]
  split
  · rename_i hfinite
    simp [hfinite]
  · rename_i hinfinite
    simp [hinfinite]

/-- Inputs are refused for their number exactly where it is another one. -/
theorem evaluate_eq_inputSize_iff (n : Network α) (x : List α) :
    (∃ expected found, n.evaluate x = .error (.inputSize expected found)) ↔
      x.length ≠ n.inputSize := by
  unfold evaluate
  by_cases hx : x.toArray.size = n.inputSize
  · have hlength : x.length = n.inputSize := hx
    rw [dif_pos hx]
    dsimp only
    split <;> simp [hlength]
  · have hlength : x.length ≠ n.inputSize := hx
    rw [dif_neg hx]
    simp [hlength]

end Network

end LateralTorque
