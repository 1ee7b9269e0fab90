import LateralTorque.Machine
import LateralTorque.Main
import LateralTorque.Proofs.Double
import LateralTorque.Proofs.Exact
import LateralTorque.Proofs.Fallback
import LateralTorque.Proofs.OutputBound
import LateralTorque.Proofs.Overrides
import LateralTorque.Proofs.Run
import LateralTorque.Proofs.Mirror
import LateralTorque.Proofs.MirrorRun
import LateralTorque.Proofs.Fault
import LateralTorque.Proofs.Idle
import LateralTorque.Proofs.Reset
import LateralTorque.Proofs.Curve
import LateralTorque.Proofs.Windup
import LateralTorque.Proofs.Product
import LateralTorque.Proofs.UsableTuning
import LateralTorque.Proofs.History
import LateralTorque.Proofs.PastFeatures
import LateralTorque.Proofs.Recording
import LateralTorque.Proofs.Extended
import LateralTorque.Proofs.Recovery
import LateralTorque.Proofs.Independence
import LateralTorque.Proofs.Smoothing
import LateralTorque.Proofs.PlantBound
import LateralTorque.Proofs.Guarded
import LateralTorque.Proofs.Divisors
import LateralTorque.Proofs.GuardedRun
import LateralTorque.Proofs.DelayRange
import LateralTorque.Proofs.Horizon
import LateralTorque.Proofs.NestedNetwork
import LateralTorque.Proofs.NetworkRun
import LateralTorque.Proofs.NaN
import LateralTorque.Proofs.UnseenNaN
import LateralTorque.Proofs.Breakpoints
import LateralTorque.Proofs.CurveOrder
import LateralTorque.Proofs.PlanLocality
import LateralTorque.Proofs.FeatureLayout
import LateralTorque.Proofs.SensedPlant
import LateralTorque.Proofs.Restart
import LateralTorque.Proofs.SaturationTimeout
import LateralTorque.Proofs.DerivativeTerm
import LateralTorque.Proofs.LinearLaw
import LateralTorque.Proofs.LowSpeedFactor
import LateralTorque.Proofs.SessionStart
import LateralTorque.Proofs.BoundedQueue
import LateralTorque.Proofs.PersistentValue
import LateralTorque.Proofs.FadingMemory
