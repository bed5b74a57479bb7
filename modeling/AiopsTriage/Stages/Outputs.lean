import AiopsTriage.Contracts
import AiopsTriage.Topology.Resolver

/-!
# What the first stages hand over

The evidence stage hands over its rows and, scope by scope, the findings for the gates
and the status of each piece of evidence; the peak stage, whether it is peak time and
whether an anomaly is sustained. The later stages take both as they are, so nothing
below depends on how they were computed.
-/

namespace AiopsTriage

/-- The value of a finite float. -/
def finiteValue : PyFloat → Option ℚ
  | .finite q => some q
  | _ => none

theorem isSome_finiteValue {x : PyFloat} : (finiteValue x).isSome = x.isFinite := by
  cases x <;> rfl

/-- `EvidenceRow`. -/
structure EvidenceRow where
  /-- the metric -/
  metricKey : String
  /-- its value -/
  value : PyFloat
  /-- its labels -/
  labels : Dict String String
  /-- the scope it belongs to -/
  scope : Scope
  deriving DecidableEq

/-- `EvidenceStageOutput`. -/
structure EvidenceStageOutput where
  /-- the normalized rows -/
  rows : List EvidenceRow
  /-- the findings for the gates -/
  gateFindingsByScope : Dict Scope (List Finding)
  /-- the status of each piece of evidence -/
  evidenceStatusMapByScope : Dict Scope (Dict String EvidenceStatus) := .empty
  /-- whether the whole telemetry is down -/
  telemetryDegradedActive : Bool := false
  /-- the most urgent action that is safe then -/
  maxSafeAction : Option Action := none

/-- `PeakState`. -/
inductive PeakState where
  /-- `PEAK` -/
  | peak
  /-- `NEAR_PEAK` -/
  | nearPeak
  /-- `OFF_PEAK` -/
  | offPeak
  /-- `UNKNOWN` -/
  | unknown
  deriving DecidableEq, Repr

instance : StrEnum PeakState where
  members := [.peak, .nearPeak, .offPeak, .unknown]
  value
    | .peak => "PEAK"
    | .nearPeak => "NEAR_PEAK"
    | .offPeak => "OFF_PEAK"
    | .unknown => "UNKNOWN"
  complete a := by cases a <;> decide
  injective a b := by cases a <;> cases b <;> decide

/-- `PeakWindowContext`. -/
structure PeakWindowContext where
  /-- the classification -/
  classification : PeakState
  /-- whether it is peak time -/
  isPeakWindow : Bool
  /-- whether it is almost -/
  isNearPeakWindow : Bool
  /-- how sure that is -/
  confidence : PyFloat
  /-- why -/
  reasonCodes : List String
  deriving DecidableEq, Repr

/-- `SustainedStatus`, as far as the gates read it. -/
structure SustainedStatus where
  /-- whether the anomaly lasted long enough -/
  isSustained : Bool
  deriving DecidableEq, Repr

/-- `PeakStageOutput`. -/
structure PeakStageOutput where
  /-- peak contexts by environment, cluster and topic -/
  peakContextByScope : Dict Scope PeakWindowContext := .empty
  /-- sustained statuses by identity key -/
  sustainedByKey : Dict (List String) SustainedStatus := .empty

end AiopsTriage
