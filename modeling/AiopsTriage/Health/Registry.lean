import AiopsTriage.Lib.Dict

/-!
# Health registry

The status of each component that has reported one. A component that has not is healthy by
convention: silence is no degradation.
-/

namespace AiopsTriage

/-- `HealthStatus`. -/
inductive HealthStatus where
  /-- all is well -/
  | healthy
  /-- it works in part -/
  | degraded
  /-- it does not work -/
  | unavailable
  deriving DecidableEq, Repr

/-- `ComponentHealth`, as far as it is read. -/
structure ComponentHealth where
  /-- the status -/
  status : HealthStatus
  /-- why -/
  reason : Option String := none
  deriving DecidableEq, Repr

/-- `HealthRegistry`. -/
structure HealthRegistry where
  /-- `_components` -/
  components : Dict String ComponentHealth := .empty
  deriving DecidableEq

namespace HealthRegistry

/-- `update`. -/
def update (registry : HealthRegistry) (component : String) (status : HealthStatus)
    (reason : Option String := none) : HealthRegistry :=
  ⟨registry.components.set component { status, reason }⟩

/-- `get`. -/
def get (registry : HealthRegistry) (component : String) : Option HealthStatus :=
  (registry.components.get? component).map ComponentHealth.status

/-- The status of a component is the one it was updated to. -/
@[simp] theorem get_update (registry : HealthRegistry) (component other : String)
    (status : HealthStatus) (reason : Option String) :
    (registry.update component status reason).get other =
      if component = other then some status else registry.get other := by
  rw [get, update, Dict.get?_set]
  split
  · rfl
  · rfl

end HealthRegistry

end AiopsTriage
