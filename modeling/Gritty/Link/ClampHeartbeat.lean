import Mathlib.Tactic

/-! The heartbeat settings a client runs with, from the ones its user configured. -/

namespace Gritty

/-- Seconds without a frame after which the server lets go of a client. -/
def idleEvictTimeoutSecs : Nat := 90

/-- Seconds of this window that are left for frames on their way. -/
def idleEvictSafetyMarginSecs : Nat := 10

/-- Upper bound on the interval and the timeout together. -/
def idleEvictCeilingSecs : Nat := idleEvictTimeoutSecs - idleEvictSafetyMarginSecs

/-- The configured interval, within what leaves room for a timeout above it. -/
def clampInterval (rawInterval : Nat) : Nat :=
  max 1 (min rawInterval (max ((idleEvictCeilingSecs - 1) / 2) 1))

/-- The configured timeout, above the interval. -/
def raiseTimeout (interval rawTimeout : Nat) : Nat :=
  if rawTimeout ≤ interval then interval + 1 else rawTimeout

/-- The interval, the timeout, and warnings about what was changed. -/
def clampHeartbeat (rawInterval rawTimeout : Nat) : Nat × Nat × List String :=
  let interval := clampInterval rawInterval
  let timeout := raiseTimeout interval rawTimeout
  let maxTimeout := idleEvictCeilingSecs - interval
  let least := interval + 1
  let evict := idleEvictTimeoutSecs
  let warnings :=
    (if interval ≠ rawInterval then
      [s!"heartbeat-interval clamped to {interval}s (was {rawInterval}s)"] else []) ++
    (if rawTimeout ≤ interval then
      [s!"heartbeat-timeout ({rawTimeout}s) must exceed heartbeat-interval ({interval}s); " ++
        s!"clamped to {least}s"] else []) ++
    (if maxTimeout < timeout then
      [s!"heartbeat-interval ({interval}s) + heartbeat-timeout ({timeout}s) exceeds server " ++
        s!"idle-evict ({evict}s); timeout clamped to {maxTimeout}s"] else [])
  (interval, if maxTimeout < timeout then maxTimeout else timeout, warnings)

/-- The clamped pair keeps the three bounds, whatever was configured. -/
theorem clampHeartbeat_bounds (rawInterval rawTimeout : Nat) :
    1 ≤ (clampHeartbeat rawInterval rawTimeout).1 ∧
      (clampHeartbeat rawInterval rawTimeout).1 < (clampHeartbeat rawInterval rawTimeout).2.1 ∧
      (clampHeartbeat rawInterval rawTimeout).1 + (clampHeartbeat rawInterval rawTimeout).2.1 ≤
        idleEvictCeilingSecs := by
  have ceiling : idleEvictCeilingSecs = 80 := rfl
  simp only [clampHeartbeat]
  -- The cap on the interval leaves more than the interval itself for the timeout.
  have interval : 1 ≤ clampInterval rawInterval ∧ clampInterval rawInterval ≤ 39 := by
    unfold clampInterval
    omega
  have raised : clampInterval rawInterval < raiseTimeout (clampInterval rawInterval) rawTimeout := by
    unfold raiseTimeout
    split <;> omega
  split <;> omega

/-- Heartbeat settings that the client and the server can rely on, in seconds. -/
structure Heartbeat where
  interval : Nat
  timeout : Nat
  positive : 1 ≤ interval
  exceeds : interval < timeout
  bounded : interval + timeout ≤ idleEvictCeilingSecs
  deriving DecidableEq

/-- The settings resolved from a configuration. -/
def resolveHeartbeat (rawInterval rawTimeout : Nat) : Heartbeat where
  interval := (clampHeartbeat rawInterval rawTimeout).1
  timeout := (clampHeartbeat rawInterval rawTimeout).2.1
  positive := (clampHeartbeat_bounds rawInterval rawTimeout).1
  exceeds := (clampHeartbeat_bounds rawInterval rawTimeout).2.1
  bounded := (clampHeartbeat_bounds rawInterval rawTimeout).2.2

end Gritty
