import AdminConsole.Backend

/-!
# Upgrades

After an upgrade is accepted the appliance restarts into the new version. The tracker counts the
attempts to reach it: the first status that can be read means that the new version is serving, and
after a fixed number of attempts the upgrade counts as failed. The tracker holds no timer.
-/

namespace AdminConsole

def maxUpgradeChecks : Nat := 20

def upgradeCheckInterval : Nat := 20000

inductive UpgradeState where
  | idle
  | upgrading (attempt : Nat)
  | completed
  | failed
deriving DecidableEq, Repr

structure UpgradeTracker where
  state : UpgradeState
  error : Option String
deriving DecidableEq, Repr

namespace UpgradeTracker

def idle : UpgradeTracker := ⟨.idle, none⟩

def isPolling (t : UpgradeTracker) : Bool :=
  match t.state with
  | .upgrading _ => true
  | _ => false

def started (_ : UpgradeTracker) : UpgradeTracker := ⟨.upgrading 1, none⟩

def startFailed (t : UpgradeTracker) (e : ApiError) : UpgradeTracker :=
  { t with error := some ("Error: " ++ e.message) }

/-- Counts one more attempt; the flag says whether to read the status for it. -/
def tick (t : UpgradeTracker) : Bool × UpgradeTracker :=
  match t.state with
  | .upgrading attempt =>
    if attempt + 1 ≥ maxUpgradeChecks then
      (false, ⟨.failed, some "Upgrade Failed. Check the logs on the instance"⟩)
    else (true, { t with state := .upgrading (attempt + 1) })
  | _ => (false, t)

def observe (t : UpgradeTracker) : Except ApiError UpgradeStatus → UpgradeTracker
  | .ok _ => if t.isPolling then { t with state := .completed } else t
  | .error _ => t

def remaining (t : UpgradeTracker) : Nat :=
  match t.state with
  | .upgrading attempt => maxUpgradeChecks - attempt
  | _ => 0

theorem remaining_tick_lt {t t' : UpgradeTracker} (h : t.tick = (true, t')) :
    t'.remaining < t.remaining := by
  simp only [tick] at h
  split at h
  · next attempt hs =>
    split at h
    · simp at h
    · obtain ⟨-, rfl⟩ := Prod.mk.inj h
      simp only [remaining, hs]
      omega
  · simp at h

def tickAll (t : UpgradeTracker) : Nat × UpgradeTracker :=
  match _h : t.tick with
  | (true, t') =>
    let (count, last) := tickAll t'
    (count + 1, last)
  | (false, t') => (0, t')
termination_by t.remaining
decreasing_by exact remaining_tick_lt ‹_›

def progress? (t : UpgradeTracker) : Option String :=
  match t.state with
  | .upgrading attempt =>
    some ("Upgrade in progress. Waiting for new version to become available (" ++
      toString attempt ++ "/" ++ toString maxUpgradeChecks ++ ")...")
  | _ => none

end UpgradeTracker

end AdminConsole
