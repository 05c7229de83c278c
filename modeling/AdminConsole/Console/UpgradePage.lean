import AdminConsole.Console.Html
import AdminConsole.Upgrade

/-!
# The upgrade page

Shows the running version and starts an upgrade when there is a new one. While the appliance
restarts, a timer has the status read again until it answers or the attempts run out.
-/

namespace AdminConsole

/-- A value that is fetched again whenever what it depends on changes. Only one request is under way
at a time: changes in the meantime are answered by one more request when it is done. -/
structure Refetch where
  inFlight : Bool
  stale : Bool
deriving DecidableEq, Repr

namespace Refetch

def idle : Refetch := ⟨false, false⟩

def request (r : Refetch) : Bool × Refetch :=
  if r.inFlight then (false, { r with stale := true }) else (true, ⟨true, false⟩)

def answered (r : Refetch) : Bool × Refetch := (r.stale, ⟨r.stale, false⟩)

end Refetch

structure UpgradePage where
  status : Option (Except ApiError UpgradeStatus)
  reading : Refetch
  tracker : UpgradeTracker
  timer : Bool

namespace UpgradePage

def opened : UpgradePage := ⟨none, Refetch.idle.request.2, .idle, false⟩

/-- Takes over a tracker and starts or stops the timer for it. The browser may have no timers. -/
def track (p : UpgradePage) (canTime : Bool) (tracker : UpgradeTracker) : UpgradePage :=
  { p with tracker := tracker, timer := tracker.isPolling && (p.timer || canTime) }

def observe (p : UpgradePage) (canTime : Bool) (status : Except ApiError UpgradeStatus) :
    UpgradePage :=
  { p with status := some status }.track canTime (p.tracker.observe status)

def ordered (p : UpgradePage) (canTime : Bool) : Except ApiError Unit → UpgradePage
  | .ok () => p.track canTime p.tracker.started
  | .error e => p.track canTime (p.tracker.startFailed e)

open Html (el)

def statusView (status : UpgradeStatus) : View :=
  [el "p" [] [.text "Current version: ", .text status.currentVersion]] ++
    if status.newVersionAvailable then
      [el "p" [] [.text "New version available: ", .text status.newVersion],
        .element "button" [] (some .startUpgrade) [.text "Upgrade now"]]
    else [el "p" [] [.text "You are running the latest version."]]

def view (p : UpgradePage) : View :=
  let status :=
    if p.tracker.isPolling then []
    else
      View.ofOption p.status fun
        | .error e => [.text ("Could not load upgrade status: " ++ e.message)]
        | .ok status => statusView status
  let progress := View.ofOption p.tracker.progress? fun message =>
    [el "p" [("class", "progress")] [.text message]]
  let error := View.ofOption p.tracker.error fun message =>
    [el "p" [("class", "alert alert-error")] [.text message]]
  let success := View.when (p.tracker.state = .completed)
    [el "p" [("class", "alert alert-success")] [.text "Upgrade completed"]]
  [el "div" [("class", "upgrade-page")]
    ([el "h1" [] [.text "Upgrade"]] ++ status ++ progress ++ error ++ success)]

end UpgradePage

end AdminConsole
