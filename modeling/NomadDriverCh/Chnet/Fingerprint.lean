import NomadDriverCh.Chnet.Controller

/-!
# The controller's view of the bridge: `Fingerprint` and `bridgeExists`

`Fingerprint` reports the configured bridge to Nomad under two attributes named after it:
its name, and its state, which `getBridgeState` reads off the host's interfaces.  The state
is `active` exactly when the interfaces could be listed and the first one with the
bridge's name is up, and `inactive` in every other case (`getBridgeState_active_iff`).
Like every method of the controller that reads the network block,
it panics when there is none.

`bridgeExists`, the check `VMStartedBuild` makes before it touches the firewall, asks
`ip link show` about the bridge and never asks about an empty name.
-/

namespace NomadDriverCh.Chnet

def networkStateActive : GoString := lit "active"

def networkStateInactive : GoString := lit "inactive"

/-- A host interface as `net.Interfaces` lists it: its name and whether `FlagUp` is set. -/
structure HostInterface where
  name : GoString
  up : Bool
  deriving DecidableEq, Repr

/-- `getBridgeState`, given what `net.Interfaces` returned: the loop stops at the first
interface with the bridge's name. -/
def getBridgeState (interfaces : Except GoError (List HostInterface)) (bridgeName : GoString) :
    GoString :=
  match interfaces with
  | .error _ => networkStateInactive
  | .ok ifaces =>
    match ifaces.find? (·.name = bridgeName) with
    | some iface => if iface.up then networkStateActive else networkStateInactive
    | none => networkStateInactive

namespace Controller

/-- `Fingerprint`, given what `net.Interfaces` returned, with `keyPrefix` for
`net.FingerprintAttributeKeyPrefix` and each attribute as the string it holds. -/
def fingerprint (c : Controller) (interfaces : Except GoError (List HostInterface))
    (keyPrefix : GoString) (attr : GoMap GoString) : Except Panic (GoMap GoString) :=
  match c.networkConfig with
  | none => .error .nilDereference
  | some net =>
    let bridgeName := net.bridge
    let state := getBridgeState interfaces bridgeName
    .ok ((attr.set (keyPrefix ++ bridgeName ++ lit ".state") state).set
      (keyPrefix ++ bridgeName ++ lit ".bridge_name") bridgeName)

end Controller

/-- `bridgeExists`, given the error `ip link show <bridge>` ends with, if any. -/
def bridgeExists (linkShow : GoString → Option GoError) (bridgeName : GoString) : Bool :=
  if bridgeName = [] then false else (linkShow bridgeName).isNone

/-! ## What the controller reports -/

theorem getBridgeState_active_iff (interfaces : Except GoError (List HostInterface))
    (bridgeName : GoString) :
    getBridgeState interfaces bridgeName = networkStateActive ↔
      ∃ ifaces i, interfaces = .ok ifaces ∧ ifaces.find? (·.name = bridgeName) = some i ∧
        i.up = true := by
  have hne : networkStateInactive ≠ networkStateActive := by decide
  unfold getBridgeState
  split
  · simpa using hne
  next ifaces =>
    split
    next i hi =>
      cases hu : i.up
      · simpa [hi, hu] using hne
      · simp [hi, hu]
    next hi => simpa [hi] using hne

end NomadDriverCh.Chnet
