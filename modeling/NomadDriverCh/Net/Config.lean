import NomadDriverCh.Foundation.GoString

/-!
# The task's network interface configuration

The `network_interface` block of a task: a list of pointers to interfaces, each with an
optional `bridge` block.  The HCL specification makes the bridge block optional and
requires its `name` attribute; `Validate` accepts at most one interface and a bridge
with a non-empty name.  Neither rules out an interface without a bridge.
-/

namespace NomadDriverCh.Net

structure NetworkInterfaceBridgeConfig where
  name : GoString
  ports : List GoString
  staticIP : GoString
  gateway : GoString
  netmask : GoString
  dns : List GoString
  deriving DecidableEq, Repr

structure NetworkInterfaceConfig where
  bridge : Option NetworkInterfaceBridgeConfig
  deriving DecidableEq, Repr

/-- `NetworkInterfacesConfig`: a slice of pointers, so an entry may be `nil`. -/
abbrev NetworkInterfacesConfig := List (Option NetworkInterfaceConfig)

/-- What decoding a task's `network_interface` blocks against `NetworkInterfaceHCLSpec`
yields: one decoded interface per block, none of them `nil`. -/
def HclDecoded (n : NetworkInterfacesConfig) : Prop := ∀ i ∈ n, i.isSome

def bridgeNameErrors : Nat → NetworkInterfacesConfig → Except Panic (List GoError)
  | _, [] => .ok []
  | _, none :: _ => .error .nilDereference
  | i, some ni :: rest =>
    (bridgeNameErrors (i + 1) rest).map fun errs =>
      match ni.bridge with
      | some b =>
        if b.name = [] then
          (lit "network interface bridge '" ++ itoa i ++ lit "' requires name parameter") :: errs
        else errs
      | none => errs

/-- `NetworkInterfacesConfig.Validate`, as the errors of its multierror (none: `nil`). -/
def validate : Option NetworkInterfacesConfig → Except Panic (List GoError)
  | none => .ok []
  | some n =>
    (bridgeNameErrors 0 n).map fun errs =>
      (if 1 < n.length then [lit "only one network interface can be configured"] else []) ++ errs

end NomadDriverCh.Net
