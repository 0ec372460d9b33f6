import NomadDriverCh.Cloudhypervisor.Driver

/-!
# Device passthrough: `addVFIODevices`

`addVFIODevices` runs the VFIO manager's steps over the task's device list: validate the
devices against the allowlist, check their IOMMU groups, bind them to `vfio-pci`, resolve
their group paths, then add one passthrough device per group path to the VM
configuration and fill in the platform's IOMMU fields.  The only cleanup it does is to
hand the devices to `UnbindDevices` when the group paths cannot be resolved.

The VFIO manager's code is not in the repository.  Its queries are answers of the host
(`VFIOHost`), and binding and unbinding follow the spec: binding writes each device not
already bound to the passthrough driver, stopping at the first failed write; unbinding
skips the devices not bound to it.
-/

namespace NomadDriverCh.Cloudhypervisor

open Domain

def vfioPCI : GoString := lit "vfio-pci"

/-- Modelled from the spec: the host's PCI devices as the VFIO manager sees them, the
driver each device is bound to (empty for none), and the device lists handed to
`UnbindDevices`, oldest first. -/
structure PciHost where
  boundDriver : GoString → GoString
  unbindRequests : List (List GoString)

/-- Modelled from the spec: what the host answers to `ValidateDevices`,
`CheckIOMMUGroups` and `GetVFIOGroupPaths`, and how a write of a device to the
`vfio-pci` bind path ends. -/
structure VFIOHost where
  validateDevices : List GoString → List GoString → Except GoError Unit
  checkIOMMUGroups : List GoString → Except GoError Unit
  bindWrite : GoString → Except GoError Unit
  getVFIOGroupPaths : List GoString → Except GoError (List GoString)

namespace PciHost

def bind (host : PciHost) (dev : GoString) : PciHost :=
  { host with boundDriver := Function.update host.boundDriver dev vfioPCI }

/-- Modelled from the spec: `BindDevices` writes each device not bound to `vfio-pci` to the
driver's bind path, in order, and returns the first failed write's error, with the
devices before it left bound. -/
def bindDevices (write : GoString → Except GoError Unit) :
    PciHost → List GoString → PciHost × Except GoError Unit
  | host, [] => (host, .ok ())
  | host, dev :: devs =>
    if host.boundDriver dev = vfioPCI then bindDevices write host devs
    else
      match write dev with
      | .error e => (host, .error e)
      | .ok () => bindDevices write (host.bind dev) devs

/-- Modelled from the spec: `UnbindDevices` writes each listed device bound to `vfio-pci`
to the driver's unbind path and skips the others. -/
def unbindDevices (host : PciHost) (devices : List GoString) : PciHost where
  boundDriver dev :=
    if dev ∈ devices ∧ host.boundDriver dev = vfioPCI then [] else host.boundDriver dev
  unbindRequests := host.unbindRequests ++ [devices]

@[simp] theorem bind_unbindRequests (host : PciHost) (dev : GoString) :
    (host.bind dev).unbindRequests = host.unbindRequests := rfl

@[simp] theorem bindDevices_unbindRequests (write : GoString → Except GoError Unit)
    (host : PciHost) (devs : List GoString) :
    (bindDevices write host devs).1.unbindRequests = host.unbindRequests := by
  induction devs generalizing host with
  | nil => rfl
  | cons dev devs ih =>
    simp only [bindDevices]
    split_ifs
    · exact ih host
    · cases write dev <;> simp [ih]

end PciHost

namespace Driver

def vfioAllowlist (d : Driver) : List GoString :=
  match d.vfioConfig with
  | some v => if v.allowlist ≠ [] then v.allowlist else []
  | none => []

/-- Step 5: the platform's unset IOMMU fields, from the driver's VFIO block or the
defaults. -/
def vfioPlatform (d : Driver) (p : Option PlatformConfig) : PlatformConfig :=
  let p := p.getD ⟨0, [], 0⟩
  { numPCISegments :=
      if p.numPCISegments = 0 then
        match d.vfioConfig with
        | some v => if 0 < v.pciSegments then v.pciSegments else 1
        | none => 1
      else p.numPCISegments
    iommuSegments := if p.iommuSegments = [] then [0] else p.iommuSegments
    iommuAddressWidth :=
      if p.iommuAddressWidth = 0 then
        match d.vfioConfig with
        | some v => if 0 < v.iommuAddressWidth then v.iommuAddressWidth else 48
        | none => 48
      else p.iommuAddressWidth }

/-- Step 6: one passthrough device per group path, numbered from `vfio-0`. -/
def vfioDeviceConfigs (groupPaths : List GoString) : List DeviceConfig :=
  groupPaths.enum.map fun (i, path) => ⟨path, lit "vfio-" ++ itoa i, true, 0⟩

def addVFIODevices (d : Driver) (vfio : VFIOHost) (host : PciHost) (config : Config)
    (vmConfig : VMConfig) : PciHost × Except GoError VMConfig :=
  let devices := config.vfioDevices
  if devices = [] then (host, .ok vmConfig)
  else
    match vfio.validateDevices devices d.vfioAllowlist with
    | .error e => (host, .error (lit "VFIO device validation failed: " ++ e))
    | .ok () =>
      match vfio.checkIOMMUGroups devices with
      | .error e => (host, .error (lit "failed to check IOMMU groups: " ++ e))
      | .ok () =>
        match host.bindDevices vfio.bindWrite devices with
        | (host, .error e) => (host, .error (lit "failed to bind VFIO devices: " ++ e))
        | (host, .ok ()) =>
          match vfio.getVFIOGroupPaths devices with
          | .error e =>
            (host.unbindDevices devices, .error (lit "failed to get VFIO group paths: " ++ e))
          | .ok groupPaths =>
            (host, .ok { platform := some (d.vfioPlatform vmConfig.platform)
                         devices := vmConfig.devices ++ vfioDeviceConfigs groupPaths })

variable {d : Driver} {vfio : VFIOHost} {host : PciHost} {config : Config} {vmConfig : VMConfig}

theorem addVFIODevices_unbindRequests {host' : PciHost} {res : Except GoError VMConfig}
    (h : d.addVFIODevices vfio host config vmConfig = (host', res)) :
    host'.unbindRequests = host.unbindRequests ∨
      (host'.unbindRequests = host.unbindRequests ++ [config.vfioDevices] ∧
        ∃ e, res = .error (lit "failed to get VFIO group paths: " ++ e)) := by
  have hb := PciHost.bindDevices_unbindRequests vfio.bindWrite host config.vfioDevices
  revert hb h
  simp only [addVFIODevices]
  generalize PciHost.bindDevices vfio.bindWrite host config.vfioDevices = b
  intro h hb
  repeat' split at h
  all_goals cases h; simp_all [PciHost.unbindDevices]

end Driver

end NomadDriverCh.Cloudhypervisor
