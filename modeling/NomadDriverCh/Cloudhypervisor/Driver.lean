import NomadDriverCh.Netip.Text
import NomadDriverCh.Cloudhypervisor.EnvFile

/-!
# The Cloud Hypervisor driver's state

`Driver` holds the fields of the driver that its lifecycle operations read and write: the
network and VFIO configuration, the registry of running VMs by name, the map of allocated
address texts, and the subnet, gateway and pool bounds parsed from the configuration.
The registry and the allocation map change only through `mark`, `deallocateIP`,
`register` and `unregister`.

Of `VMConfig` the model keeps what `addVFIODevices` reads and writes: the rest is
assembled by `buildVMConfig`, whose code is not in the repository.
-/

namespace NomadDriverCh.Cloudhypervisor

open Netip Domain

structure PlatformConfig where
  numPCISegments : Nat
  iommuSegments : List Nat
  iommuAddressWidth : Nat
  deriving DecidableEq, Repr

structure DeviceConfig where
  path : GoString
  id : GoString
  iommu : Bool
  pciSegment : Nat
  deriving DecidableEq, Repr

structure VMConfig where
  platform : Option PlatformConfig
  devices : List DeviceConfig
  deriving DecidableEq, Repr

/-- `VMProcess`, with the fields `CreateDomain` fills in and the registry's operations
read.  The process id and file paths belong to collaborators whose code is not in the
repository. -/
structure VMProcess where
  name : GoString
  ip : GoString
  tapName : GoString
  mac : GoString
  config : Option VMConfig
  deriving DecidableEq, Repr

structure Driver where
  networkConfig : Option Network
  vfioConfig : Option VFIO
  processes : GoMap VMProcess
  allocatedIPs : GoMap Bool
  ipPoolStart : Addr
  ipPoolEnd : Addr
  subnet : Prefix
  gatewayIP : Addr
  deriving DecidableEq

namespace Driver

def mark (d : Driver) (ip : GoString) : Driver :=
  { d with allocatedIPs := d.allocatedIPs.set ip true }

def deallocateIP (d : Driver) (ip : GoString) : Driver :=
  { d with allocatedIPs := d.allocatedIPs.delete ip }

def register (d : Driver) (name : GoString) (proc : VMProcess) : Driver :=
  { d with processes := d.processes.set name proc }

def unregister (d : Driver) (name : GoString) : Driver :=
  { d with processes := d.processes.delete name }

@[simp] theorem mark_processes (d : Driver) (ip : GoString) :
    (d.mark ip).processes = d.processes := rfl

@[simp] theorem mark_allocatedIPs (d : Driver) (ip : GoString) :
    (d.mark ip).allocatedIPs = d.allocatedIPs.set ip true := rfl

@[simp] theorem deallocateIP_processes (d : Driver) (ip : GoString) :
    (d.deallocateIP ip).processes = d.processes := rfl

@[simp] theorem deallocateIP_allocatedIPs (d : Driver) (ip : GoString) :
    (d.deallocateIP ip).allocatedIPs = d.allocatedIPs.delete ip := rfl

@[simp] theorem register_processes (d : Driver) (name : GoString) (proc : VMProcess) :
    (d.register name proc).processes = d.processes.set name proc := rfl

@[simp] theorem register_allocatedIPs (d : Driver) (name : GoString) (proc : VMProcess) :
    (d.register name proc).allocatedIPs = d.allocatedIPs := rfl

@[simp] theorem unregister_processes (d : Driver) (name : GoString) :
    (d.unregister name).processes = d.processes.delete name := rfl

@[simp] theorem unregister_allocatedIPs (d : Driver) (name : GoString) :
    (d.unregister name).allocatedIPs = d.allocatedIPs := rfl

theorem deallocateIP_mark {d : Driver} {ip : GoString} (h : ip ∉ d.allocatedIPs) :
    (d.mark ip).deallocateIP ip = d := by
  cases d
  simp only [mark, deallocateIP, GoMap.delete_set_of_not_mem h]

end Driver

end NomadDriverCh.Cloudhypervisor
