import NomadDriverCh.Net.Config

/-!
# The driver's shared records

The `domain` package holds the records the driver's packages pass each other: a file
delivered to the guest, the driver's network and device passthrough blocks, and the
task's domain.  The package is not in the repository; each record is modelled with the
fields the driver reads and writes.
-/

namespace NomadDriverCh.Domain

structure File where
  path : GoString
  permissions : GoString
  encoding : GoString
  content : GoString
  deriving DecidableEq, Repr

structure Network where
  bridge : GoString
  subnetCIDR : GoString
  ipPoolStart : GoString
  ipPoolEnd : GoString
  gateway : GoString
  tapPrefix : GoString
  deriving DecidableEq, Repr

structure VFIO where
  allowlist : List GoString
  pciSegments : Nat
  iommuAddressWidth : Nat
  deriving DecidableEq, Repr

structure Config where
  name : GoString
  networkInterfaces : Net.NetworkInterfacesConfig
  files : List File
  vfioDevices : List GoString
  deriving DecidableEq, Repr

end NomadDriverCh.Domain
