import NomadDriverCh.Foundation.GoString
import NomadDriverCh.Foundation.Base64
import NomadDriverCh.Foundation.Runes
import NomadDriverCh.Netip.Addr
import NomadDriverCh.Netip.Text
import NomadDriverCh.Mac
import NomadDriverCh.Net.Config
import NomadDriverCh.Cloudhypervisor.EnvFile
import NomadDriverCh.Cloudhypervisor.Driver
import NomadDriverCh.Cloudhypervisor.Network
import NomadDriverCh.Cloudhypervisor.Vfio
import NomadDriverCh.Cloudhypervisor.Handoff
import NomadDriverCh.Cloudhypervisor.Lifecycle
import NomadDriverCh.Cloudhypervisor.Addresses
import NomadDriverCh.Cloudhypervisor.Inspect
import NomadDriverCh.Cloudhypervisor.Start
import NomadDriverCh.Domain
import NomadDriverCh.Chnet.IPTables
import NomadDriverCh.Chnet.Setup
import NomadDriverCh.Chnet.PortMapping
import NomadDriverCh.Chnet.InterfaceCache
import NomadDriverCh.Chnet.Teardown
import NomadDriverCh.Chnet.Controller
import NomadDriverCh.Chnet.Runs
import NomadDriverCh.Chnet.Fingerprint
import NomadDriverCh.Chnet.Lease
import NomadDriverCh.Chnet.HostLookup
import NomadDriverCh.Virt.ImageTools
import NomadDriverCh.Bridge
