import NomadDriverCh.Chnet.Controller
import NomadDriverCh.Chnet.InterfaceCache
import NomadDriverCh.Netip.Text

/-!
# The host lookup `getInterfaceByIP` and the rules a build forwards

`NewController` installs `getInterfaceByIP` as the controller's `interfaceByIPGetter`, and
`configureIPTables` calls it on `net.ParseIP` of a reserved port's host IP.  It lists the
host's interfaces and returns the name of the first one, in the order `net.Interfaces`
gives them, that lists an address `net.ParseCIDR` reads as that IP; an interface whose
addresses cannot be listed, and an address that does not parse, are skipped.  IPs are
compared as `IP.Equal` compares them, as sixteen bytes, so an IPv4 address equals its
IPv4-mapped IPv6 form, and the `nil` IP of a host IP `ParseIP` rejects equals none of them:
its lookup fails with a message that prints it as `<nil>`.

The package is the standard `net`, which the controller imports as `stdnet`; its parsers
are modelled as Go 1.22 writes them, over `netip.ParseAddr`.  The model reads the host's
interfaces once per controller, where the code lists them again at every lookup.

When the port loop runs to the end, the rules it returns are, for each label of the
bridge that names a reserved port, in order, the DNAT rule from the interface the getter
gives and the accept rule (`portLoop_rules`).  With the controller `NewController`
builds, a build's teardown spec therefore forwards every reserved port from the first host
interface carrying its host IP, and there is such an interface for each of them
(`vmStartedBuild_forwards_from_host`).
-/

namespace NomadDriverCh.Stdnet

open Netip

/-- `netip.Addr.As16`, as a number: an IPv4 address in its IPv4-mapped form. -/
def as16 : Addr → Nat
  | .invalid => 0
  | .v4 a => 0xffff * 2 ^ 32 + a.val
  | .v6 a _ => a.val

/-- `ParseIP`: the sixteen bytes of an address `netip.ParseAddr` reads without a zone,
as a number, and `nil` otherwise. -/
def parseIP (s : GoString) : Option Nat :=
  (parseAddr s).bind fun a => if a.zone = [] then some (as16 a) else none

/-- `dtoi` read to the end of its text: one decimal digit or more and nothing else, below
the cut-off `0xFFFFFF`.  The value only grows digit by digit, so testing the last one is
testing each. -/
def dtoi (s : GoString) : Option Nat :=
  if s = [] then none
  else (digitsValue s 0).bind fun n => if n < 0xFFFFFF then some n else none

/-- The IP `ParseCIDR` returns: the address before the first `/`, without a zone, as its
sixteen bytes, when the prefix length after it is at most the address's bit length. -/
def parseCIDR (s : GoString) : Option Nat :=
  match splitFirst 47 s with
  | none => none
  | some (addrText, mask) =>
    match parseAddr addrText with
    | none => none
    | some a =>
      if a.zone ≠ [] then none
      else
        match dtoi mask with
        | some n => if n ≤ a.bitLen then some (as16 a) else none
        | none => none

/-- `IP.String` of `nil` or of sixteen bytes: the dotted quad of an IPv4-mapped address,
the IPv6 text otherwise. -/
def ipString : Option Nat → GoString
  | none => lit "<nil>"
  | some n => if is4In6 n then string4 (n % 2 ^ 32) else string6 n []

/-- `net.Interface` as `getInterfaceByIP` reads it: its name, and what `Addrs` returned,
each address as its `String` text. -/
structure Interface where
  name : GoString
  addrs : Except GoError (List GoString)
  deriving DecidableEq, Repr

/-- The interface lists an address whose IP equals `ip`: `iip.Equal(ip)`, for the
sixteen bytes `iip` of an address `ParseCIDR` reads. -/
def Interface.holds (ip : Option Nat) (iface : Interface) : Bool :=
  match iface.addrs with
  | .ok addrs => addrs.any fun addr => (parseCIDR addr).any fun iip => ip == some iip
  | .error _ => false

def getInterfaceByIP (interfaces : Except GoError (List Interface)) (ip : Option Nat) :
    Except GoError GoString :=
  match interfaces with
  | .error err => .error err
  | .ok ifaces =>
    match ifaces.find? (·.holds ip) with
    | some iface => .ok iface.name
    | none => .error (lit "failed to find interface for IP " ++ quote (ipString ip))

theorem getInterfaceByIP_toOption (ifaces : List Interface) (ip : Option Nat) :
    (getInterfaceByIP (.ok ifaces) ip).toOption = (ifaces.find? (·.holds ip)).map (·.name) := by
  rcases hf : ifaces.find? (·.holds ip) with _ | iface <;>
    simp [getInterfaceByIP, hf, Except.toOption]

theorem getInterfaceByIP_ok_iff {ifaces : List Interface} {ip : Option Nat} :
    (∃ name, getInterfaceByIP (.ok ifaces) ip = .ok name) ↔ ∃ iface ∈ ifaces, iface.holds ip := by
  rcases hf : ifaces.find? (·.holds ip) with _ | iface <;> simp only [getInterfaceByIP, hf]
  · simp only [reduceCtorEq, exists_false, false_iff, not_exists, not_and]
    exact fun iface hi hh => List.find?_eq_none.mp hf iface hi hh
  · exact ⟨fun _ => ⟨iface, List.mem_of_find?_eq_some hf, List.find?_some hf⟩,
      fun _ => ⟨_, rfl⟩⟩

end NomadDriverCh.Stdnet

namespace NomadDriverCh.Chnet

open Net Stdnet

/-- `NewController`: the driver's network block, and `getInterfaceByIP` over the host's
interfaces as the lookup, applied as `configureIPTables` applies it to `ParseIP` of the
host IP. -/
def newController (networkConfig : Option Domain.Network)
    (interfaces : Except GoError (List Interface)) : Controller :=
  ⟨networkConfig, fun hostIP => getInterfaceByIP interfaces (parseIP hostIP)⟩

/-- The reserved ports of a bridge's port labels, in the labels' order, a label the
allocation does not reserve skipped. -/
def reservedPorts (ps : List AllocatedPortMapping) (labels : List GoString) :
    List AllocatedPortMapping :=
  labels.filterMap (getPort ps)

theorem portLoop_rules {getter : GoString → Except GoError GoString}
    {ports : Option (List AllocatedPortMapping)} {ip : GoString} {labels : List GoString}
    {s : GoMap GoString × List GoString} {teardown appends R : List RuleSpec} {h : Host}
    {outs : List Outcome} {r : PortRun (GoMap GoString × List GoString)}
    (hc : CacheAgrees getter s.1)
    (hl : portLoop (cachedLookup getter) ports ip labels s teardown appends h outs = .ok r)
    (hR : r.result = .ok R) :
    (∀ rp ∈ reservedPorts (ports.getD []) labels, ∃ iface, getter rp.hostIP = .ok iface) ∧
      R = teardown ++ (reservedPorts (ports.getD []) labels).flatMap fun rp =>
        forwardRules ip ((getter rp.hostIP).toOption.getD []) rp := by
  induction labels generalizing s teardown appends h outs with
  | nil =>
    cases hl
    cases hR
    simp [reservedPorts]
  | cons label labels ih =>
    rcases ports with _ | ps
    · cases hl
    rcases hg : getPort ps label with _ | rp
    · simpa [reservedPorts, hg] using ih hc (portLoop_cons_unreserved hg ▸ hl)
    rcases portLoop_cons_reserved (cachedLookup getter) ip labels s teardown appends h outs hg
      with ⟨s', e, -, he⟩ | ⟨s', iface, hk, ⟨e, he⟩ | ⟨e, he⟩ | he⟩ <;> rw [he] at hl <;>
      try (cases hl; cases hR)
    obtain ⟨hg', hc'⟩ := cachedLookup_agrees hc rp.hostIP
    rw [hk] at hg' hc'
    obtain ⟨hall, hR'⟩ := ih (hc' iface rfl) hl
    simp only [reservedPorts, Option.getD_some, List.filterMap_cons, hg, List.mem_cons,
      forall_eq_or_imp, List.flatMap_cons] at hall hR' ⊢
    exact ⟨⟨⟨iface, hg'.symm⟩, hall⟩, by simp [hR', ← hg', Except.toOption]⟩

theorem configureIPTables_rules {getter : GoString → Except GoError GoString} {res : Resources}
    {cfg : Option NetworkInterfaceBridgeConfig} {ip : GoString} {R : List RuleSpec}
    {h h' : Host} {outs : List Outcome}
    (hc : configureIPTables getter (.ok ()) res cfg ip h outs = .ok (h', .ok R)) :
    ∃ b, cfg = some b ∧
      (∀ rp ∈ reservedPorts (res.ports.getD []) b.ports, ∃ iface, getter rp.hostIP = .ok iface) ∧
      R = (reservedPorts (res.ports.getD []) b.ports).flatMap fun rp =>
        forwardRules ip ((getter rp.hostIP).toOption.getD []) rp := by
  obtain ⟨run, hrun, hf⟩ := (map_eq_ok_iff _ _ _).mp hc
  rcases cfg with _ | b
  · cases hrun
  obtain ⟨hall, hR⟩ := portLoop_rules (by exact fun _ _ h => nomatch h) hrun (congrArg Prod.snd hf)
  exact ⟨b, rfl, hall, by rw [hR, List.nil_append]⟩

theorem vmStartedBuild_configured {c : Controller} {bridgeExists : GoString → Bool}
    {iptNew : Except GoError Unit} {req : VMStartedBuildRequest} {h h' : Host}
    {outs : List Outcome} {resp : VMStartedBuildResponse} {spec : TeardownSpec}
    (hv : c.vmStartedBuild bridgeExists iptNew (some req) h outs = .ok (h', .ok resp))
    (hs : resp.teardownSpec = some spec) :
    ∃ ni rest res ip, req.netConfig = some (some ni :: rest) ∧ req.resources = some res ∧
      resp.driverNetwork = some ⟨ip⟩ ∧
      configureIPTables c.interfaceByIPGetter iptNew res ni.bridge ip h outs =
        .ok (h', .ok spec.iptablesRules) := by
  rcases Controller.vmStartedBuild_cases hv with
    ⟨-, hr⟩ | ⟨q, ni, rest, res, ip, r₂, hq, hnc, hres, hc, hspec⟩
  · simp [hr resp rfl] at hs
  cases hq
  obtain ⟨hip, rfl⟩ := hspec resp spec rfl hs
  exact ⟨ni, rest, res, ip, hnc, hres, hip, hc⟩

/-- With the controller `NewController` builds on the host's interfaces and iptables
available, a build that returns a teardown spec reports the guest address `ip`, and the
spec's rules forward each port the bridge names and the allocation reserves, in order, from
the first host interface listing an address with the port's host IP to the guest; every
such port has one. -/
theorem vmStartedBuild_forwards_from_host {n : Option Domain.Network} {ifaces : List Interface}
    {bridgeExists : GoString → Bool} {req : VMStartedBuildRequest} {h h' : Host}
    {outs : List Outcome} {resp : VMStartedBuildResponse} {spec : TeardownSpec}
    (hv : (newController n (.ok ifaces)).vmStartedBuild bridgeExists (.ok ()) (some req) h outs =
      .ok (h', .ok resp))
    (hs : resp.teardownSpec = some spec) :
    ∃ ni rest res b ip, req.netConfig = some (some ni :: rest) ∧ req.resources = some res ∧
      ni.bridge = some b ∧ resp.driverNetwork = some ⟨ip⟩ ∧
      (∀ rp ∈ reservedPorts (res.ports.getD []) b.ports,
        ∃ iface ∈ ifaces, iface.holds (parseIP rp.hostIP)) ∧
      spec.iptablesRules = (reservedPorts (res.ports.getD []) b.ports).flatMap fun rp =>
        forwardRules ip (((ifaces.find? (·.holds (parseIP rp.hostIP))).map (·.name)).getD [])
          rp := by
  obtain ⟨ni, rest, res, ip, hnc, hres, hip, hc⟩ := vmStartedBuild_configured hv hs
  obtain ⟨b, hb, hall, hR⟩ := configureIPTables_rules hc
  refine ⟨ni, rest, res, b, ip, hnc, hres, hb, hip, fun rp hrp => ?_, ?_⟩
  · exact getInterfaceByIP_ok_iff.mp (hall rp hrp)
  · simpa only [newController, getInterfaceByIP_toOption] using hR

def twoHomedInterfaces : List Interface :=
  [⟨lit "lo", .ok [lit "127.0.0.1/8", lit "::1/128"]⟩,
    ⟨lit "eth0", .error (lit "route ip+net: netlinkrib: permission denied")⟩,
    ⟨lit "eth1", .ok [lit "10.0.0.5/24", lit "fe80::1/64"]⟩,
    ⟨lit "eth2", .ok [lit "10.0.0.5/32"]⟩]

def eth1Rules : List RuleSpec := forwardRules (lit "192.168.254.10") (lit "eth1") webPort

def eth1Spec : TeardownSpec := ⟨eth1Rules, [], lit "br0"⟩

def eth1Response : VMStartedBuildResponse := ⟨some ⟨lit "192.168.254.10"⟩, some eth1Spec⟩

/-- The web task's build on that host forwards port 8080 from eth1. -/
theorem vmStartedBuild_forwards_from_eth1 :
    (newController (some br0Network) (.ok twoHomedInterfaces)).vmStartedBuild (fun _ => true)
        (.ok ()) (some webRequest) ⟨driverChains, []⟩ [] =
      .ok (⟨driverChains, eth1Rules⟩, .ok eth1Response) ∧
    eth1Response.teardownSpec = some eth1Spec ∧
    ∃ ni rest res b ip, webRequest.netConfig = some (some ni :: rest) ∧
      webRequest.resources = some res ∧ ni.bridge = some b ∧
      eth1Response.driverNetwork = some ⟨ip⟩ ∧
      (∀ rp ∈ reservedPorts (res.ports.getD []) b.ports,
        ∃ iface ∈ twoHomedInterfaces, iface.holds (parseIP rp.hostIP)) ∧
      eth1Spec.iptablesRules = (reservedPorts (res.ports.getD []) b.ports).flatMap fun rp =>
        forwardRules ip (((twoHomedInterfaces.find? (·.holds (parseIP rp.hostIP))).map
          (·.name)).getD []) rp :=
  have hv : (newController (some br0Network) (.ok twoHomedInterfaces)).vmStartedBuild
      (fun _ => true) (.ok ()) (some webRequest) ⟨driverChains, []⟩ [] =
      .ok (⟨driverChains, eth1Rules⟩, .ok eth1Response) := by
    decide
  ⟨hv, rfl, vmStartedBuild_forwards_from_host hv rfl⟩

/-- A host IP with a zone is one `ParseIP` rejects: no interface holds it, and the build
fails with a message naming the IP `<nil>`. -/
example : (newController (some br0Network) (.ok twoHomedInterfaces)).vmStartedBuild
    (fun _ => true) (.ok ()) (some { webRequest with
      resources := some ⟨some [{ webPort with hostIP := lit "fe80::1%eth1" }]⟩ })
    ⟨driverChains, []⟩ [] =
      .ok (⟨driverChains, []⟩, .error (lit "failed to configure port mapping: " ++
        lit "failed to identify IP interface: failed to find interface for IP " ++
        quote (lit "<nil>"))) := by
  decide

end NomadDriverCh.Chnet
