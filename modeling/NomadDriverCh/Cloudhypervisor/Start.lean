import NomadDriverCh.Cloudhypervisor.Network
import NomadDriverCh.Foundation.Runes

/-!
# `Start`: binaries, the bridge, the data directory

`Start` checks the Cloud Hypervisor binaries, creates the cloud-init controller, validates
the network configuration, makes sure the bridge exists, holds the gateway address and is
up, and creates the data directory; the first step that fails ends it with its error
wrapped.  Every call it makes outside the driver (`os.Stat`, the `ip` commands,
`os.MkdirAll`, the controller's constructor) is answered by a `Host`.

`validateBinaries` ranges over a Go map, in an order the language leaves open, and is
modelled with that order as a parameter.  The network configuration is validated before
the first `ip` command, so the one address `Start` assigns is the gateway's text with the
subnet's length, which for an IPv4 subnet parses back as a prefix that contains exactly the
subnet's addresses (`start_addrAdd_prefix`).  What the `ip` commands do to the host's links
is in `NomadDriverCh.Bridge`.

`Driver` holds the registry and the parsed network state; `config`, `dataDir` and
`skipBinaryValidation`, which no other modelled operation reads, are `Start`'s parameters.
-/

namespace NomadDriverCh.Virt

structure CloudHypervisor where
  bin : GoString
  remoteBin : GoString
  virtiofsdBin : GoString
  deriving DecidableEq, Repr

end NomadDriverCh.Virt

namespace NomadDriverCh.Cloudhypervisor

open Netip Domain Virt

structure CmdResult where
  err : Option GoError
  output : GoString
  deriving DecidableEq, Repr

/-- The host `Start` runs on: the outcome of each call it makes outside the driver.  A
command's outcome is a function of its command line; no command line recurs in one run,
so every sequence of outcomes is one of these. -/
structure Host where
  stat : GoString → Option GoError
  newController : Option GoError
  findIPCommand : Except GoError GoString
  exec : List GoString → CmdResult
  mkdirAll : GoString → Option GoError

/-! ## `validateBinaries` -/

def binaries (c : CloudHypervisor) : GoMap GoString :=
  let m := ((∅ : GoMap GoString).set (lit "cloud-hypervisor") c.bin).set (lit "ch-remote")
    c.remoteBin
  if c.virtiofsdBin ≠ [] then m.set (lit "virtiofsd") c.virtiofsdBin else m

/-- The loop of `validateBinaries` over the pairs in the order visited: an empty path is
skipped, and the first path `os.Stat` rejects ends it.  The `--version` run only logs. -/
def checkBinaries (stat : GoString → Option GoError) :
    List (GoString × GoString) → Except GoError Unit
  | [] => .ok ()
  | (name, path) :: rest =>
    if path = [] then checkBinaries stat rest
    else
      match stat path with
      | some err => .error (name ++ lit " binary not found at " ++ path ++ lit ": " ++ err)
      | none => checkBinaries stat rest

/-- `validateBinaries`, with `d.config` as `config` (`nil` is `none`), visiting the map in
the order `order` gives. -/
def validateBinaries (skip : Bool) (config : Option CloudHypervisor)
    (stat : GoString → Option GoError) (order : GoMap GoString → List (GoString × GoString)) :
    Except Panic (Except GoError Unit) :=
  if skip then .ok (.ok ())
  else
    match config with
    | none => .error .nilDereference
    | some c => .ok (checkBinaries stat (order (binaries c)))

/-! ## `ensureBridgeConfigured` -/

section Commands

variable (ipPath bridge : GoString)

def linkShow : List GoString := [ipPath, lit "link", lit "show", bridge]

def linkAdd : List GoString :=
  [ipPath, lit "link", lit "add", lit "name", bridge, lit "type", lit "bridge"]

def addrShow : List GoString := [ipPath, lit "addr", lit "show", bridge]

def addrAdd (cidr : GoString) : List GoString :=
  [ipPath, lit "addr", lit "add", cidr, lit "dev", bridge]

def linkUp : List GoString := [ipPath, lit "link", lit "set", bridge, lit "up"]

end Commands

/-- `fmt.Errorf(msg + ": %w (output: %s)", err, strings.TrimSpace(string(output)))`. -/
def withOutput (msg err output : GoString) : GoError :=
  msg ++ lit ": " ++ err ++ lit " (output: " ++ trimSpace output ++ lit ")"

/-- A command whose failure is no failure when `ip` says the object already exists. -/
def tolerant (r : CmdResult) (msg : GoString) : Option GoError :=
  match r.err with
  | none => none
  | some e =>
    if lowerContains r.output (lit "file exists") then none else some (withOutput msg e r.output)

def strict (r : CmdResult) (msg : GoString) : Option GoError :=
  r.err.map fun e => withOutput msg e r.output

def andThen (s t : List (List GoString) × Option GoError) :
    List (List GoString) × Option GoError :=
  match s.2 with
  | some e => (s.1, some e)
  | none => (s.1 ++ t.1, t.2)

/-- The CIDR `fmt.Sprintf("%s/%d", d.gatewayIP.String(), d.subnet.Bits())`. -/
def gatewayCIDR (subnet : Prefix) (gatewayIP : Addr) : GoString :=
  gatewayIP.string ++ lit "/" ++ itoa subnet.bits

/-- The part of `ensureBridgeConfigured` after `ip` is found: the commands it runs, in
order, and its error. -/
def bridgeCommands (exec : List GoString → CmdResult) (ipPath bridge : GoString)
    (subnet : Prefix) (gatewayIP : Addr) : List (List GoString) × Option GoError :=
  if bridge = [] then ([], some (lit "bridge name not provided"))
  else
    let cidr := gatewayCIDR subnet gatewayIP
    andThen
      (if (exec (linkShow ipPath bridge)).err = none then ([linkShow ipPath bridge], none)
       else ([linkShow ipPath bridge, linkAdd ipPath bridge],
         tolerant (exec (linkAdd ipPath bridge)) (lit "unable to create bridge " ++ bridge)))
      (andThen ([addrShow ipPath bridge],
          strict (exec (addrShow ipPath bridge)) (lit "unable to read bridge addresses"))
        (andThen
          (if containsBytes (exec (addrShow ipPath bridge)).output gatewayIP.string then ([], none)
           else ([addrAdd ipPath bridge cidr], tolerant (exec (addrAdd ipPath bridge cidr))
             (lit "unable to assign " ++ cidr ++ lit " to " ++ bridge)))
          ([linkUp ipPath bridge], strict (exec (linkUp ipPath bridge))
            (lit "unable to bring bridge " ++ bridge ++ lit " up"))))

/-- `ensureBridgeConfigured`: without `ip` it does nothing, and fails unless validation is
skipped; with `ip` it reads `d.networkConfig.Bridge`. -/
def ensureBridgeConfigured (skip : Bool) (networkConfig : Option Network) (subnet : Prefix)
    (gatewayIP : Addr) (host : Host) : Except Panic (List (List GoString) × Option GoError) :=
  match host.findIPCommand with
  | .error err => .ok ([], if skip then none else some err)
  | .ok ipPath =>
    match networkConfig with
    | none => .error .nilDereference
    | some net => .ok (bridgeCommands host.exec ipPath net.bridge subnet gatewayIP)

/-! ## `Start` -/

structure StartRun where
  dataDir : GoString
  commands : List (List GoString)
  err : Option GoError
  deriving DecidableEq, Repr

/-- `Start(dataDir)` on a driver whose `config`, `dataDir` and `skipBinaryValidation` are
`config`, `oldDataDir` and `skip`. -/
def start (d : Driver) (config : Option CloudHypervisor) (skip : Bool)
    (oldDataDir dataDir : GoString) (host : Host)
    (order : GoMap GoString → List (GoString × GoString)) : Except Panic StartRun :=
  let dataDir := if dataDir = [] then oldDataDir else dataDir
  let fail (commands : List (List GoString)) (e : GoError) : Except Panic StartRun :=
    .ok ⟨dataDir, commands, some e⟩
  match validateBinaries skip config host.stat order with
  | .error p => .error p
  | .ok (.error e) => fail [] (lit "cloud hypervisor binary validation failed: " ++ e)
  | .ok (.ok ()) =>
    match host.newController with
    | some e => fail [] (lit "failed to create cloud-init controller: " ++ e)
    | none =>
      match d.validateNetworkConfig with
      | .error e => fail [] (lit "invalid network configuration: " ++ e)
      | .ok () =>
        match ensureBridgeConfigured skip d.networkConfig d.subnet d.gatewayIP host with
        | .error p => .error p
        | .ok (commands, some e) =>
          match d.networkConfig with
          | none => .error .nilDereference
          | some net =>
            fail commands (lit "failed to configure bridge " ++ net.bridge ++ lit ": " ++ e)
        | .ok (commands, none) =>
          match host.mkdirAll dataDir with
          | some e => fail commands (lit "failed to create data directory: " ++ e)
          | none => if config.isSome then .ok ⟨dataDir, commands, none⟩ else .error .nilDereference

def defaultBinaries : CloudHypervisor :=
  ⟨lit "/usr/bin/cloud-hypervisor", lit "/usr/bin/ch-remote", lit "/usr/libexec/virtiofsd"⟩

def quietHost : Host where
  stat _ := none
  newController := none
  findIPCommand := .ok (lit "/usr/sbin/ip")
  exec _ := ⟨none, []⟩
  mkdirAll _ := none

/-! ## The bridge commands -/

@[simp] theorem tolerant_eq_none {r : CmdResult} {msg : GoString} :
    tolerant r msg = none ↔ r.err = none ∨ lowerContains r.output (lit "file exists") = true := by
  unfold tolerant
  split <;> simp_all

@[simp] theorem strict_eq_none {r : CmdResult} {msg : GoString} :
    strict r msg = none ↔ r.err = none :=
  Option.map_eq_none'

section AndThen

variable {s t : List (List GoString) × Option GoError}

@[simp] theorem andThen_snd_eq_none : (andThen s t).2 = none ↔ s.2 = none ∧ t.2 = none := by
  unfold andThen
  split <;> simp_all

theorem andThen_fst_of_none (h : s.2 = none) : (andThen s t).1 = s.1 ++ t.1 := by
  simp [andThen, h]

theorem forall_mem_andThen {P : List GoString → Prop} (hs : ∀ c ∈ s.1, P c)
    (ht : ∀ c ∈ t.1, P c) : ∀ c ∈ (andThen s t).1, P c := by
  unfold andThen
  split
  · exact hs
  · simpa [or_imp, forall_and] using ⟨hs, ht⟩

end AndThen

section Bridge

variable {exec : List GoString → CmdResult} {ipPath bridge : GoString} {subnet : Prefix}
  {gatewayIP : Addr}

theorem mem_bridgeCommands {cmd : List GoString}
    (h : cmd ∈ (bridgeCommands exec ipPath bridge subnet gatewayIP).1) :
    cmd ∈ [linkShow ipPath bridge, linkAdd ipPath bridge, addrShow ipPath bridge,
      addrAdd ipPath bridge (gatewayCIDR subnet gatewayIP), linkUp ipPath bridge] := by
  unfold bridgeCommands at h
  by_cases hb : bridge = []
  · rw [if_pos hb] at h
    cases h
  rw [if_neg hb] at h
  refine forall_mem_andThen ?_ (forall_mem_andThen ?_ (forall_mem_andThen ?_ ?_)) cmd h <;>
    (try split) <;> simp

end Bridge

/-! ## What a call of `Start` does -/

theorem ensureBridgeConfigured_cases {skip : Bool} {networkConfig : Option Network}
    {subnet : Prefix} {gatewayIP : Addr} {host : Host} {commands : List (List GoString)}
    {e : Option GoError}
    (h : ensureBridgeConfigured skip networkConfig subnet gatewayIP host = .ok (commands, e)) :
    (∃ err, host.findIPCommand = .error err ∧ commands = [] ∧
        e = if skip then none else some err) ∨
      ∃ ipPath net, host.findIPCommand = .ok ipPath ∧ networkConfig = some net ∧
        bridgeCommands host.exec ipPath net.bridge subnet gatewayIP = (commands, e) := by
  unfold ensureBridgeConfigured at h
  split at h
  next err hf =>
    cases h
    exact .inl ⟨err, hf, rfl, rfl⟩
  next ipPath hf =>
    cases networkConfig with
    | none => cases h
    | some net => exact .inr ⟨ipPath, net, hf, rfl, Except.ok.inj h⟩

/-- What a call of `Start` that returns has done: it settled its data directory, and either
stopped with an error before the first `ip` command, or passed every check and ran
`ensureBridgeConfigured`, succeeding exactly when that and `os.MkdirAll` did, and then
only with its config set. -/
theorem start_cases {d : Driver} {config : Option CloudHypervisor} {skip : Bool}
    {oldDataDir dataDir : GoString} {host : Host}
    {order : GoMap GoString → List (GoString × GoString)} {r : StartRun}
    (h : start d config skip oldDataDir dataDir host order = .ok r) :
    r.dataDir = (if dataDir = [] then oldDataDir else dataDir) ∧
      (r.commands = [] ∧ r.err ≠ none ∨
        validateBinaries skip config host.stat order = .ok (.ok ()) ∧
          host.newController = none ∧ d.validateNetworkConfig = .ok () ∧
          ∃ e, ensureBridgeConfigured skip d.networkConfig d.subnet d.gatewayIP host =
              .ok (r.commands, e) ∧
            (r.err = none ↔ e = none ∧ host.mkdirAll r.dataDir = none) ∧
            (r.err = none → config.isSome)) := by
  unfold start at h
  generalize (if dataDir = [] then oldDataDir else dataDir) = dir at h ⊢
  split at h
  · cases h
  · cases h
    exact ⟨rfl, .inl ⟨rfl, by simp⟩⟩
  next hvb =>
  split at h
  · cases h
    exact ⟨rfl, .inl ⟨rfl, by simp⟩⟩
  next hc =>
  split at h
  · cases h
    exact ⟨rfl, .inl ⟨rfl, by simp⟩⟩
  next hv =>
  split at h
  · cases h
  next commands e he =>
    split at h
    · cases h
    · cases h
      exact ⟨rfl, .inr ⟨hvb, hc, hv, some e, he, by simp, by simp⟩⟩
  next commands he =>
    cases hm : host.mkdirAll dir with
    | some e =>
      simp only [hm] at h
      cases h
      exact ⟨rfl, .inr ⟨hvb, hc, hv, none, he, by simp [hm], by simp⟩⟩
    | none =>
      simp only [hm] at h
      split at h
      next hcfg =>
        cases h
        exact ⟨rfl, .inr ⟨hvb, hc, hv, none, he, by simp [hm], fun _ => hcfg⟩⟩
      · cases h

/-- `Start` assigns an address to the bridge only after `validateNetworkConfig` accepted the
network configuration, and the only address it assigns is the gateway's text with the
subnet's length; for an IPv4 subnet that text parses as a prefix at the gateway that
contains exactly the subnet's addresses. -/
theorem start_addrAdd_prefix {d : Driver} {config : Option CloudHypervisor} {skip : Bool}
    {oldDataDir dataDir : GoString} {host : Host}
    {order : GoMap GoString → List (GoString × GoString)} {r : StartRun}
    {ipPath bridge cidr : GoString}
    (h : start d config skip oldDataDir dataDir host order = .ok r)
    (hcmd : addrAdd ipPath bridge cidr ∈ r.commands) :
    d.validateNetworkConfig = .ok () ∧ cidr = gatewayCIDR d.subnet d.gatewayIP ∧
      (d.subnet.ip.bitLen = 32 → ∃ q, parsePrefix cidr = some q ∧ q.ip = d.gatewayIP ∧
        ∀ a, q.contains a = d.subnet.contains a) := by
  obtain ⟨-, ⟨hnil, -⟩ | ⟨-, -, hv, e, he, -⟩⟩ := start_cases h
  · simp [hnil] at hcmd
  obtain ⟨err, -, hnil, -⟩ | ⟨ip, net, -, -, hb⟩ := ensureBridgeConfigured_cases he
  · simp [hnil] at hcmd
  rw [show r.commands = _ from congrArg Prod.fst hb.symm] at hcmd
  have hmem := mem_bridgeCommands hcmd
  simp [addrAdd, linkShow, linkAdd, addrShow, linkUp] at hmem
  rw [hmem.2.1]
  exact ⟨hv, rfl, parsePrefix_addr_bits (Driver.bridge_gateway_of_validate hv).2⟩

def scenarioRun : StartRun :=
  ⟨lit "/var/lib/ch", [linkShow (lit "/usr/sbin/ip") (lit "br0"),
    addrShow (lit "/usr/sbin/ip") (lit "br0"),
    addrAdd (lit "/usr/sbin/ip") (lit "br0") (lit "192.168.254.1/24"),
    linkUp (lit "/usr/sbin/ip") (lit "br0")], none⟩

theorem start_addrAdd_prefix_scenario :
    start Driver.scenarioDriver (some defaultBinaries) false [] (lit "/var/lib/ch") quietHost
        GoMap.pairs = .ok scenarioRun ∧
      addrAdd (lit "/usr/sbin/ip") (lit "br0") (lit "192.168.254.1/24") ∈ scenarioRun.commands ∧
      Driver.scenarioDriver.validateNetworkConfig = .ok () ∧
      lit "192.168.254.1/24" =
        gatewayCIDR Driver.scenarioDriver.subnet Driver.scenarioDriver.gatewayIP ∧
      (Driver.scenarioDriver.subnet.ip.bitLen = 32 → ∃ q, parsePrefix (lit "192.168.254.1/24") =
        some q ∧ q.ip = Driver.scenarioDriver.gatewayIP ∧
        ∀ a, q.contains a = Driver.scenarioDriver.subnet.contains a) :=
  have h : start Driver.scenarioDriver (some defaultBinaries) false [] (lit "/var/lib/ch")
      quietHost GoMap.pairs = .ok scenarioRun := rfl
  have hmem : addrAdd (lit "/usr/sbin/ip") (lit "br0") (lit "192.168.254.1/24") ∈
      scenarioRun.commands := by decide
  ⟨h, hmem, start_addrAdd_prefix h hmem⟩

end NomadDriverCh.Cloudhypervisor
