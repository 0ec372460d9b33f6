import NomadDriverCh.Cloudhypervisor.Driver

/-!
# The network settings handed to a VM

`deriveNetworkSettings` starts from the driver's settings (the VM's address, the parsed
gateway or the configured one, the subnet's prefix length, public resolvers, `eth0`) and
lets the task's first bridge override each of them.  `CreateDomain` writes the result
into the task environment as `VM_IP`, `VM_CIDR`, `VM_GATEWAY` and `VM_DNS` and puts the
environment, as the hand-off file, into the domain's files (`handOff`).

The address precedence is the one fact the rest of the model needs: the bridge's static
IP when the task sets one, otherwise the VM's address (`deriveNetworkSettings_address`).
Setting the variables twice leaves the environment as setting them once does, key order
included (`setNetworkEnv_setNetworkEnv`).
-/

namespace NomadDriverCh.Cloudhypervisor

open Netip Net Domain

structure NetworkSettings where
  address : GoString
  gateway : GoString
  cidrBits : Int
  nameservers : List GoString
  interfaceName : GoString
  deriving DecidableEq, Repr

def NetworkSettings.cidrString (n : NetworkSettings) : GoString := itoa n.cidrBits

/-- The task's `config.NetworkInterfaces[0].Bridge.StaticIP`, when the chain is set and the
text non-empty.  Reading the bridge of a `nil` first interface panics. -/
def staticIP (config : Config) : Except Panic (Option GoString) :=
  match config.networkInterfaces with
  | [] => .ok none
  | none :: _ => .error .nilDereference
  | some ni :: _ =>
    .ok (match ni.bridge with
      | some b => if b.staticIP ≠ [] then some b.staticIP else none
      | none => none)

/-- The overrides of a task's bridge block, in the order `deriveNetworkSettings` applies
them; a netmask that is not a prefix length from 0 to 32 is ignored. -/
def bridgeOverrides (b : NetworkInterfaceBridgeConfig) (s : NetworkSettings) :
    NetworkSettings :=
  let s := if b.staticIP ≠ [] then { s with address := b.staticIP } else s
  let s := if b.gateway ≠ [] then { s with gateway := b.gateway } else s
  let s :=
    if b.netmask ≠ [] then
      match atoi b.netmask with
      | some bits => if 0 ≤ bits ∧ bits ≤ 32 then { s with cidrBits := bits } else s
      | none => s
    else s
  if b.dns ≠ [] then { s with nameservers := b.dns } else s

namespace Driver

def defaultNetworkSettings (d : Driver) (proc : Option VMProcess) : NetworkSettings where
  address :=
    match proc with
    | some p => if p.ip ≠ [] then p.ip else []
    | none => []
  gateway :=
    if d.gatewayIP.IsValid then d.gatewayIP.string
    else
      match d.networkConfig with
      | some n => if n.gateway ≠ [] then n.gateway else []
      | none => []
  cidrBits := if d.subnet.IsValid then d.subnet.bits else -1
  nameservers := [lit "8.8.8.8", lit "8.8.4.4"]
  interfaceName := lit "eth0"

def deriveNetworkSettings (d : Driver) (config : Option Config) (proc : Option VMProcess) :
    Except Panic (NetworkSettings × Bool) :=
  let s := d.defaultNetworkSettings proc
  let s? : Except Panic NetworkSettings :=
    match config with
    | some c =>
      match c.networkInterfaces with
      | [] => .ok s
      | none :: _ => .error .nilDereference
      | some ni :: _ =>
        .ok (match ni.bridge with
          | some b => bridgeOverrides b s
          | none => s)
    | none => .ok s
  s?.map fun s =>
    let s := if s.cidrBits < 0 then { s with cidrBits := 24 } else s
    (s, s.address ≠ [])

end Driver

def setNetworkEnv (s : NetworkSettings) (env : GoMap GoString) : GoMap GoString :=
  let env := (env.set (lit "VM_IP") s.address).set (lit "VM_CIDR") s.cidrString
  let env :=
    if s.gateway ≠ [] then env.set (lit "VM_GATEWAY") s.gateway
    else env.delete (lit "VM_GATEWAY")
  if s.nameservers ≠ [] then env.set (lit "VM_DNS") (joinWith 32 s.nameservers)
  else env.delete (lit "VM_DNS")

namespace Driver

/-- The hand-off step of `CreateDomain`: the derived settings go into the environment,
and the environment, as the hand-off file, into the domain's files. -/
def handOff (d : Driver) (config : Config) (proc : VMProcess) (env : GoMap GoString) :
    Except Panic (Config × GoMap GoString) :=
  (d.deriveNetworkSettings (some config) (some proc)).map fun (s, ok) =>
    let env := if ok then setNetworkEnv s env else env
    let (file, ok) := envFileFromMap env
    (if ok then { config with files := upsertFile config.files file } else config, env)

end Driver

/-! ## The address handed to the VM -/

theorem bridgeOverrides_address (b : NetworkInterfaceBridgeConfig) (s : NetworkSettings) :
    (bridgeOverrides b s).address = if b.staticIP ≠ [] then b.staticIP else s.address := by
  unfold bridgeOverrides
  simp only [apply_ite NetworkSettings.address, ite_self]
  split
  · split <;> simp only [apply_ite NetworkSettings.address, ite_self]
  · rfl

theorem setNetworkEnv_VM_IP (s : NetworkSettings) (env : GoMap GoString) :
    (setNetworkEnv s env).get [] (lit "VM_IP") = s.address := by
  have h1 : lit "VM_IP" ≠ lit "VM_CIDR" := by decide
  have h2 : lit "VM_IP" ≠ lit "VM_GATEWAY" := by decide
  have h3 : lit "VM_IP" ≠ lit "VM_DNS" := by decide
  unfold setNetworkEnv
  split_ifs <;> simp [h1, h2, h3]

theorem setNetworkEnv_setNetworkEnv (s : NetworkSettings) (env : GoMap GoString) :
    setNetworkEnv s (setNetworkEnv s env) = setNetworkEnv s env := by
  have h1 : lit "VM_IP" ≠ lit "VM_CIDR" := by decide
  have h2 : lit "VM_IP" ≠ lit "VM_GATEWAY" := by decide
  have h3 : lit "VM_IP" ≠ lit "VM_DNS" := by decide
  have h4 : lit "VM_CIDR" ≠ lit "VM_GATEWAY" := by decide
  have h5 : lit "VM_CIDR" ≠ lit "VM_DNS" := by decide
  have h6 : lit "VM_GATEWAY" ≠ lit "VM_DNS" := by decide
  apply AList.ext
  unfold setNetworkEnv
  split_ifs <;>
    simp only [GoMap.entries_set, GoMap.entries_delete, List.kerase_cons_eq, List.kerase_cons_ne,
      ne_eq, h1, h2, h3, h4, h5, h6, h1.symm, h2.symm, h3.symm, h4.symm, h5.symm, h6.symm,
      not_false_eq_true] <;>
    simp (disch := repeat (first | exact env.nodupKeys | apply List.NodupKeys.kerase)) only
      [List.kerase_kerase, kerase_kerase_self]

theorem deriveNetworkSettings_files (d : Driver) (config : Config) (files : List File)
    (proc : Option VMProcess) :
    d.deriveNetworkSettings (some { config with files := files }) proc =
      d.deriveNetworkSettings (some config) proc := rfl

theorem defaultNetworkSettings_address (d : Driver) (p : VMProcess) :
    (d.defaultNetworkSettings (some p)).address = p.ip := by
  by_cases h : p.ip = [] <;> simp [Driver.defaultNetworkSettings, h]

theorem deriveNetworkSettings_address {d : Driver} {config : Config} {sip : Option GoString}
    (h : staticIP config = .ok sip) (proc : VMProcess) :
    ∃ s, d.deriveNetworkSettings (some config) (some proc) = .ok (s, s.address ≠ []) ∧
      s.address = sip.getD proc.ip := by
  unfold staticIP at h
  unfold Driver.deriveNetworkSettings
  split at h <;> cases h <;> rename_i heq <;> simp only [heq, Except.map] <;>
    refine ⟨_, rfl, ?_⟩ <;> simp only [apply_ite NetworkSettings.address, ite_self]
  · simp [defaultNetworkSettings_address]
  · rename_i ni _
    cases ni.bridge with
    | none => simp [defaultNetworkSettings_address]
    | some b =>
      by_cases hb : b.staticIP = [] <;>
        simp [bridgeOverrides_address, defaultNetworkSettings_address, hb]

theorem handOff_VM_IP {d : Driver} {config : Config} {sip : Option GoString}
    (h : staticIP config = .ok sip) (proc : VMProcess) (env : GoMap GoString)
    (hip : sip.getD proc.ip ≠ []) :
    ∃ env', d.handOff config proc env =
        .ok ({ config with files := upsertFile config.files (envFileFromMap env').1 }, env') ∧
      env'.get [] (lit "VM_IP") = sip.getD proc.ip ∧ lit "VM_IP" ∈ env' := by
  obtain ⟨s, hs, haddr⟩ := deriveNetworkSettings_address (d := d) h proc
  have hok : s.address ≠ [] := haddr ▸ hip
  have hv := setNetworkEnv_VM_IP s env
  have hmem : lit "VM_IP" ∈ setNetworkEnv s env := GoMap.mem_of_get_ne (hv ▸ hok)
  refine ⟨setNetworkEnv s env, ?_, hv.trans haddr, hmem⟩
  simp [Driver.handOff, hs, Except.map, hok,
    (decodeString_envFileFromMap (GoMap.entries_ne_nil_of_mem hmem)).1]

end NomadDriverCh.Cloudhypervisor
