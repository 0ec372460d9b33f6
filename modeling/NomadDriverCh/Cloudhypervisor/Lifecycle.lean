import NomadDriverCh.Cloudhypervisor.Network
import NomadDriverCh.Cloudhypervisor.Handoff
import NomadDriverCh.Cloudhypervisor.Vfio
import NomadDriverCh.Mac

/-!
# The VM lifecycle: `CreateDomain`, `StopDomain`, `DestroyDomain`

`CreateDomain` rejects a name already registered, creates the work directory, takes the
task's static IP or an address from the pool, hands the network settings to the guest,
names the TAP device, then runs the creation steps; a failing step releases the address
(and tears down host resources) before the error is returned, and success registers the
VM.  `DestroyDomain` releases the VM's address and unregisters it; `StopDomain` only
acts on the VM's process.

The creation steps whose code is not in the repository are outcomes (`Externals`):
each of them succeeds or fails with an error, and none of them touches the registry or
the allocation map.  The driver's mutex serialises the calls, so a run is a sequence of
calls (`Reachable`), starting from the driver `New` builds or any other with an empty
registry; a panic stops the plugin and ends the run.

Along every run the registry and the allocation map agree (`RegistryInv`), and a
`CreateDomain` call that fails leaves both as they were.  The hand-off step changes only
the domain's files, and running it again on what it produced changes nothing.
-/

namespace NomadDriverCh.Cloudhypervisor

open Netip Domain

/-- The outcomes of the steps of `CreateDomain` whose code is not in the repository.
`tapHash` stands for the eight hex digits of the hash of the name and the time that end
the TAP device's name. -/
structure Externals where
  mkdirWorkDir : Except GoError Unit
  tapHash : GoString
  createCloudInit : Except GoError Unit
  setupNetworking : Except GoError Unit
  startVirtiofsd : Except GoError Unit
  buildVMConfig : Except GoError VMConfig
  vfio : VFIOHost
  startCHProcess : Except GoError Unit
  createAndBootVM : Except GoError Unit

structure Created where
  driver : Driver
  host : PciHost
  config : Config
  env : GoMap GoString
  err : Option GoError

namespace Driver

/-- The allocation step of `CreateDomain`: the task's static IP, unless it parses to an
address outside a configured subnet or is marked already, or else an address from the
pool. -/
def allocateDomainIP (d : Driver) (config : Config) :
    Except Panic (Except GoError (GoString × Driver)) :=
  (staticIP config).map fun
    | some ip =>
      let outside :=
        d.subnet.IsValid &&
          match parseAddr ip with
          | some addr => !d.subnet.contains addr
          | none => false
      if outside then
        .error (lit "static IP " ++ ip ++ lit " is outside configured subnet " ++ d.subnet.string)
      else if d.allocatedIPs.get false ip then
        .error (lit "static IP " ++ ip ++ lit " is already allocated")
      else .ok (ip, d.mark ip)
    | none =>
      match d.allocateIP with
      | .ok r => .ok r
      | .error e => .error (lit "failed to allocate IP: " ++ e)

/-- The creation steps of `CreateDomain` after the TAP device is named, `d` having the
VM's address marked.  Every failure releases the address; network teardown, helper
termination and the process kill act on the host only.  Success registers the VM with
the configuration `addVFIODevices` completed. -/
def bootDomain (d : Driver) (host : PciHost) (ext : Externals) (config : Config)
    (env : GoMap GoString) (proc : VMProcess) : Created :=
  let failed (host : PciHost) (e : GoError) : Created :=
    ⟨d.deallocateIP proc.ip, host, config, env, some e⟩
  match ext.createCloudInit with
  | .error e => failed host (lit "failed to create cloud-init: " ++ e)
  | .ok () =>
  match ext.setupNetworking with
  | .error e => failed host (lit "failed to setup networking: " ++ e)
  | .ok () =>
  match ext.startVirtiofsd with
  | .error e => failed host (lit "failed to start virtiofsd: " ++ e)
  | .ok () =>
  match ext.buildVMConfig with
  | .error e => failed host (lit "failed to build VM config: " ++ e)
  | .ok vmConfig =>
  match d.addVFIODevices ext.vfio host config vmConfig with
  | (host, .error e) => failed host (lit "failed to add VFIO devices: " ++ e)
  | (host, .ok vmConfig) =>
  match ext.startCHProcess with
  | .error e => failed host (lit "failed to start CH process: " ++ e)
  | .ok () =>
  match ext.createAndBootVM with
  | .error e => failed host (lit "failed to create/boot VM: " ++ e)
  | .ok () =>
    ⟨d.register config.name { proc with config := some vmConfig }, host, config, env, none⟩

def createDomain (d : Driver) (host : PciHost) (ext : Externals) (config : Config)
    (env : GoMap GoString) : Except Panic Created :=
  if (d.processes.lookup config.name).isSome then
    .ok ⟨d, host, config, env, some (lit "VM " ++ config.name ++ lit " already exists")⟩
  else
    match ext.mkdirWorkDir with
    | .error e =>
      .ok ⟨d, host, config, env, some (lit "failed to create work directory: " ++ e)⟩
    | .ok () =>
      match d.allocateDomainIP config with
      | .error p => .error p
      | .ok (.error e) => .ok ⟨d, host, config, env, some e⟩
      | .ok (.ok (ip, d)) =>
        match d.handOff config ⟨config.name, ip, [], [], none⟩ env with
        | .error p => .error p
        | .ok (config, env) =>
          match d.networkConfig with
          | none => .error .nilDereference
          | some net =>
            .ok (d.bootDomain host ext config env
              ⟨config.name, ip, net.tapPrefix ++ ext.tapHash, generateMAC config.name, none⟩)

/-- `StopDomain`: the shutdown request, and the kill when it fails, act on the VM's
process only. -/
def stopDomain (d : Driver) (name : GoString) : Option GoError :=
  match d.processes.lookup name with
  | none => some (lit "VM " ++ name ++ lit " not found")
  | some _ => none

def destroyDomain (d : Driver) (name : GoString) : Driver × Option GoError :=
  match d.processes.lookup name with
  | none => (d, some (lit "VM " ++ name ++ lit " not found"))
  | some proc => ((d.deallocateIP proc.ip).unregister name, none)

end Driver

inductive Call where
  | createDomain (host : PciHost) (ext : Externals) (config : Config) (env : GoMap GoString)
  | stopDomain (name : GoString)
  | destroyDomain (name : GoString)

namespace Driver

def call (d : Driver) : Call → Except Panic (Driver × Option GoError)
  | .createDomain host ext config env =>
    (d.createDomain host ext config env).map fun r => (r.driver, r.err)
  | .stopDomain name => .ok (d, d.stopDomain name)
  | .destroyDomain name => .ok (d.destroyDomain name)

/-- The driver states reached by a sequence of calls from an empty registry and an empty
allocation map. -/
inductive Reachable : Driver → Prop
  | init {d : Driver} : d.processes = ∅ → d.allocatedIPs = ∅ → Reachable d
  | call {d d' : Driver} {c : Call} {err : Option GoError} :
      Reachable d → d.call c = .ok (d', err) → Reachable d'

/-! ## What each step can do -/

theorem staticIP_ne_nil {config : Config} {ip : GoString} (h : staticIP config = .ok (some ip)) :
    ip ≠ [] := by
  unfold staticIP at h
  split at h <;> simp only [Except.ok.injEq, reduceCtorEq] at h
  split at h
  · split_ifs at h with hs
    cases h; exact hs
  · cases h

theorem allocateDomainIP_ok {d d' : Driver} {config : Config} {ip : GoString}
    (h : d.allocateDomainIP config = .ok (.ok (ip, d'))) :
    ∃ sip, staticIP config = .ok sip ∧ sip.getD ip = ip ∧ ip ≠ [] ∧
      d.allocatedIPs.get false ip = false ∧ d' = d.mark ip := by
  unfold allocateDomainIP at h
  cases hs : staticIP config with
  | error p => simp [hs, Except.map] at h
  | ok sip =>
    simp only [hs, Except.map, Except.ok.injEq] at h
    cases sip with
    | some s =>
      simp only at h
      split_ifs at h with h1 h2
      cases h
      exact ⟨_, rfl, rfl, staticIP_ne_nil hs, by simpa using h2, rfl⟩
    | none =>
      simp only at h
      split at h
      · cases h
        rename_i r hr
        obtain ⟨⟨b, rfl⟩, hfree, rfl⟩ := allocateIP_ok hr
        exact ⟨none, rfl, rfl, b.string_ne_nil, hfree, rfl⟩
      · cases h

theorem handOff_files {d : Driver} {config config' : Config} {proc : VMProcess}
    {env env' : GoMap GoString} (h : d.handOff config proc env = .ok (config', env')) :
    { config' with files := config.files } = config := by
  unfold handOff at h
  cases hd : d.deriveNetworkSettings (some config) (some proc) with
  | error p => simp [hd, Except.map] at h
  | ok r =>
    simp only [hd, Except.map, Except.ok.injEq, Prod.mk.injEq] at h
    obtain ⟨rfl, -⟩ := h
    split_ifs <;> rfl

/-- Running the hand-off again on the domain it produced, for the same VM, changes nothing,
whether it starts from the caller's environment as it was (a `nil` map, which `CreateDomain`
replaces by a fresh one) or as the first run left it (a map the caller passed, which the two
calls share): the file replaces itself, and the variables are set again to the same values
in the same order. -/
theorem handOff_idempotent {d : Driver} {config config' : Config} {proc : VMProcess}
    {env env' : GoMap GoString} (h : d.handOff config proc env = .ok (config', env')) :
    d.handOff config' proc env = .ok (config', env') ∧
      d.handOff config' proc env' = .ok (config', env') := by
  have hd' : d.deriveNetworkSettings (some config') (some proc) =
      d.deriveNetworkSettings (some config) (some proc) := by
    rw [← deriveNetworkSettings_files d config' config.files, handOff_files h]
  unfold handOff at h ⊢
  rw [hd']
  rcases hd : d.deriveNetworkSettings (some config) (some proc) with p | ⟨s, ok⟩ <;>
    rw [hd] at h
  · cases h
  simp only [Except.map, Except.ok.injEq, Prod.mk.injEq] at h ⊢
  obtain ⟨hc, he⟩ := h
  have henv : (if ok = true then setNetworkEnv s env' else env') = env' := by
    rw [← he]
    cases ok <;> simp only [setNetworkEnv_setNetworkEnv, if_true, if_false, Bool.false_eq_true]
  have hfile : (if (envFileFromMap env').2 = true then
      { config' with files := upsertFile config'.files (envFileFromMap env').1 } else config') =
      config' := by
    rw [← hc, ← he]
    split_ifs <;> simp [upsertFile_idempotent]
  rw [he, henv]
  exact ⟨⟨hfile, rfl⟩, hfile, rfl⟩

/-- A task without network interfaces on a VM at `192.168.254.10`: the first hand-off writes
the file into the empty file list, and a second one, from either environment, keeps it. -/
theorem handOff_idempotent_web :
    ∃ config' env', scenarioDriver.handOff ⟨lit "web", [], [], []⟩
        ⟨lit "web", lit "192.168.254.10", [], [], none⟩ ∅ = .ok (config', env') ∧
      config'.files = [(envFileFromMap env').1] ∧
      scenarioDriver.handOff config' ⟨lit "web", lit "192.168.254.10", [], [], none⟩ ∅ =
        .ok (config', env') ∧
      scenarioDriver.handOff config' ⟨lit "web", lit "192.168.254.10", [], [], none⟩ env' =
        .ok (config', env') :=
  have ⟨env', h, _⟩ := handOff_VM_IP (d := scenarioDriver)
    (rfl : staticIP ⟨lit "web", [], [], []⟩ = .ok none)
    ⟨lit "web", lit "192.168.254.10", [], [], none⟩ ∅ (by decide)
  ⟨_, env', h, rfl, handOff_idempotent h⟩

theorem bootDomain_cases (d : Driver) (host : PciHost) (ext : Externals) (config : Config)
    (env : GoMap GoString) (proc : VMProcess) :
    let r := d.bootDomain host ext config env proc
    r.config = config ∧ r.env = env ∧
      ((r.err ≠ none ∧ r.driver = d.deallocateIP proc.ip) ∨
        (r.err = none ∧
          ∃ vm, r.driver = d.register config.name { proc with config := some vm })) := by
  unfold bootDomain
  repeat' split
  all_goals first | exact ⟨rfl, rfl, .inr ⟨rfl, _, rfl⟩⟩ | simp

theorem bootDomain_unbindRequests (d : Driver) (host : PciHost) (ext : Externals)
    (config : Config) (env : GoMap GoString) (proc : VMProcess) :
    let r := d.bootDomain host ext config env proc
    r.host.unbindRequests = host.unbindRequests ∨
      (r.host.unbindRequests = host.unbindRequests ++ [config.vfioDevices] ∧
        ∃ e, r.err = some (lit "failed to add VFIO devices: " ++
          (lit "failed to get VFIO group paths: " ++ e))) := by
  unfold bootDomain
  repeat' split
  all_goals try (simp; done)
  all_goals
    rcases addVFIODevices_unbindRequests ‹d.addVFIODevices ext.vfio host config _ = _› with
      h | ⟨h, e, he⟩ <;> simp_all

/-- What a `CreateDomain` call that returns can have done to the driver: nothing, or
marked an unmarked address the allocation step handed out and released it again, or
marked it and registered a VM holding it under a new name. -/
theorem createDomain_cases {d : Driver} {host : PciHost} {ext : Externals} {config : Config}
    {env : GoMap GoString} {r : Created} (h : d.createDomain host ext config env = .ok r) :
    (r.err ≠ none ∧ r.driver = d) ∨
      ∃ ip, d.allocateDomainIP config = .ok (.ok (ip, d.mark ip)) ∧
        d.allocatedIPs.get false ip = false ∧
        ((r.err ≠ none ∧ r.driver = (d.mark ip).deallocateIP ip) ∨
          (r.err = none ∧ d.processes.lookup config.name = none ∧
            ∃ p : VMProcess, p.ip = ip ∧ r.driver = (d.mark ip).register config.name p)) := by
  unfold createDomain at h
  split_ifs at h with hname
  · cases h; exact .inl ⟨by simp, rfl⟩
  split at h
  · cases h; exact .inl ⟨by simp, rfl⟩
  split at h
  · cases h
  · cases h; exact .inl ⟨by simp, rfl⟩
  rename_i ip d' halloc
  obtain ⟨-, -, -, -, hfree, rfl⟩ := allocateDomainIP_ok halloc
  split at h
  · cases h
  rename_i config' env' hhand
  split at h
  · cases h
  cases h
  rename_i net _
  refine .inr ⟨ip, halloc, hfree, ?_⟩
  rcases (bootDomain_cases (d.mark ip) host ext config' env'
    ⟨config'.name, ip, net.tapPrefix ++ ext.tapHash, generateMAC config'.name, none⟩).2.2 with
      ⟨herr, hd⟩ | ⟨herr, vm, hd⟩
  · exact .inl ⟨herr, hd⟩
  · refine .inr ⟨herr, by simpa using hname, ⟨config'.name, ip, net.tapPrefix ++ ext.tapHash,
      generateMAC config'.name, some vm⟩, rfl, ?_⟩
    rw [hd, ← congrArg Config.name (handOff_files hhand)]

/-! ## The registry invariant -/

/-- The registry and the allocation map agree: the keys of `allocatedIPs` are the
addresses of the registered VMs, each marked, and no two registered VMs share one. -/
structure RegistryInv (d : Driver) : Prop where
  keys : ∀ ip, ip ∈ d.allocatedIPs ↔
    ∃ name p, d.processes.lookup name = some p ∧ p.ip = ip
  marked : ∀ ip ∈ d.allocatedIPs, d.allocatedIPs.get false ip = true
  ip_injective : ∀ {n₁ n₂ p₁ p₂}, d.processes.lookup n₁ = some p₁ →
    d.processes.lookup n₂ = some p₂ → p₁.ip = p₂.ip → n₁ = n₂

section Invariant

variable {d : Driver} (hi : RegistryInv d)
include hi

theorem RegistryInv.not_mem {ip : GoString} (h : d.allocatedIPs.get false ip = false) :
    ip ∉ d.allocatedIPs :=
  fun hm => by simp [hi.marked ip hm] at h

theorem RegistryInv.register {ip name : GoString} {p : VMProcess}
    (hfree : d.allocatedIPs.get false ip = false) (hname : d.processes.lookup name = none)
    (hp : p.ip = ip) : RegistryInv ((d.mark ip).register name p) where
  keys ip' := by
    simp only [register_allocatedIPs, mark_allocatedIPs, GoMap.mem_set, register_processes,
      GoMap.lookup_set]
    constructor
    · rintro (rfl | hm)
      · exact ⟨name, p, by simp, hp⟩
      · obtain ⟨n, q, hq, rfl⟩ := (hi.keys _).1 hm
        have hn : n ≠ name := fun h => by rw [h, hname] at hq; cases hq
        exact ⟨n, q, by simpa [hn] using hq, rfl⟩
    · rintro ⟨n, q, hq, rfl⟩
      split_ifs at hq
      · cases hq; exact .inl hp
      · exact .inr ((hi.keys _).2 ⟨n, q, hq, rfl⟩)
  marked ip' h := by
    by_cases h' : ip' = ip
    · simp [h']
    · simp only [register_allocatedIPs, mark_allocatedIPs, GoMap.mem_set, h', false_or] at h
      simp [h', hi.marked ip' h]
  ip_injective {n₁ n₂ p₁ p₂} h₁ h₂ he := by
    simp only [register_processes, GoMap.lookup_set] at h₁ h₂
    have fresh : ∀ {n q}, d.processes.lookup n = some q → q.ip ≠ ip := fun hq hq' =>
      hi.not_mem hfree ((hi.keys _).2 ⟨_, _, hq, hq'⟩)
    split_ifs at h₁ h₂ with hn₁ hn₂ hn₂
    · exact hn₁.trans hn₂.symm
    · cases h₁; exact absurd (he.symm.trans hp) (fresh h₂)
    · cases h₂; exact absurd (he.trans hp) (fresh h₁)
    · exact hi.ip_injective h₁ h₂ he

theorem RegistryInv.destroy {name : GoString} {p : VMProcess}
    (hp : d.processes.lookup name = some p) :
    RegistryInv ((d.deallocateIP p.ip).unregister name) where
  keys ip' := by
    simp only [unregister_allocatedIPs, deallocateIP_allocatedIPs, GoMap.mem_delete,
      unregister_processes, GoMap.lookup_delete]
    constructor
    · rintro ⟨hne, hm⟩
      obtain ⟨n, q, hq, rfl⟩ := (hi.keys _).1 hm
      have hn : n ≠ name := fun h => hne (by rw [h, hp] at hq; cases hq; rfl)
      exact ⟨n, q, by simpa [hn] using hq, rfl⟩
    · rintro ⟨n, q, hq, rfl⟩
      split_ifs at hq with hn
      exact ⟨fun he => hn (hi.ip_injective hq hp he), (hi.keys _).2 ⟨n, q, hq, rfl⟩⟩
  marked ip' h := by
    simp only [unregister_allocatedIPs, deallocateIP_allocatedIPs, GoMap.mem_delete] at h
    simp [h.1, hi.marked ip' h.2]
  ip_injective h₁ h₂ he := by
    simp only [unregister_processes, GoMap.lookup_delete] at h₁ h₂
    split_ifs at h₁ h₂
    exact hi.ip_injective h₁ h₂ he

theorem createDomain_error_unchanged {host : PciHost} {ext : Externals} {config : Config}
    {env : GoMap GoString} {r : Created} (h : d.createDomain host ext config env = .ok r)
    (herr : r.err ≠ none) : r.driver = d := by
  rcases createDomain_cases h with ⟨-, hd⟩ | ⟨ip, -, hfree, ⟨-, hd⟩ | ⟨hok, -⟩⟩
  · exact hd
  · exact hd.trans (deallocateIP_mark (hi.not_mem hfree))
  · exact absurd hok herr

theorem RegistryInv.step {c : Call} {d' : Driver} {err : Option GoError}
    (h : d.call c = .ok (d', err)) : RegistryInv d' := by
  cases c with
  | createDomain host ext config env =>
    cases hc : d.createDomain host ext config env with
    | error p => simp [call, hc, Except.map] at h
    | ok r =>
      simp only [call, hc, Except.map, Except.ok.injEq, Prod.mk.injEq] at h
      obtain ⟨rfl, -⟩ := h
      rcases createDomain_cases hc with
        ⟨-, hd⟩ | ⟨ip, -, hfree, ⟨-, hd⟩ | ⟨-, hname, p, hp, hd⟩⟩
      · exact hd ▸ hi
      · rw [hd, deallocateIP_mark (hi.not_mem hfree)]; exact hi
      · exact hd ▸ hi.register hfree hname hp
  | stopDomain name =>
    simp only [call, Except.ok.injEq, Prod.mk.injEq] at h
    exact h.1 ▸ hi
  | destroyDomain name =>
    simp only [call, destroyDomain, Except.ok.injEq] at h
    split at h
    · cases h; exact hi
    · cases h; exact hi.destroy ‹_›

end Invariant

theorem RegistryInv.init {d : Driver} (hp : d.processes = ∅) (ha : d.allocatedIPs = ∅) :
    RegistryInv d where
  keys ip := by simp [hp, ha, AList.not_mem_empty, AList.lookup_empty]
  marked ip h := by simp [ha, AList.not_mem_empty] at h
  ip_injective h := by simp [hp, AList.lookup_empty] at h

theorem Reachable.registryInv {d : Driver} (h : d.Reachable) : RegistryInv d := by
  induction h with
  | init hp ha => exact RegistryInv.init hp ha
  | call _ hc ih => exact ih.step hc

/-! ## Runs of calls -/

theorem reachable_new (netConfig : Option Network) (vfioConfig : Option VFIO) :
    (new netConfig vfioConfig).Reachable :=
  .init (initializeNetworkConfig_frame _).2.2.1 (initializeNetworkConfig_frame _).2.2.2

def runCalls (d : Driver) : List Call → Except Panic Driver
  | [] => .ok d
  | c :: cs => (d.call c).bind fun (d', _) => runCalls d' cs

theorem runCalls_reachable {d d' : Driver} {cs : List Call} (hd : d.Reachable)
    (h : runCalls d cs = .ok d') : d'.Reachable := by
  induction cs generalizing d with
  | nil => cases h; exact hd
  | cons c cs ih =>
    simp only [runCalls] at h
    cases hc : d.call c with
    | error p => simp [hc, bind, Except.bind] at h
    | ok r => simp only [hc, bind, Except.bind] at h; exact ih (.call hd hc) h

theorem exists_reachable_of_runCalls {d₀ : Driver} (hd : d₀.Reachable) (cs : List Call)
    {p : Driver → Prop} [DecidablePred p]
    (h : (runCalls d₀ cs).map (fun d => decide (p d)) = .ok true) :
    ∃ d, runCalls d₀ cs = .ok d ∧ d.Reachable ∧ p d := by
  cases hr : runCalls d₀ cs with
  | error e => simp [hr, Except.map] at h
  | ok d =>
    simp only [hr, Except.map, Except.ok.injEq, decide_eq_true_eq] at h
    exact ⟨d, rfl, runCalls_reachable hd hr, h⟩

def allSucceed : Externals where
  mkdirWorkDir := .ok ()
  tapHash := lit "0a1b2c3d"
  createCloudInit := .ok ()
  setupNetworking := .ok ()
  startVirtiofsd := .ok ()
  buildVMConfig := .ok ⟨none, []⟩
  vfio := ⟨fun _ _ => .ok (), fun _ => .ok (), fun _ => .ok (), fun _ => .ok []⟩
  startCHProcess := .ok ()
  createAndBootVM := .ok ()

/-- A creation, every step succeeding, of a task with `text` as its bridge's static IP, or
with no interface when `text` is empty. -/
def createTask (name text : GoString) : Call :=
  .createDomain ⟨fun _ => [], []⟩ allSucceed
    ⟨name, if text = [] then [] else [some ⟨some ⟨lit "br0", [], text, [], [], []⟩⟩], [], []⟩
    ∅

def registryCalls : List Call :=
  [.createDomain ⟨fun _ => [], []⟩
      { allSucceed with createCloudInit := .error (lit "exit status 1") } ⟨lit "web", [], [], []⟩ ∅,
    createTask (lit "web") [], createTask (lit "db") [], .destroyDomain (lit "web")]

/-- Along every sequence of lifecycle calls from an empty registry, the keys of
`allocatedIPs` are exactly the addresses of the registered VMs, no two registered VMs
share an address, and a `CreateDomain` that returns an error leaves the registry and the
allocation map as they were. -/
theorem createDomain_registry_consistent {d : Driver} (hd : d.Reachable) :
    (∀ ip, ip ∈ d.allocatedIPs ↔ ∃ name p, d.processes.lookup name = some p ∧ p.ip = ip) ∧
    (∀ n₁ n₂ p₁ p₂, d.processes.lookup n₁ = some p₁ → d.processes.lookup n₂ = some p₂ →
      p₁.ip = p₂.ip → n₁ = n₂) ∧
    ∀ host ext config env r, d.createDomain host ext config env = .ok r → r.err ≠ none →
      r.driver.processes = d.processes ∧ r.driver.allocatedIPs = d.allocatedIPs := by
  have hi := hd.registryInv
  refine ⟨hi.keys, fun _ _ _ _ => hi.ip_injective, fun host ext config env r h herr => ?_⟩
  rw [createDomain_error_unchanged hi h herr]
  exact ⟨rfl, rfl⟩

/-- After `registryCalls` on the driver `New` builds from the default network block, only
`db` is registered, holding the pool's second address. -/
theorem createDomain_registry_consistent_scenario :
    ∃ d, runCalls (new scenarioDriver.networkConfig none) registryCalls = .ok d ∧ d.Reachable ∧
      d.processes.keys = [lit "db"] ∧ d.allocatedIPs.keys = [lit "192.168.254.11"] ∧
      (∀ ip, ip ∈ d.allocatedIPs ↔ ∃ name p, d.processes.lookup name = some p ∧ p.ip = ip) ∧
      (∀ n₁ n₂ p₁ p₂, d.processes.lookup n₁ = some p₁ → d.processes.lookup n₂ = some p₂ →
        p₁.ip = p₂.ip → n₁ = n₂) ∧
      ∀ host ext config env r, d.createDomain host ext config env = .ok r → r.err ≠ none →
        r.driver.processes = d.processes ∧ r.driver.allocatedIPs = d.allocatedIPs :=
  let ⟨d, hr, hd, hk⟩ := exists_reachable_of_runCalls (reachable_new _ _)
    registryCalls (p := fun d => d.processes.keys = [lit "db"] ∧
      d.allocatedIPs.keys = [lit "192.168.254.11"]) (by decide)
  ⟨d, hr, hd, hk.1, hk.2, createDomain_registry_consistent hd⟩

/-! ## The address handed to the guest -/

/-- Once `CreateDomain` is past allocating `ip`, which it marked in `allocatedIPs`, the
hand-off sets `VM_IP` to `ip` and puts into the domain's files the hand-off file, whose
content decodes to lines among which is `export VM_IP=ip`.  The call returns that config
and environment, and a VM it registers holds `ip`. -/
theorem createDomain_hands_off_VM_IP {d d' : Driver} {host : PciHost} {ext : Externals}
    {config : Config} {env : GoMap GoString} {ip : GoString}
    (hname : d.processes.lookup config.name = none) (hdir : ext.mkdirWorkDir = .ok ())
    (halloc : d.allocateDomainIP config = .ok (.ok (ip, d'))) :
    d'.allocatedIPs.get false ip = true ∧
    ∃ config' env', d'.handOff config ⟨config.name, ip, [], [], none⟩ env = .ok (config', env') ∧
      env'.get [] (lit "VM_IP") = ip ∧ (envFileFromMap env').1 ∈ config'.files ∧
      (∃ lines, Base64.decodeString (envFileFromMap env').1.content = some (joinWith 10 lines) ∧
        lit "export VM_IP=" ++ ip ∈ lines) ∧
      ∀ r, d.createDomain host ext config env = .ok r →
        r.config = config' ∧ r.env = env' ∧
          (r.err = none → ∃ p, r.driver.processes.lookup config.name = some p ∧ p.ip = ip) := by
  obtain ⟨sip, hs, hsip, hne, -, rfl⟩ := allocateDomainIP_ok halloc
  obtain ⟨env', hh, hv, hmem⟩ :=
    handOff_VM_IP (d := d.mark ip) hs ⟨config.name, ip, [], [], none⟩ env (by rwa [hsip])
  rw [hsip] at hv
  have hline : exportLine env' (lit "VM_IP") = lit "export VM_IP=" ++ ip := by
    rw [exportLine, hv]; rfl
  refine ⟨by simp, _, env', hh, hv, mem_upsertFile _ _,
    ⟨_, (decodeString_envFileFromMap (GoMap.entries_ne_nil_of_mem hmem)).2,
      hline ▸ exportLine_mem_lines hmem⟩, fun r h => ?_⟩
  simp only [createDomain, hname, Option.isSome_none, Bool.false_eq_true, if_false, hdir, halloc,
    hh] at h
  split at h
  · cases h
  cases h
  obtain ⟨hc, he, hcases⟩ := bootDomain_cases (d.mark ip) host ext
    { config with files := upsertFile config.files (envFileFromMap env').1 } env'
    ⟨config.name, ip, ‹Network›.tapPrefix ++ ext.tapHash, generateMAC config.name, none⟩
  refine ⟨hc, he, fun herr => ?_⟩
  rcases hcases with ⟨hne', -⟩ | ⟨-, vm, hd⟩
  · exact absurd herr hne'
  · exact ⟨⟨config.name, ip, ‹Network›.tapPrefix ++ ext.tapHash, generateMAC config.name,
      some vm⟩,
      by rw [hd]; simp, rfl⟩

def staticTask : Config where
  name := lit "web"
  networkInterfaces := [some ⟨some ⟨lit "br0", [], lit "192.168.254.50", [], [], []⟩⟩]
  files := []
  vfioDevices := []

theorem createDomain_hands_off_VM_IP_static :
    let ip := lit "192.168.254.50"
    (scenarioDriver.processes.lookup staticTask.name = none ∧ allSucceed.mkdirWorkDir = .ok () ∧
      scenarioDriver.allocateDomainIP staticTask = .ok (.ok (ip, scenarioDriver.mark ip))) ∧
    (scenarioDriver.mark ip).allocatedIPs.get false ip = true ∧
    ∃ config' env',
      (scenarioDriver.mark ip).handOff staticTask ⟨staticTask.name, ip, [], [], none⟩ ∅ =
        .ok (config', env') ∧
      env'.get [] (lit "VM_IP") = ip ∧ (envFileFromMap env').1 ∈ config'.files ∧
      (∃ lines, Base64.decodeString (envFileFromMap env').1.content = some (joinWith 10 lines) ∧
        lit "export VM_IP=" ++ ip ∈ lines) ∧
      ∀ r, scenarioDriver.createDomain (⟨fun _ => [], []⟩ : PciHost) allSucceed staticTask ∅ =
          .ok r →
        r.config = config' ∧ r.env = env' ∧
          (r.err = none → ∃ p, r.driver.processes.lookup staticTask.name = some p ∧ p.ip = ip) :=
  ⟨⟨rfl, rfl, rfl⟩, createDomain_hands_off_VM_IP rfl rfl rfl⟩

/-! ## Passthrough devices after a failed creation -/

def gpuHost : PciHost := ⟨fun _ => lit "nvidia", []⟩

def gpuTask : Config := ⟨lit "gpu-vm", [], [], [lit "0000:01:00.0"]⟩

/-- `CreateDomain` hands devices to `UnbindDevices` only when their group paths cannot be
resolved; every other failure, before or after the devices are bound, returns with the
requests as they were. -/
theorem createDomain_unbinds_only_on_group_path_failure {d : Driver} {host : PciHost}
    {ext : Externals} {config : Config} {env : GoMap GoString} {r : Created}
    (h : d.createDomain host ext config env = .ok r) :
    r.host.unbindRequests = host.unbindRequests ∨
      (r.host.unbindRequests = host.unbindRequests ++ [config.vfioDevices] ∧
        ∃ e, r.err = some (lit "failed to add VFIO devices: " ++
          (lit "failed to get VFIO group paths: " ++ e))) := by
  unfold createDomain at h
  split_ifs at h
  · cases h; exact .inl rfl
  split at h
  · cases h; exact .inl rfl
  split at h
  · cases h
  · cases h; exact .inl rfl
  split at h
  · cases h
  rename_i config' env' hhand
  split at h
  · cases h
  cases h
  rw [← congrArg Config.vfioDevices (handOff_files hhand)]
  exact bootDomain_unbindRequests _ _ _ _ _ _

def groupPathFails : Externals := { allSucceed with
  vfio := ⟨fun _ _ => .ok (), fun _ => .ok (), fun _ => .ok (),
    fun _ => .error (lit "no IOMMU group")⟩ }

/-- The device is bound, its group path cannot be resolved, and the call hands it to
`UnbindDevices`. -/
theorem createDomain_unbinds_gpu :
    ∃ r, scenarioDriver.createDomain gpuHost groupPathFails gpuTask ∅ = .ok r ∧
      r.host.unbindRequests = [[lit "0000:01:00.0"]] ∧
      (r.host.unbindRequests = gpuHost.unbindRequests ∨
        (r.host.unbindRequests = gpuHost.unbindRequests ++ [gpuTask.vfioDevices] ∧
          ∃ e, r.err = some (lit "failed to add VFIO devices: " ++
            (lit "failed to get VFIO group paths: " ++ e)))) :=
  have h : scenarioDriver.createDomain gpuHost groupPathFails gpuTask ∅ = .ok _ := rfl
  ⟨_, h, rfl, createDomain_unbinds_only_on_group_path_failure h⟩

def startFails : Externals := { allSucceed with
  vfio := ⟨fun _ _ => .ok (), fun _ => .ok (), fun _ => .ok (),
    fun _ => .ok [lit "/dev/vfio/42"]⟩
  startCHProcess := .error (lit "exit status 1") }

/-- The device is bound to `vfio-pci` by the call, the VMM process then fails to start,
and the call returns its error with the device still bound and never handed to
`UnbindDevices`. -/
theorem createDomain_start_failure_leaves_device_bound :
    gpuHost.boundDriver (lit "0000:01:00.0") ≠ vfioPCI ∧
    (scenarioDriver.createDomain gpuHost startFails gpuTask ∅).map
        (fun r => (r.err, r.host.boundDriver (lit "0000:01:00.0"), r.host.unbindRequests)) =
      .ok (some (lit "failed to start CH process: exit status 1"), vfioPCI, []) := by
  decide

end Driver

end NomadDriverCh.Cloudhypervisor
