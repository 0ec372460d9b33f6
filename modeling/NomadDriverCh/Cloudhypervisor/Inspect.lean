import NomadDriverCh.Cloudhypervisor.Lifecycle

/-!
# What the driver reports: `GetInfo`, `GetNetworkInterfaces` and `GetDomain`

The driver answers Nomad's queries from its registry of running VMs.  `GetInfo` counts the
registered VMs and reads the major version out of `cloud-hypervisor --version`;
`GetNetworkInterfaces` reports a registered VM's one interface, with the bridge, and the
TAP device, MAC and address of its record, which `CreateDomain` filled in; `GetDomain` asks the VM's
REST API for its state, and falls back on whether its process is alive.

Under the registry invariant, which holds along every run of the lifecycle calls, the count
`GetInfo` reports is the number of addresses the driver holds (`getInfo_runningDomains`),
and no two running VMs report the same IPv4 address (`getNetworkInterfaces_v4_unique`).
The version is read back from every output of the form `name vN`, `name vN.x...` or
`name vN ...` (`getInfo_emulatorVersion`).
-/

namespace NomadDriverCh.Cloudhypervisor

open Netip Domain

structure NetworkInterface where
  networkName : GoString
  deviceName : GoString
  mac : GoString
  model : GoString
  driver : GoString
  addrs : List Addr
  deriving DecidableEq, Repr

def chStateRunning : GoString := lit "running"

def chStateShutdown : GoString := lit "shutdown"

def chStateShutoff : GoString := lit "shutoff"

def chStateCrashed : GoString := lit "crashed"

def chStateUnknown : GoString := lit "unknown"

def mapCHState (chState : GoString) : GoString :=
  if lowerIs chState chStateRunning then chStateRunning
  else if lowerIs chState chStateShutdown then chStateShutdown
  else if lowerIs chState chStateShutoff then chStateShutoff
  else if lowerIs chState chStateCrashed then chStateCrashed
  else chStateUnknown

structure VmInfo where
  state : GoString
  actualSize : Nat
  deriving DecidableEq, Repr

structure Info where
  state : GoString
  memory : Nat
  maxMemory : Nat
  cpuTime : Nat
  deriving DecidableEq, Repr

/-- `domain.VirtualizerInfo`, with the fields `GetInfo` sets; the others stay zero. -/
structure VirtualizerInfo where
  model : GoString
  emulatorVersion : Nat
  runningDomains : Nat
  deriving DecidableEq, Repr

/-- `getCHVersion`, given what `cloud-hypervisor --version` printed, or its error: the
second field with a leading `v` trimmed, up to its first dot when that is not its first
byte, or `0` when there is no second field. -/
def getCHVersion (output : Except GoError GoString) : Except GoError GoString :=
  match output with
  | .error e => .error e
  | .ok out =>
    match fields (trimSpace out) with
    | _ :: part :: _ =>
      let version := trimPrefix part (lit "v")
      match indexByte version 46 with
      | some i => if 0 < i then .ok (version.take i) else .ok version
      | none => .ok version
    | _ => .ok (lit "0")

namespace Driver

def getNetworkInterfaces (d : Driver) (name : GoString) :
    Except Panic (Except GoError (List NetworkInterface)) :=
  match d.processes.lookup name with
  | none => .ok (.error (lit "VM " ++ name ++ lit " not found"))
  | some proc =>
    match d.networkConfig with
    | none => .error .nilDereference
    | some net =>
      .ok (.ok [⟨net.bridge, proc.tapName, proc.mac, lit "virtio", lit "virtio-net",
        if proc.ip ≠ [] then (parseAddr proc.ip).toList else []⟩])

/-- `GetDomain`, given what the REST API answers for a VM and whether its process answers
signal 0. -/
def getDomain (d : Driver) (getVMInfo : VMProcess → Except GoError VmInfo)
    (processAlive : VMProcess → Bool) (name : GoString) : Option Info :=
  match d.processes.lookup name with
  | none => none
  | some proc =>
    match getVMInfo proc with
    | .error _ => some ⟨if processAlive proc then chStateRunning else chStateShutoff, 0, 0, 0⟩
    | .ok info => some ⟨mapCHState info.state, info.actualSize, info.actualSize, 0⟩

def getInfo (d : Driver) (versionOutput : Except GoError GoString) : VirtualizerInfo where
  model := lit "cloud-hypervisor"
  emulatorVersion :=
    match getCHVersion versionOutput with
    | .ok version => (parseUint version 32).getD 0
    | .error _ => 0
  runningDomains := d.processes.entries.length

/-! ## The running count -/

theorem RegistryInv.keys_perm {d : Driver} (hi : RegistryInv d) :
    d.allocatedIPs.keys.Perm (d.processes.entries.map fun s => s.2.ip) := by
  have hnd : (d.processes.entries.map fun s => s.2.ip).Nodup := by
    refine d.processes.nodupKeys.nodup.map_on fun s₁ h₁ s₂ h₂ he => ?_
    have l₁ := AList.mem_lookup_iff.2 h₁
    have l₂ := AList.mem_lookup_iff.2 h₂
    have hk := hi.ip_injective l₁ l₂ he
    rw [hk, l₂] at l₁
    exact Sigma.ext hk (heq_of_eq (Option.some.inj l₁).symm)
  refine (List.perm_ext_iff_of_nodup d.allocatedIPs.keys_nodup hnd).2 fun ip => ?_
  rw [← AList.mem_keys, hi.keys ip, List.mem_map]
  constructor
  · rintro ⟨n, p, hp, rfl⟩
    exact ⟨⟨n, p⟩, AList.mem_lookup_iff.1 hp, rfl⟩
  · rintro ⟨⟨n, p⟩, hs, rfl⟩
    exact ⟨n, p, AList.mem_lookup_iff.2 hs, rfl⟩

def webDriver : Driver :=
  (scenarioDriver.mark (lit "192.168.254.50")).register (lit "web")
    ⟨lit "web", lit "192.168.254.50", lit "tap0a1b2c3d", generateMAC (lit "web"), none⟩

theorem webDriver_registryInv : RegistryInv webDriver :=
  (RegistryInv.init rfl rfl).register rfl rfl rfl

/-- The count of running VMs `GetInfo` reports is the number of addresses the driver holds. -/
theorem getInfo_runningDomains {d : Driver} (hi : RegistryInv d)
    (versionOutput : Except GoError GoString) :
    (d.getInfo versionOutput).runningDomains = d.allocatedIPs.entries.length := by
  have h := hi.keys_perm.length_eq
  simp only [AList.keys, List.keys, List.length_map] at h
  exact h.symm

theorem getInfo_runningDomains_web :
    RegistryInv webDriver ∧
      (webDriver.getInfo (.ok (lit "cloud-hypervisor v48.0.0\n"))).runningDomains =
        webDriver.allocatedIPs.entries.length :=
  ⟨webDriver_registryInv, getInfo_runningDomains webDriver_registryInv _⟩

/-! ## Interfaces -/

theorem getNetworkInterfaces_ok {d : Driver} {name : GoString} {ifaces : List NetworkInterface}
    (h : d.getNetworkInterfaces name = .ok (.ok ifaces)) :
    ∃ p net, d.processes.lookup name = some p ∧ d.networkConfig = some net ∧
      ifaces = [⟨net.bridge, p.tapName, p.mac, lit "virtio", lit "virtio-net",
        if p.ip ≠ [] then (parseAddr p.ip).toList else []⟩] := by
  unfold getNetworkInterfaces at h
  split at h
  · cases h
  · split at h
    · cases h
    · cases h
      exact ⟨_, _, ‹_›, ‹_›, rfl⟩

theorem ip_eq_of_v4_mem {d : Driver} {name : GoString} {ifaces : List NetworkInterface}
    {i : NetworkInterface} {a : Fin (2 ^ 32)} (h : d.getNetworkInterfaces name = .ok (.ok ifaces))
    (hi : i ∈ ifaces) (ha : .v4 a ∈ i.addrs) :
    ∃ p, d.processes.lookup name = some p ∧ p.ip = (Addr.v4 a).string := by
  obtain ⟨p, net, hp, -, rfl⟩ := getNetworkInterfaces_ok h
  rw [List.mem_singleton] at hi
  subst hi
  refine ⟨p, hp, parseAddr_v4 ?_⟩
  dsimp only at ha
  split_ifs at ha
  · exact Option.mem_toList.1 ha
  · cases ha

/-- No two running VMs report the same IPv4 address: the driver keys its allocations by the
address's text, and an IPv4 address has only one text that parses. -/
theorem getNetworkInterfaces_v4_unique {d : Driver} (hi : RegistryInv d) {n₁ n₂ : GoString}
    {is₁ is₂ : List NetworkInterface} {i₁ i₂ : NetworkInterface} {a : Fin (2 ^ 32)}
    (h₁ : d.getNetworkInterfaces n₁ = .ok (.ok is₁))
    (h₂ : d.getNetworkInterfaces n₂ = .ok (.ok is₂)) (hi₁ : i₁ ∈ is₁) (hi₂ : i₂ ∈ is₂)
    (ha₁ : .v4 a ∈ i₁.addrs) (ha₂ : .v4 a ∈ i₂.addrs) : n₁ = n₂ := by
  obtain ⟨p₁, hp₁, e₁⟩ := ip_eq_of_v4_mem h₁ hi₁ ha₁
  obtain ⟨p₂, hp₂, e₂⟩ := ip_eq_of_v4_mem h₂ hi₂ ha₂
  exact hi.ip_injective hp₁ hp₂ (e₁.trans e₂.symm)

def poolInterface (name : GoString) (a : Fin (2 ^ 32)) : NetworkInterface :=
  ⟨lit "br0", lit "tap0a1b2c3d", generateMAC name, lit "virtio", lit "virtio-net", [.v4 a]⟩

/-- After creations of `web` and `db` from the pool, `web` reports `192.168.254.10` and `db`
`192.168.254.11`, and no IPv4 address is reported by both. -/
theorem getNetworkInterfaces_v4_unique_web :
    ∃ d, runCalls (new scenarioDriver.networkConfig none)
        [createTask (lit "web") [], createTask (lit "db") []] = .ok d ∧
      RegistryInv d ∧
      d.getNetworkInterfaces (lit "web") = .ok (.ok [poolInterface (lit "web") 0xc0a8fe0a]) ∧
      d.getNetworkInterfaces (lit "db") = .ok (.ok [poolInterface (lit "db") 0xc0a8fe0b]) ∧
      ∀ a, .v4 a ∈ (poolInterface (lit "web") 0xc0a8fe0a).addrs →
        .v4 a ∉ (poolInterface (lit "db") 0xc0a8fe0b).addrs :=
  let ⟨d, hr, hd, hw, hb⟩ := exists_reachable_of_runCalls (reachable_new _ _)
    [createTask (lit "web") [], createTask (lit "db") []]
    (p := fun d =>
      d.getNetworkInterfaces (lit "web") = .ok (.ok [poolInterface (lit "web") 0xc0a8fe0a]) ∧
      d.getNetworkInterfaces (lit "db") = .ok (.ok [poolInterface (lit "db") 0xc0a8fe0b]))
    (by decide)
  ⟨d, hr, hd.registryInv, hw, hb, fun _ h₁ h₂ =>
    absurd (getNetworkInterfaces_v4_unique hd.registryInv hw hb (List.mem_singleton_self _)
      (List.mem_singleton_self _) h₁ h₂) (by decide)⟩

/-- After a successful `CreateDomain`, `GetNetworkInterfaces` of the new VM reports one
interface: on the configured bridge, with the TAP device `CreateDomain` named and the MAC
`generateMAC` gives the name, and with the address the guest was handed as `VM_IP` when that
text parses as an address, and none when it does not. -/
theorem getNetworkInterfaces_after_createDomain {d : Driver} {host : PciHost} {ext : Externals}
    {config : Config} {env : GoMap GoString} {r : Created}
    (h : d.createDomain host ext config env = .ok r) (herr : r.err = none) :
    ∃ net, d.networkConfig = some net ∧
      r.driver.getNetworkInterfaces config.name = .ok (.ok [⟨net.bridge,
        net.tapPrefix ++ ext.tapHash, generateMAC config.name, lit "virtio", lit "virtio-net",
        (parseAddr (r.env.get [] (lit "VM_IP"))).toList⟩]) := by
  have hname : d.processes.lookup config.name = none := by
    rcases createDomain_cases h with ⟨hne, -⟩ | ⟨-, -, -, ⟨hne, -⟩ | ⟨-, hn, -⟩⟩
    · exact absurd herr hne
    · exact absurd herr hne
    · exact hn
  unfold createDomain at h
  simp only [hname, Option.isSome_none, Bool.false_eq_true, if_false] at h
  split at h
  · cases h
    simp at herr
  split at h
  · cases h
  · cases h
    simp at herr
  rename_i ip d' halloc
  obtain ⟨sip, hs, hsip, hne, -, rfl⟩ := allocateDomainIP_ok halloc
  obtain ⟨env', hh, hv, -⟩ :=
    handOff_VM_IP (d := d.mark ip) hs ⟨config.name, ip, [], [], none⟩ env (by rwa [hsip])
  rw [hsip] at hv
  simp only [hh] at h
  split at h
  · cases h
  rename_i net hn
  replace hn : d.networkConfig = some net := hn
  cases h
  obtain ⟨-, he, hcases⟩ := bootDomain_cases (d.mark ip) host ext
    { config with files := upsertFile config.files (envFileFromMap env').1 } env'
    ⟨config.name, ip, net.tapPrefix ++ ext.tapHash, generateMAC config.name, none⟩
  rcases hcases with ⟨hne', -⟩ | ⟨-, vm, hd⟩
  · exact absurd herr hne'
  refine ⟨net, hn, ?_⟩
  rw [hd, he, hv]
  simp [getNetworkInterfaces, register, mark, hn, hne]

def zeroPaddedTask : Config where
  name := lit "web"
  networkInterfaces := [some ⟨some ⟨lit "br0", [], lit "192.168.254.050", [], [], []⟩⟩]
  files := []
  vfioDevices := []

/-- `CreateDomain` accepts the static IP `192.168.254.050`, marks it and hands it to the guest
as `VM_IP`, and `GetNetworkInterfaces` then reports the VM without an address. -/
theorem getNetworkInterfaces_after_createDomain_zeroPadded :
    ∃ r, scenarioDriver.createDomain (⟨fun _ => [], []⟩ : PciHost) allSucceed zeroPaddedTask ∅ =
        .ok r ∧ r.err = none ∧ r.env.get [] (lit "VM_IP") = lit "192.168.254.050" ∧
      parseAddr (lit "192.168.254.050") = none ∧
      ∃ net, scenarioDriver.networkConfig = some net ∧
        r.driver.getNetworkInterfaces zeroPaddedTask.name = .ok (.ok [⟨net.bridge,
          net.tapPrefix ++ allSucceed.tapHash, generateMAC zeroPaddedTask.name, lit "virtio",
          lit "virtio-net", (parseAddr (r.env.get [] (lit "VM_IP"))).toList⟩]) :=
  ⟨_, rfl, rfl, by decide, by decide, getNetworkInterfaces_after_createDomain rfl rfl⟩

end Driver

/-! ## The version -/

theorem parseUint_decimalDigits (n bitSize : Nat) :
    parseUint (decimalDigits n) bitSize = if n < 2 ^ bitSize then some n else none := by
  rw [parseUint, if_neg (decimalDigits_ne_nil n), digitsValue_decimalDigits]
  rfl

theorem indexByte_append {s : GoString} {c : UInt8} (hs : c ∉ s) (t : GoString) :
    indexByte (s ++ t) c = (indexByte t c).map (· + s.length) := by
  induction s with
  | nil => simp
  | cons b s ih =>
    rw [List.mem_cons, not_or] at hs
    rw [List.cons_append, indexByte, if_neg (Ne.symm hs.1), ih hs.2, Option.map_map]
    rfl

theorem getCHVersion_of_fields {out w ds x : GoString} {rest : List GoString} (hne : ds ≠ [])
    (hd : (46 : UInt8) ∉ ds) (hx : x = [] ∨ ∃ y, x = 46 :: y)
    (hf : fields (trimSpace out) = w :: (lit "v" ++ ds ++ x) :: rest) :
    getCHVersion (.ok out) = .ok ds := by
  have htrim : trimPrefix (lit "v" ++ ds ++ x) (lit "v") = ds ++ x := by
    simp [trimPrefix, lit]
  simp only [getCHVersion, hf, htrim, indexByte_append hd]
  rcases hx with rfl | ⟨y, rfl⟩
  · simp [indexByte]
  · simp [indexByte, List.length_pos.2 hne]

theorem fields_trimSpace_version {w ds t : GoString} (hw : w ≠ [])
    (hwa : ∀ b ∈ w, b.toNat < 0x80 ∧ isSpace b.toNat = false) (hne : ds ≠ [])
    (hd : ∀ b ∈ ds, 48 ≤ b.toNat ∧ b.toNat ≤ 57)
    (ht : ∀ c ∈ t.head?, c = 46 ∨ (c.toNat < 0x80 ∧ isSpace c.toNat = true)) :
    ∃ x rest, (x = [] ∨ ∃ y, x = 46 :: y) ∧
      fields (trimSpace (w ++ lit " v" ++ ds ++ t)) = w :: (lit "v" ++ ds ++ x) :: rest := by
  have hdsp : ∀ b ∈ ds, isSpace b.toNat = false := fun b hb => by
    have := hd b hb
    simp only [isSpace, if_pos (show b.toNat ≤ 0xFF by omega), decide_eq_false_iff_not]
    omega
  have hA : ∀ b ∈ w ++ lit " v" ++ ds, b.toNat < 0x80 := by
    intro b hb
    simp only [List.mem_append] at hb
    rcases hb with (hb | hb) | hb
    · exact (hwa b hb).1
    · have : b = 32 ∨ b = 118 := by simpa [lit] using hb
      rcases this with rfl | rfl <;> decide
    · have := hd b hb
      omega
  have hAne : w ++ lit " v" ++ ds ≠ [] := by simp [hne]
  have hfirst : isSpace ((w ++ lit " v" ++ ds).head hAne).toNat = false := by
    obtain ⟨w0, w', rfl⟩ := List.exists_cons_of_ne_nil hw
    exact (hwa w0 (List.mem_cons_self _ _)).2
  have hlast : isSpace ((w ++ lit " v" ++ ds).getLast hAne).toNat = false := by
    rw [List.getLast_append_of_ne_nil hne]
    exact hdsp _ (List.getLast_mem hne)
  rw [trimSpace_ascii_append hA hAne hfirst hlast]
  -- what is left of `t` starts as `t` does
  obtain ⟨u, hu, hfu⟩ : ∃ u, ((runeChunks t).rdropWhile (isSpace ·.1)).flatMap Prod.snd = u ∧
      (u = [] ∨ ∃ c r, u = c :: r ∧ (c = 46 ∨ (c.toNat < 0x80 ∧ isSpace c.toNat = true))) := by
    refine ⟨_, rfl, ?_⟩
    rcases t with _ | ⟨c, t⟩
    · exact .inl rfl
    have hc : c.toNat < 0x80 := by
      rcases ht c rfl with rfl | h
      · decide
      · exact h.1
    have hpre := List.rdropWhile_prefix (p := fun x : Nat × GoString => isSpace x.1)
      (l := runeChunks (c :: t))
    rw [runeChunks_cons_ascii hc] at hpre ⊢
    generalize (((c.toNat, [c]) :: runeChunks t).rdropWhile fun x : Nat × GoString =>
      isSpace x.1) = T at hpre ⊢
    obtain ⟨U, hU⟩ := hpre
    rcases T with _ | ⟨c', T⟩
    · exact .inl rfl
    · rw [List.cons_append, List.cons.injEq] at hU
      rw [hU.1]
      exact .inr ⟨c, _, rfl, ht c rfl⟩
  rw [hu]
  have hrc : runeChunks (w ++ lit " v" ++ ds ++ u) = w.map (fun b => (b.toNat, [b])) ++
      ((32 : UInt8).toNat, [32]) ::
        ((118 :: ds).map (fun b => (b.toNat, [b])) ++ runeChunks u) := by
    rw [runeChunks_ascii_append hA, List.map_append, List.map_append]
    simp only [List.append_assoc]
    rfl
  have hv : ∀ b ∈ (118 :: ds : GoString), isSpace b.toNat = false :=
    List.forall_mem_cons.2 ⟨by decide, hdsp⟩
  rw [fields, hrc, fieldsFrom_ascii_append (fun b hb => (hwa b hb).2), List.nil_append,
    fieldsFrom, if_pos (by decide), if_neg hw, fieldsFrom_ascii_append hv, List.nil_append]
  rcases hfu with rfl | ⟨c, r, rfl, hc⟩
  · exact ⟨[], [], .inl rfl, by simp [fieldsFrom, show lit "v" = [118] from rfl]⟩
  have hc' : c.toNat < 0x80 := by
    rcases hc with rfl | h
    · decide
    · exact h.1
  rw [runeChunks_cons_ascii hc', fieldsFrom]
  rcases hc with rfl | ⟨-, hsp⟩
  · rw [if_neg (by decide)]
    obtain ⟨y, rest, h⟩ :=
      fieldsFrom_head (show (118 :: ds) ++ [46] ≠ [] by simp) (runeChunks r)
    exact ⟨46 :: y, rest, .inr ⟨y, rfl⟩, by rw [h]; simp [show lit "v" = [118] from rfl]⟩
  · rw [if_pos hsp, if_neg (List.cons_ne_nil _ _)]
    exact ⟨[], fieldsFrom [] (runeChunks r), .inl rfl, by simp [show lit "v" = [118] from rfl]⟩

namespace Driver

/-- `GetInfo` reads back the version from any output made of an ASCII word, a blank, `v` and
the decimal digits of a number, then nothing, or a dot or an ASCII blank and anything: the number
when it fits 32 bits, and 0 otherwise. -/
theorem getInfo_emulatorVersion (d : Driver) {w t : GoString} (n : Nat) (hw : w ≠ [])
    (hwa : ∀ b ∈ w, b.toNat < 0x80 ∧ isSpace b.toNat = false)
    (ht : ∀ c ∈ t.head?, c = 46 ∨ (c.toNat < 0x80 ∧ isSpace c.toNat = true)) :
    (d.getInfo (.ok (w ++ lit " v" ++ decimalDigits n ++ t))).emulatorVersion =
      if n < 2 ^ 32 then n else 0 := by
  have hd := digit_of_mem_digitsValue (digitsValue_decimalDigits n)
  have hdot : (46 : UInt8) ∉ decimalDigits n := fun h => absurd (hd _ h) (by decide)
  obtain ⟨x, rest, hx, hf⟩ := fields_trimSpace_version hw hwa (decimalDigits_ne_nil n) hd ht
  dsimp only [getInfo]
  rw [getCHVersion_of_fields (decimalDigits_ne_nil n) hdot hx hf]
  dsimp only
  rw [parseUint_decimalDigits]
  split_ifs <;> rfl

/-- `cloud-hypervisor v48.0.0` and a newline give version 48. -/
theorem getInfo_emulatorVersion_v48 :
    (scenarioDriver.getInfo (.ok (lit "cloud-hypervisor" ++ lit " v" ++ decimalDigits 48 ++
      lit ".0.0\n"))).emulatorVersion = 48 :=
  (getInfo_emulatorVersion scenarioDriver 48 (by decide) (by decide) (by decide)).trans
    (if_pos (by decide))

end Driver

end NomadDriverCh.Cloudhypervisor
