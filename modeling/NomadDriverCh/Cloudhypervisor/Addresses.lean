import NomadDriverCh.Cloudhypervisor.Lifecycle

/-!
# The keys of the allocation map

A key of `allocatedIPs` is added by one of the two paths of `CreateDomain`'s allocation
step.  The pool scan adds the text of an address between the pool bounds, with no zone,
other than the gateway, and so inside the subnet (`PoolKey`).  The static-IP path adds
the task's text as it is, rejecting only a text that parses to an address outside the
subnet or that is marked already (`StaticKey`): text `ParseAddr` refuses passes, and so
does the gateway's own address.

No call changes the driver's network fields, so a configuration that
`validateNetworkConfig` accepted stays accepted, and along every run every key is a pool
key or a static key (`KeysValid`).  In an IPv4 subnet an address has one text, so no two
keys denote one address; an IPv6 address has several.
-/

namespace NomadDriverCh.Cloudhypervisor

open Netip Domain

namespace Driver

/-- A key the pool scan adds: the text of an address between the pool bounds, with no zone,
other than the gateway, inside the subnet. -/
def PoolKey (d : Driver) (ip : GoString) : Prop :=
  ∃ a, ip = a.string ∧ d.ipPoolStart.le a ∧ a.le d.ipPoolEnd ∧ a.zone = [] ∧
    a ≠ d.gatewayIP ∧ d.subnet.contains a

/-- A key the static-IP path adds: a task's non-empty text, inside the subnet when
`ParseAddr` accepts it. -/
def StaticKey (d : Driver) (ip : GoString) : Prop :=
  ip ≠ [] ∧ ∀ a, parseAddr ip = some a → d.subnet.contains a

def KeysValid (d : Driver) : Prop :=
  ∀ ip ∈ d.allocatedIPs, d.PoolKey ip ∨ d.StaticKey ip

def SameNetwork (d d' : Driver) : Prop :=
  d'.networkConfig = d.networkConfig ∧ d'.ipPoolStart = d.ipPoolStart ∧
    d'.ipPoolEnd = d.ipPoolEnd ∧ d'.subnet = d.subnet ∧ d'.gatewayIP = d.gatewayIP

theorem SameNetwork.validate {d d' : Driver} (h : SameNetwork d d') :
    d'.validateNetworkConfig = d.validateNetworkConfig := by
  obtain ⟨h1, h2, h3, h4, h5⟩ := h
  simp only [validateNetworkConfig, h1, h2, h3, h4, h5]

theorem SameNetwork.keys_iff {d d' : Driver} (h : SameNetwork d d') (ip : GoString) :
    (d'.PoolKey ip ∨ d'.StaticKey ip) ↔ (d.PoolKey ip ∨ d.StaticKey ip) := by
  obtain ⟨-, h2, h3, h4, h5⟩ := h
  simp only [PoolKey, StaticKey, h2, h3, h4, h5]

/-! ## What each call adds -/

theorem PoolCandidate.contains {d : Driver} (hp : PoolValid d) {a : Addr}
    (ha : d.PoolCandidate a) : d.subnet.contains a := by
  obtain ⟨n, h1, h2, -, rfl⟩ := (poolCandidate_iff hp).1 ha
  exact poolAddr_mem hp h1 h2

theorem allocateDomainIP_key {d d' : Driver} {config : Config} {ip : GoString}
    (hp : PoolValid d) (h : d.allocateDomainIP config = .ok (.ok (ip, d'))) :
    d.PoolKey ip ∨ d.StaticKey ip := by
  unfold allocateDomainIP at h
  cases hs : staticIP config with
  | error p => simp [hs, Except.map] at h
  | ok sip =>
    simp only [hs, Except.map, Except.ok.injEq] at h
    cases sip with
    | some s =>
      simp only at h
      split_ifs at h with hout
      cases h
      refine .inr ⟨staticIP_ne_nil hs, fun a ha => ?_⟩
      simpa [hp.subnet_valid, ha] using hout
    | none =>
      simp only at h
      split at h
      · cases h
        rename_i r hr
        rcases allocateIP_least hp with ⟨a, ha, -, heq⟩ | ⟨-, heq⟩ <;> rw [heq] at hr
        · cases hr
          exact .inl ⟨a, rfl, ha.1, ha.2.1, ha.2.2.1, ha.2.2.2.1, ha.contains hp⟩
        · cases hr
      · cases h

theorem call_keys {d d' : Driver} {c : Call} {err : Option GoError}
    (h : d.call c = .ok (d', err)) :
    SameNetwork d d' ∧ ∀ k ∈ d'.allocatedIPs,
      k ∈ d.allocatedIPs ∨ ∃ config, d.allocateDomainIP config = .ok (.ok (k, d.mark k)) := by
  cases c with
  | createDomain host ext config env =>
    cases hc : d.createDomain host ext config env with
    | error p => simp [call, hc, Except.map] at h
    | ok r =>
      simp only [call, hc, Except.map, Except.ok.injEq, Prod.mk.injEq] at h
      obtain ⟨rfl, -⟩ := h
      rcases createDomain_cases hc with
          ⟨-, hd⟩ | ⟨ip, halloc, -, ⟨-, hd⟩ | ⟨-, -, p, -, hd⟩⟩ <;>
        rw [hd]
      · exact ⟨⟨rfl, rfl, rfl, rfl, rfl⟩, fun k hk => .inl hk⟩
      · refine ⟨⟨rfl, rfl, rfl, rfl, rfl⟩, fun k hk => .inl ?_⟩
        simp only [deallocateIP_allocatedIPs, mark_allocatedIPs, GoMap.mem_delete,
          GoMap.mem_set] at hk
        exact hk.2.resolve_left hk.1
      · refine ⟨⟨rfl, rfl, rfl, rfl, rfl⟩, fun k hk => ?_⟩
        simp only [register_allocatedIPs, mark_allocatedIPs, GoMap.mem_set] at hk
        rcases hk with rfl | hk
        · exact .inr ⟨config, halloc⟩
        · exact .inl hk
  | stopDomain name =>
    simp only [call, Except.ok.injEq, Prod.mk.injEq] at h
    obtain ⟨rfl, -⟩ := h
    exact ⟨⟨rfl, rfl, rfl, rfl, rfl⟩, fun k hk => .inl hk⟩
  | destroyDomain name =>
    simp only [call, destroyDomain, Except.ok.injEq] at h
    split at h <;> cases h
    · exact ⟨⟨rfl, rfl, rfl, rfl, rfl⟩, fun k hk => .inl hk⟩
    · refine ⟨⟨rfl, rfl, rfl, rfl, rfl⟩, fun k hk => .inl ?_⟩
      simp only [unregister_allocatedIPs, deallocateIP_allocatedIPs, GoMap.mem_delete] at hk
      exact hk.2

/-! ## Along a run -/

theorem KeysValid.step {d d' : Driver} {c : Call} {err : Option GoError}
    (hk : d.KeysValid) (hv : d.validateNetworkConfig = .ok ()) (h : d.call c = .ok (d', err)) :
    d'.KeysValid := by
  obtain ⟨same, hkeys⟩ := call_keys h
  intro k hk'
  rw [same.keys_iff]
  rcases hkeys k hk' with hk'' | ⟨config, halloc⟩
  · exact hk k hk''
  · exact allocateDomainIP_key (poolValid_of_validate hv) halloc

theorem Reachable.keysValid {d : Driver} (hd : d.Reachable)
    (hv : d.validateNetworkConfig = .ok ()) : d.KeysValid := by
  induction hd with
  | init _ ha => intro k hk; simp [ha, AList.not_mem_empty] at hk
  | call _ hc ih =>
    have hv' := (call_keys hc).1.validate ▸ hv
    exact ih hv' |>.step hv' hc

theorem contains_v4 {p : Prefix} (h4 : p.ip.bitLen = 32) {b : Addr} (hb : p.contains b) :
    ∃ x, b = .v4 x := by
  obtain ⟨-, -, -, hl, -⟩ := Prefix.contains_iff.mp hb
  rw [h4] at hl
  cases b with
  | v4 x => exact ⟨x, rfl⟩
  | _ => cases hl

theorem key_eq_string {d : Driver} (h4 : d.subnet.ip.bitLen = 32) {k : GoString} {a : Addr}
    (hk : d.PoolKey k ∨ d.StaticKey k) (hpa : parseAddr k = some a) : k = a.string := by
  rcases hk with ⟨b, rfl, -, -, -, -, hb⟩ | ⟨-, hs⟩
  · obtain ⟨x, rfl⟩ := contains_v4 h4 hb
    rw [parseAddr_string_v4, Option.some.injEq] at hpa
    rw [hpa]
  · obtain ⟨x, rfl⟩ := contains_v4 h4 (hs a hpa)
    exact parseAddr_v4 hpa

/-- Along every run from an empty allocation map whose configuration
`validateNetworkConfig` accepts, every key of `allocatedIPs` was added by the pool scan,
as the text of an address between the pool bounds, with no zone, not the gateway and
inside the subnet, or by the static-IP path, as a non-empty text that lies inside the
subnet when `ParseAddr` accepts it.  In an IPv4 subnet `ParseAddr` reads every pool key
back as its address, and no two keys are read as one address. -/
theorem allocatedIPs_keys_valid {d : Driver} (hd : d.Reachable)
    (hv : d.validateNetworkConfig = .ok ()) :
    (∀ ip ∈ d.allocatedIPs, d.PoolKey ip ∨ d.StaticKey ip) ∧
      (d.subnet.ip.bitLen = 32 →
        (∀ ip ∈ d.allocatedIPs, ∀ a, ip = a.string → d.subnet.contains a → parseAddr ip = some a) ∧
        ∀ k₁ ∈ d.allocatedIPs, ∀ k₂ ∈ d.allocatedIPs, ∀ a,
          parseAddr k₁ = some a → parseAddr k₂ = some a → k₁ = k₂) := by
  have hk := hd.keysValid hv
  refine ⟨hk, fun h4 => ⟨fun ip _ a hip ha => ?_,
    fun k₁ h₁ k₂ h₂ a p₁ p₂ => ?_⟩⟩
  · obtain ⟨x, rfl⟩ := contains_v4 h4 ha
    rw [hip]
    exact parseAddr_string_v4 x
  · rw [key_eq_string h4 (hk k₁ h₁) p₁, key_eq_string h4 (hk k₂ h₂) p₂]

def keyCalls : List Call :=
  [createTask (lit "web") [], createTask (lit "db") (lit "192.168.254.50")]

theorem allocatedIPs_keys_valid_scenario :
    ∃ d, runCalls (new scenarioDriver.networkConfig none) keyCalls = .ok d ∧ d.Reachable ∧
      d.validateNetworkConfig = .ok () ∧
      d.allocatedIPs.keys = [lit "192.168.254.50", lit "192.168.254.10"] ∧
      (∀ ip ∈ d.allocatedIPs, d.PoolKey ip ∨ d.StaticKey ip) ∧
      (d.subnet.ip.bitLen = 32 →
        (∀ ip ∈ d.allocatedIPs, ∀ a, ip = a.string → d.subnet.contains a →
          parseAddr ip = some a) ∧
        ∀ k₁ ∈ d.allocatedIPs, ∀ k₂ ∈ d.allocatedIPs, ∀ a,
          parseAddr k₁ = some a → parseAddr k₂ = some a → k₁ = k₂) :=
  let ⟨d, hr, hd, hv, hk⟩ := exists_reachable_of_runCalls (reachable_new _ _) keyCalls
    (p := fun d => d.validateNetworkConfig = .ok () ∧
      d.allocatedIPs.keys = [lit "192.168.254.50", lit "192.168.254.10"]) (by decide)
  ⟨d, hr, hd, hv, hk, allocatedIPs_keys_valid hd hv⟩

/-! ## Keys outside the pool -/

/-- On the driver `New` builds from the default network block, tasks asking for the gateway
`192.168.254.1` and for `not-an-ip` are both created and their texts become keys; on the
driver it builds for `fd00::/64`, pool `fd00::10` to `fd00::20`, a task asking for
`FD00::10` is created, and then a pool allocation adds `fd00::10`, the same address. -/
theorem allocatedIPs_static_keys_escape :
    (∃ d, runCalls (new scenarioDriver.networkConfig none)
        [createTask (lit "gw") (lit "192.168.254.1"),
        createTask (lit "junk") (lit "not-an-ip")] = .ok d ∧ d.Reachable ∧
      d.validateNetworkConfig = .ok () ∧
      lit "192.168.254.1" ∈ d.allocatedIPs ∧ parseAddr (lit "192.168.254.1") = some d.gatewayIP ∧
      lit "not-an-ip" ∈ d.allocatedIPs ∧ parseAddr (lit "not-an-ip") = none) ∧
    (∃ d, runCalls (new zonedPoolExample.networkConfig none)
        [createTask (lit "upper") (lit "FD00::10"),
        createTask (lit "pool") []] = .ok d ∧ d.Reachable ∧ d.validateNetworkConfig = .ok () ∧
      lit "FD00::10" ∈ d.allocatedIPs ∧ lit "fd00::10" ∈ d.allocatedIPs ∧
      parseAddr (lit "FD00::10") = parseAddr (lit "fd00::10") ∧
      (parseAddr (lit "fd00::10")).isSome) :=
  ⟨exists_reachable_of_runCalls (reachable_new _ _) _ (by decide),
    exists_reachable_of_runCalls (reachable_new _ _) _ (by decide)⟩

end Driver

end NomadDriverCh.Cloudhypervisor
