import NomadDriverCh.Cloudhypervisor.Driver

/-!
# The driver's address pool

`New` parses the network block into the driver's subnet, pool bounds and gateway
(`initializeNetworkConfig`); with a valid subnet a pool bound outside it is cleared and an
unset gateway defaults to the address after the subnet's.  `validateNetworkConfig` checks
the parsed network configuration at start-up.  `allocateIP` walks the pool from
`ip_pool_start` in address order, skipping the gateway and every address whose text is
marked, and stops at `ip_pool_end`.  Whatever the configuration, an address it hands out
was unmarked and is then marked.  Once `validateNetworkConfig` has accepted the parsed
configuration, it hands out the least unmarked address of the pool other than the gateway,
or fails when there is none.
-/

namespace NomadDriverCh.Cloudhypervisor

open Netip Domain

namespace Driver

/-- A text of the network block parsed over a field: an empty text, or one that does not
parse, leaves the field as it was. -/
def parseOr {α : Type} (parse : GoString → Option α) (text : GoString) (old : α) : α :=
  if text ≠ [] then (parse text).getD old else old

/-- The second half of `initializeNetworkConfig`, run when the subnet is valid: an invalid
gateway defaults to the address after the subnet's when the subnet contains it, then a pool
bound that is valid but outside the subnet is cleared. -/
def subnetDefaults (d : Driver) : Driver :=
  let next := d.subnet.ip.next
  let inside (a : Addr) : Addr := if a.IsValid ∧ ¬d.subnet.contains a then .invalid else a
  { d with
    gatewayIP :=
      if ¬d.gatewayIP.IsValid ∧ next.IsValid ∧ d.subnet.contains next then next
      else d.gatewayIP
    ipPoolStart := inside d.ipPoolStart
    ipPoolEnd := inside d.ipPoolEnd }

/-- `initializeNetworkConfig`: parse the network block's subnet (masked), pool bounds and
gateway over the driver's fields, then, with a valid subnet, apply `subnetDefaults`. -/
def initializeNetworkConfig (d : Driver) : Driver :=
  match d.networkConfig with
  | none => d
  | some net =>
    let d : Driver := { d with
      subnet := parseOr (fun t => (parsePrefix t).map Prefix.masked) net.subnetCIDR d.subnet
      ipPoolStart := parseOr parseAddr net.ipPoolStart d.ipPoolStart
      ipPoolEnd := parseOr parseAddr net.ipPoolEnd d.ipPoolEnd
      gatewayIP := parseOr parseAddr net.gateway d.gatewayIP }
    if d.subnet.IsValid then d.subnetDefaults else d

/-- The driver `New` returns: an empty registry and allocation map, the parsed fields at
their zero values, then `initializeNetworkConfig`. -/
def new (netConfig : Option Network) (vfioConfig : Option VFIO) : Driver :=
  initializeNetworkConfig
    ⟨netConfig, vfioConfig, ∅, ∅, .invalid, .invalid, Prefix.zero, .invalid⟩

def validateNetworkConfig (d : Driver) : Except GoError Unit :=
  match d.networkConfig with
  | none => .error (lit "network configuration is not set")
  | some net =>
    if net.bridge = [] then .error (lit "network bridge is not configured")
    else if ¬d.subnet.IsValid then
      .error (lit "network subnet_cidr must be configured (e.g. 192.168.254.0/24)")
    else if ¬d.gatewayIP.IsValid ∨ ¬d.subnet.contains d.gatewayIP then
      .error (lit "gateway " ++ d.gatewayIP.string ++ lit " must be a valid IPv4 address within " ++
        d.subnet.string)
    else if ¬d.ipPoolStart.IsValid ∨ ¬d.ipPoolEnd.IsValid then
      .error (lit "ip_pool_start and ip_pool_end must be configured within " ++ d.subnet.string)
    else if ¬d.subnet.contains d.ipPoolStart ∨ ¬d.subnet.contains d.ipPoolEnd then
      .error (lit "IP pool " ++ d.ipPoolStart.string ++ lit "-" ++ d.ipPoolEnd.string ++
        lit " must fall within subnet " ++ d.subnet.string)
    else if d.ipPoolEnd.compare d.ipPoolStart = .lt then
      .error (lit "ip_pool_end " ++ d.ipPoolEnd.string ++ lit " precedes ip_pool_start " ++
        d.ipPoolStart.string)
    else if d.gatewayIP = d.ipPoolStart then
      .error (lit "gateway " ++ d.gatewayIP.string ++ lit " conflicts with ip_pool_start")
    else .ok ()

def noAvailableIPs (d : Driver) : GoError :=
  lit "no available IPs in pool " ++ d.ipPoolStart.string ++ lit "-" ++ d.ipPoolEnd.string

def allocateFrom (d : Driver) : Nat → Addr → Except GoError (GoString × Driver)
  | 0, _ => .error d.noAvailableIPs
  | fuel + 1, ip =>
    if d.subnet.IsValid ∧ ¬d.subnet.contains ip then
      .error (lit "allocated IP " ++ ip.string ++ lit " is outside configured subnet " ++
        d.subnet.string)
    else if d.gatewayIP.IsValid ∧ ip = d.gatewayIP then
      if ip = d.ipPoolEnd ∨ ¬ip.next.IsValid then .error d.noAvailableIPs
      else allocateFrom d fuel ip.next
    else if d.allocatedIPs.get false ip.string = false then .ok (ip.string, d.mark ip.string)
    else if ip = d.ipPoolEnd ∨ ¬ip.next.IsValid then .error d.noAvailableIPs
    else allocateFrom d fuel ip.next

/-- `allocateIP`.  Each iteration of the loop leaves it or moves to the next address of the
family, so `2 ^ 128 + 1` iterations are never used up. -/
def allocateIP (d : Driver) : Except GoError (GoString × Driver) :=
  if ¬d.ipPoolStart.IsValid ∨ ¬d.ipPoolEnd.IsValid then
    .error (lit "IP pool is not configured; set network.ip_pool_start and network.ip_pool_end")
  else allocateFrom d (2 ^ 128 + 1) d.ipPoolStart

theorem allocateFrom_ok {d d' : Driver} {fuel : Nat} {a : Addr} {ip : GoString}
    (h : d.allocateFrom fuel a = .ok (ip, d')) :
    (∃ b : Addr, ip = b.string) ∧ d.allocatedIPs.get false ip = false ∧ d' = d.mark ip := by
  induction fuel generalizing a with
  | zero => cases h
  | succ fuel ih =>
    unfold allocateFrom at h
    split_ifs at h with _ _ _ h4
    · exact ih h
    · cases h; exact ⟨⟨a, rfl⟩, h4, rfl⟩
    · exact ih h

theorem allocateIP_ok {d d' : Driver} {ip : GoString} (h : d.allocateIP = .ok (ip, d')) :
    (∃ b : Addr, ip = b.string) ∧ d.allocatedIPs.get false ip = false ∧ d' = d.mark ip := by
  unfold allocateIP at h
  split_ifs at h
  exact allocateFrom_ok h

/-! ## What `New` parses -/

theorem initializeNetworkConfig_frame (d : Driver) :
    d.initializeNetworkConfig.networkConfig = d.networkConfig ∧
      d.initializeNetworkConfig.vfioConfig = d.vfioConfig ∧
      d.initializeNetworkConfig.processes = d.processes ∧
      d.initializeNetworkConfig.allocatedIPs = d.allocatedIPs := by
  unfold initializeNetworkConfig
  split
  · exact ⟨rfl, rfl, rfl, rfl⟩
  · dsimp only
    split <;> exact ⟨rfl, rfl, rfl, rfl⟩

/-! ## What `validateNetworkConfig` guarantees -/

structure PoolValid (d : Driver) : Prop where
  subnet_valid : d.subnet.IsValid
  gateway_valid : d.gatewayIP.IsValid
  start_mem : d.subnet.contains d.ipPoolStart
  end_mem : d.subnet.contains d.ipPoolEnd
  start_le_end : d.ipPoolStart.value ≤ d.ipPoolEnd.value
  gateway_ne_start : d.gatewayIP ≠ d.ipPoolStart

private theorem ok_of_ite_error {c : Prop} [Decidable c] {e : GoError}
    {x : Except GoError Unit} (h : (if c then .error e else x) = .ok ()) : ¬c ∧ x = .ok () := by
  by_cases hc : c
  · rw [if_pos hc] at h
    cases h
  · rw [if_neg hc] at h
    exact ⟨hc, h⟩

theorem poolValid_of_validate {d : Driver} (h : d.validateNetworkConfig = .ok ()) :
    PoolValid d := by
  unfold validateNetworkConfig at h
  split at h
  · cases h
  obtain ⟨-, h⟩ := ok_of_ite_error h
  obtain ⟨h2, h⟩ := ok_of_ite_error h
  obtain ⟨h3, h⟩ := ok_of_ite_error h
  obtain ⟨-, h⟩ := ok_of_ite_error h
  obtain ⟨h5, h⟩ := ok_of_ite_error h
  obtain ⟨h6, h⟩ := ok_of_ite_error h
  obtain ⟨h7, -⟩ := ok_of_ite_error h
  simp only [not_or, Bool.not_eq_true, Bool.not_eq_false] at h3 h5
  obtain ⟨-, hs, -, hls, -⟩ := Prefix.contains_iff.mp h5.1
  obtain ⟨-, he, -, hle, -⟩ := Prefix.contains_iff.mp h5.2
  have hcmp := Addr.compare_of_same (a := d.ipPoolEnd) (b := d.ipPoolStart) (hle.trans hls.symm)
    (he.trans hs.symm)
  rw [hcmp, Nat.compare_eq_lt] at h6
  exact ⟨by simpa using h2, h3.1, h5.1, h5.2, Nat.not_lt.mp h6, h7⟩

theorem bridge_gateway_of_validate {d : Driver} (h : d.validateNetworkConfig = .ok ()) :
    (∃ net, d.networkConfig = some net ∧ net.bridge ≠ []) ∧ d.subnet.contains d.gatewayIP := by
  unfold validateNetworkConfig at h
  split at h
  · cases h
  next net hn =>
    obtain ⟨h1, h⟩ := ok_of_ite_error h
    obtain ⟨-, h⟩ := ok_of_ite_error h
    obtain ⟨h3, -⟩ := ok_of_ite_error h
    exact ⟨⟨net, hn, h1⟩, by simpa using (not_or.mp h3).2⟩

/-! ## The scan over the pool -/

def poolAddr (d : Driver) (n : Nat) : Addr := d.ipPoolStart.withValue n

def Free (d : Driver) (n : Nat) : Prop :=
  d.poolAddr n ≠ d.gatewayIP ∧ d.allocatedIPs.get false (d.poolAddr n).string = false

instance (d : Driver) (n : Nat) : Decidable (d.Free n) := inferInstanceAs (Decidable (_ ∧ _))

section Scan

variable {d : Driver} (hp : PoolValid d)
include hp

theorem start_facts : d.ipPoolStart.IsValid ∧ d.ipPoolStart.zone = [] ∧
    d.ipPoolEnd.bitLen = d.ipPoolStart.bitLen ∧ d.ipPoolEnd.zone = [] := by
  obtain ⟨-, hs, hs0, hls, -⟩ := Prefix.contains_iff.mp hp.start_mem
  obtain ⟨-, he, -, hle, -⟩ := Prefix.contains_iff.mp hp.end_mem
  exact ⟨Addr.isValid_of_bitLen hs0, hs, hle.trans hls.symm, he⟩

theorem poolAddr_spec {n : Nat} (hn : n ≤ d.ipPoolEnd.value) :
    (d.poolAddr n).IsValid ∧ (d.poolAddr n).bitLen = d.ipPoolStart.bitLen ∧
      (d.poolAddr n).zone = [] ∧ (d.poolAddr n).value = n := by
  obtain ⟨hv, hz, hl, -⟩ := start_facts hp
  have hlt := Addr.value_lt d.ipPoolEnd
  rw [hl] at hlt
  obtain ⟨h1, h2, h3, h4⟩ := Addr.withValue_spec hv (Nat.lt_of_le_of_lt hn hlt)
  exact ⟨h1, h2, h3.trans hz, h4⟩

theorem poolAddr_end : d.poolAddr d.ipPoolEnd.value = d.ipPoolEnd := by
  obtain ⟨hv, hz, hl, he⟩ := start_facts hp
  exact (Addr.eq_withValue hv hl (he.trans hz.symm)).symm

theorem poolAddr_mem {n : Nat} (hlo : d.ipPoolStart.value ≤ n) (hn : n ≤ d.ipPoolEnd.value) :
    d.subnet.contains (d.poolAddr n) := by
  obtain ⟨-, hl, hz, hv⟩ := poolAddr_spec hp hn
  exact Prefix.contains_between hp.start_mem hp.end_mem hl hz (by rwa [hv]) (by rwa [hv])

private theorem advance {fuel n : Nat} (hn : n ≤ d.ipPoolEnd.value) :
    (if d.poolAddr n = d.ipPoolEnd ∨ ¬(d.poolAddr n).next.IsValid then
        Except.error d.noAvailableIPs
      else d.allocateFrom fuel (d.poolAddr n).next) =
      if n = d.ipPoolEnd.value then .error d.noAvailableIPs
      else d.allocateFrom fuel (d.poolAddr (n + 1)) := by
  rcases Nat.lt_or_eq_of_le hn with hlt | rfl
  · obtain ⟨hv, -, -, hval⟩ := poolAddr_spec hp hn
    have hne : d.poolAddr n ≠ d.ipPoolEnd := fun h => by
      rw [h] at hval; omega
    have hbound : n + 1 < 2 ^ d.ipPoolStart.bitLen := by
      have := Addr.value_lt d.ipPoolEnd
      rw [(start_facts hp).2.2.1] at this
      omega
    have hnext := Addr.next_withValue (start_facts hp).1 hbound
    have hv' := (poolAddr_spec hp (n := n + 1) hlt).1
    rw [poolAddr] at hne hv'
    simp only [poolAddr, hne, hnext, hv', not_true, or_self, if_false, Nat.ne_of_lt hlt]
  · simp [poolAddr_end hp]

theorem allocateFrom_succ {fuel n : Nat} (hlo : d.ipPoolStart.value ≤ n)
    (hn : n ≤ d.ipPoolEnd.value) :
    d.allocateFrom (fuel + 1) (d.poolAddr n) =
      if d.Free n then .ok ((d.poolAddr n).string, d.mark (d.poolAddr n).string)
      else if n = d.ipPoolEnd.value then .error d.noAvailableIPs
      else d.allocateFrom fuel (d.poolAddr (n + 1)) := by
  rw [allocateFrom, if_neg (by simp [hp.subnet_valid, poolAddr_mem hp hlo hn])]
  by_cases hg : d.poolAddr n = d.gatewayIP
  · rw [if_pos ⟨hp.gateway_valid, hg⟩, advance hp hn,
      if_neg (show ¬d.Free n from fun h => h.1 hg)]
  · rw [if_neg (show ¬(d.gatewayIP.IsValid ∧ d.poolAddr n = d.gatewayIP) from fun h => hg h.2)]
    by_cases hm : d.allocatedIPs.get false (d.poolAddr n).string = false
    · rw [if_pos hm, if_pos (show d.Free n from ⟨hg, hm⟩)]
    · rw [if_neg hm, advance hp hn, if_neg (show ¬d.Free n from fun h => hm h.2)]

/-- From the pool address `k`, the loop hands out the least free pool address at or after
`k`, or fails when there is none. -/
theorem allocateFrom_spec {fuel k : Nat} (hlo : d.ipPoolStart.value ≤ k)
    (hk : k ≤ d.ipPoolEnd.value) (hfuel : d.ipPoolEnd.value - k < fuel) :
    (∃ n, k ≤ n ∧ n ≤ d.ipPoolEnd.value ∧ d.Free n ∧
        (∀ m, k ≤ m → m < n → ¬d.Free m) ∧
        d.allocateFrom fuel (d.poolAddr k) =
          .ok ((d.poolAddr n).string, d.mark (d.poolAddr n).string)) ∨
      ((∀ n, k ≤ n → n ≤ d.ipPoolEnd.value → ¬d.Free n) ∧
        d.allocateFrom fuel (d.poolAddr k) = .error d.noAvailableIPs) := by
  induction fuel generalizing k with
  | zero => omega
  | succ fuel ih =>
    rw [allocateFrom_succ hp hlo hk]
    by_cases hfree : d.Free k
    · exact .inl ⟨k, le_rfl, hk, hfree, fun m h1 h2 => absurd h1 (Nat.not_le.mpr h2), by
        rw [if_pos hfree]⟩
    · rw [if_neg hfree]
      by_cases hend : k = d.ipPoolEnd.value
      · refine .inr ⟨fun n h1 h2 => ?_, by rw [if_pos hend]⟩
        rwa [show n = k by omega]
      · rw [if_neg hend]
        rcases ih (k := k + 1) (by omega) (by omega) (by omega) with
          ⟨n, h1, h2, h3, h4, h5⟩ | ⟨h1, h2⟩
        · refine .inl ⟨n, by omega, h2, h3, fun m hm1 hm2 => ?_, h5⟩
          rcases Nat.eq_or_lt_of_le hm1 with rfl | hm1
          · exact hfree
          · exact h4 m hm1 hm2
        · refine .inr ⟨fun n hn1 hn2 => ?_, h2⟩
          rcases Nat.eq_or_lt_of_le hn1 with rfl | hn1
          · exact hfree
          · exact h1 n hn1 hn2

end Scan

/-! ## `allocateIP` -/

/-- An address `allocateIP` may hand out: between the pool bounds in `Addr.Compare`
order, carrying no IPv6 zone, not the gateway, its text not marked. -/
def PoolCandidate (d : Driver) (a : Addr) : Prop :=
  d.ipPoolStart.le a ∧ a.le d.ipPoolEnd ∧ a.zone = [] ∧ a ≠ d.gatewayIP ∧
    d.allocatedIPs.get false a.string = false

/-- `n` calls of `allocateIP` with no release in between: the addresses handed out, in
order, up to the first failure, and the driver after them. -/
def allocateRepeatedly : Nat → Driver → List GoString × Driver
  | 0, d => ([], d)
  | n + 1, d =>
    match d.allocateIP with
    | .ok (ip, d') => let r := allocateRepeatedly n d'; (ip :: r.1, r.2)
    | .error _ => ([], d)

theorem validateNetworkConfig_mark (d : Driver) (s : GoString) :
    (d.mark s).validateNetworkConfig = d.validateNetworkConfig := rfl

theorem poolCandidate_mark {d : Driver} {s : GoString} {a : Addr} :
    (d.mark s).PoolCandidate a ↔ d.PoolCandidate a ∧ a.string ≠ s := by
  by_cases h : a.string = s <;> simp [PoolCandidate, mark, h, and_assoc]

section Allocate

variable {d : Driver} (hp : PoolValid d)
include hp

theorem poolCandidate_iff {a : Addr} :
    d.PoolCandidate a ↔
      ∃ n, d.ipPoolStart.value ≤ n ∧ n ≤ d.ipPoolEnd.value ∧ d.Free n ∧
        a = d.poolAddr n := by
  obtain ⟨hsv, hsz, hel, hez⟩ := start_facts hp
  constructor
  · rintro ⟨h1, h2, h3, h4, h5⟩
    have hl : a.bitLen = d.ipPoolStart.bitLen :=
      le_antisymm (hel ▸ Addr.bitLen_le_of_le h2) (Addr.bitLen_le_of_le h1)
    have ha : a = d.poolAddr a.value := Addr.eq_withValue hsv hl (h3.trans hsz.symm)
    rw [Addr.le_iff_value_le hl.symm (hsz.trans h3.symm)] at h1
    rw [Addr.le_iff_value_le (hl.trans hel.symm) (h3.trans hez.symm)] at h2
    exact ⟨a.value, h1, h2, ⟨by rwa [← ha], by rwa [← ha]⟩, ha⟩
  · rintro ⟨n, h1, h2, ⟨h4, h5⟩, rfl⟩
    obtain ⟨-, hl, hz, hv⟩ := poolAddr_spec hp h2
    refine ⟨?_, ?_, hz, h4, h5⟩
    · rw [Addr.le_iff_value_le hl.symm (hsz.trans hz.symm), hv]; exact h1
    · rw [Addr.le_iff_value_le (hl.trans hel.symm) (hz.trans hez.symm), hv]; exact h2

theorem allocateIP_least :
    (∃ a, d.PoolCandidate a ∧ (∀ b, d.PoolCandidate b → a.le b) ∧
        d.allocateIP = .ok (a.string, d.mark a.string)) ∨
      ((∀ a, ¬d.PoolCandidate a) ∧ d.allocateIP = .error d.noAvailableIPs) := by
  obtain ⟨hsv, -, hel, -⟩ := start_facts hp
  have hev : d.ipPoolEnd.IsValid := poolAddr_end hp ▸ (poolAddr_spec hp le_rfl).1
  have hfuel : d.ipPoolEnd.value - d.ipPoolStart.value < 2 ^ 128 + 1 := by
    have h1 := Addr.value_lt d.ipPoolEnd
    have h2 := Nat.pow_le_pow_right (by decide : 0 < 2) (Addr.bitLen_le d.ipPoolEnd)
    omega
  have hscan : d.allocateIP = d.allocateFrom (2 ^ 128 + 1) (d.poolAddr d.ipPoolStart.value) := by
    rw [allocateIP, if_neg (by simp [hsv, hev]), poolAddr, ← Addr.eq_withValue hsv rfl rfl]
  rcases allocateFrom_spec hp le_rfl hp.start_le_end hfuel with
    ⟨n, h1, h2, h3, h4, h5⟩ | ⟨h1, h2⟩
  · refine .inl ⟨d.poolAddr n, (poolCandidate_iff hp).2 ⟨n, h1, h2, h3, rfl⟩, ?_,
      hscan.trans h5⟩
    intro b hb
    obtain ⟨m, hm1, hm2, hm3, rfl⟩ := (poolCandidate_iff hp).1 hb
    obtain ⟨-, hl, hz, hv⟩ := poolAddr_spec hp h2
    obtain ⟨-, hl', hz', hv'⟩ := poolAddr_spec hp hm2
    rw [Addr.le_iff_value_le (hl.trans hl'.symm) (hz.trans hz'.symm), hv, hv']
    exact Nat.not_lt.mp fun h => h4 m hm1 h hm3
  · refine .inr ⟨fun a ha => ?_, hscan.trans h2⟩
    obtain ⟨m, hm1, hm2, hm3, -⟩ := (poolCandidate_iff hp).1 ha
    exact h1 m hm1 hm2 hm3

end Allocate

theorem allocateRepeatedly_distinct {d : Driver} (hv : d.validateNetworkConfig = .ok ())
    (n : Nat) :
    (allocateRepeatedly n d).1.Nodup ∧
      (∀ ip ∈ (allocateRepeatedly n d).1, ∃ a, d.PoolCandidate a ∧ ip = a.string) ∧
      ((allocateRepeatedly n d).1.length = n ∨
        ∀ a, ¬(allocateRepeatedly n d).2.PoolCandidate a) := by
  induction n generalizing d with
  | zero => simp [allocateRepeatedly]
  | succ n ih =>
    rcases allocateIP_least (poolValid_of_validate hv) with ⟨a, ha, -, heq⟩ | ⟨hno, heq⟩
    · obtain ⟨hnd, hmem, hlen⟩ :=
        ih (d := d.mark a.string) (by rwa [validateNetworkConfig_mark])
      simp only [allocateRepeatedly, heq, List.nodup_cons, List.mem_cons, forall_eq_or_imp,
        List.length_cons, Nat.add_right_cancel_iff]
      refine ⟨⟨fun h => ?_, hnd⟩, ⟨⟨a, ha, rfl⟩, fun ip hip => ?_⟩, hlen⟩
      · obtain ⟨b, hb, hbs⟩ := hmem _ h
        exact (poolCandidate_mark.mp hb).2 hbs.symm
      · obtain ⟨b, hb, rfl⟩ := hmem ip hip
        exact ⟨b, (poolCandidate_mark.mp hb).1, rfl⟩
    · simp only [allocateRepeatedly, heq]
      exact ⟨List.nodup_nil, by simp, .inr hno⟩

/-- Once the configuration is accepted, `allocateIP` marks and returns the least address
of the pool that is not the gateway and whose text is unmarked, and fails exactly when
there is none; so repeated allocations return distinct addresses until none is left. -/
theorem allocateIP_spec {d : Driver} (hv : d.validateNetworkConfig = .ok ()) :
    ((∃ a, d.PoolCandidate a ∧ (∀ b, d.PoolCandidate b → a.le b) ∧
        d.allocateIP = .ok (a.string, d.mark a.string)) ∨
      ((∀ a, ¬d.PoolCandidate a) ∧ d.allocateIP = .error d.noAvailableIPs)) ∧
    ∀ n, (allocateRepeatedly n d).1.Nodup ∧
      (∀ ip ∈ (allocateRepeatedly n d).1, ∃ a, d.PoolCandidate a ∧ ip = a.string) ∧
      ((allocateRepeatedly n d).1.length = n ∨
        ∀ a, ¬(allocateRepeatedly n d).2.PoolCandidate a) :=
  ⟨allocateIP_least (poolValid_of_validate hv), allocateRepeatedly_distinct hv⟩

def scenarioDriver : Driver where
  networkConfig := some ⟨lit "br0", lit "192.168.254.0/24", lit "192.168.254.10",
    lit "192.168.254.200", lit "192.168.254.1", lit "tap"⟩
  vfioConfig := none
  processes := ∅
  allocatedIPs := ∅
  ipPoolStart := .v4 ⟨0xc0a8fe0a, by decide⟩
  ipPoolEnd := .v4 ⟨0xc0a8fec8, by decide⟩
  subnet := ⟨.v4 ⟨0xc0a8fe00, by decide⟩, 25, .inr ⟨rfl, by decide, rfl⟩⟩
  gatewayIP := .v4 ⟨0xc0a8fe01, by decide⟩

theorem allocateIP_spec_scenario :
    scenarioDriver.validateNetworkConfig = .ok () ∧
    (((∃ a, scenarioDriver.PoolCandidate a ∧ (∀ b, scenarioDriver.PoolCandidate b → a.le b) ∧
        scenarioDriver.allocateIP = .ok (a.string, scenarioDriver.mark a.string)) ∨
      ((∀ a, ¬scenarioDriver.PoolCandidate a) ∧
        scenarioDriver.allocateIP = .error scenarioDriver.noAvailableIPs)) ∧
    ∀ n, (allocateRepeatedly n scenarioDriver).1.Nodup ∧
      (∀ ip ∈ (allocateRepeatedly n scenarioDriver).1,
        ∃ a, scenarioDriver.PoolCandidate a ∧ ip = a.string) ∧
      ((allocateRepeatedly n scenarioDriver).1.length = n ∨
        ∀ a, ¬(allocateRepeatedly n scenarioDriver).2.PoolCandidate a)) :=
  ⟨by decide, allocateIP_spec (by decide)⟩

def zonedPoolExample : Driver where
  networkConfig := some ⟨lit "br0", lit "fd00::/64", lit "fd00::10", lit "fd00::20",
    lit "fd00::1", lit "tap"⟩
  vfioConfig := none
  processes := ∅
  allocatedIPs := (∅ : GoMap Bool).set (lit "fd00::10") true
  ipPoolStart := .v6 ⟨0xfd00 * 2 ^ 112 + 0x10, by decide⟩ []
  ipPoolEnd := .v6 ⟨0xfd00 * 2 ^ 112 + 0x20, by decide⟩ []
  subnet := ⟨.v6 ⟨0xfd00 * 2 ^ 112, by decide⟩ [], 65, .inr ⟨rfl, by decide, rfl⟩⟩
  gatewayIP := .v6 ⟨0xfd00 * 2 ^ 112 + 1, by decide⟩ []

/-- `fd00::10%eth0` lies between the pool bounds in `Addr.Compare` order, is not the
gateway and its text is unmarked, and it sorts before `fd00::11`, the address
`allocateIP` hands out: the scan only visits addresses without a zone. -/
theorem allocateIP_zoned_address_first :
    zonedPoolExample.validateNetworkConfig = .ok () ∧
    zonedPoolExample.allocateIP.map Prod.fst = .ok (lit "fd00::11") ∧
    let zoned := Addr.v6 ⟨0xfd00 * 2 ^ 112 + 0x10, by decide⟩ (lit "eth0")
    zonedPoolExample.ipPoolStart.le zoned ∧ zoned.le zonedPoolExample.ipPoolEnd ∧
      zoned ≠ zonedPoolExample.gatewayIP ∧
      zonedPoolExample.allocatedIPs.get false zoned.string = false ∧
      zoned.compare (.v6 ⟨0xfd00 * 2 ^ 112 + 0x11, by decide⟩ []) = .lt := by
  decide

end Driver

end NomadDriverCh.Cloudhypervisor
