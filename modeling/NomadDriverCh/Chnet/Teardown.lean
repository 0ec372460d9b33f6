import NomadDriverCh.Chnet.PortMapping

/-!
# Teardown: `VMTerminatedTeardown`

`VMTerminatedTeardown` deletes every rule of the teardown spec with `DeleteIfExists`,
collecting the errors instead of stopping at the first, so that the caller can run it
again until it returns nil.  A run deletes the first copy of each rule whose deletion
succeeds, so the firewall after it is the one before it minus a sublist of the spec's
rules (`deleteRules_spec`).

Started from rules `B` and at most one copy of each rule a successful `configureIPTables`
returned, in any order, retries never touch `B`, keep the rest a sub-multiset of the spec,
and a run that returns nil leaves exactly `B` (`vmTerminatedTeardown_retries`).  A run
returns nil exactly when each of its calls succeeds, so a later run changes nothing but
still reports the failures of its calls.
-/

namespace NomadDriverCh.Chnet

structure TeardownSpec where
  iptablesRules : List RuleSpec
  dhcpReservation : GoString
  network : GoString
  deriving DecidableEq, Repr

structure VMTerminatedTeardownRequest where
  teardownSpec : Option TeardownSpec
  deriving DecidableEq, Repr

/-- The loop of `VMTerminatedTeardown`: delete each rule and collect the errors.  A rule
with fewer than two elements is indexed out of range. -/
def deleteRules (h : Host) : List RuleSpec → List Outcome → Except Panic (Host × List GoError)
  | [], _ => .ok (h, [])
  | [] :: _, _ | [_] :: _, _ => .error .indexOutOfRange
  | (t :: c :: args) :: rules, outs =>
    match h.deleteIfExists t c args (next outs).1 with
    | (h, .ok ()) => deleteRules h rules (next outs).2
    | (h, .error e) =>
      (deleteRules h rules (next outs).2).map fun (h, errs) =>
        (h, (lit "failed to delete iptables " ++ quote t ++ lit " entry in " ++ quote c ++
          lit " chain: " ++ e.msg) :: errs)

/-- `VMTerminatedTeardown`: the firewall after it and the errors of its multierror; without
a spec or without iptables it does nothing. -/
def vmTerminatedTeardown (req : Option VMTerminatedTeardownRequest)
    (iptNew : Except GoError Unit) (h : Host) (outs : List Outcome) :
    Except Panic (Host × List GoError) :=
  match req with
  | none => .ok (h, [])
  | some r =>
    match r.teardownSpec with
    | none => .ok (h, [])
    | some spec =>
      match iptNew with
      | .error _ => .ok (h, [])
      | .ok () => deleteRules h spec.iptablesRules outs

/-! ## One run -/

theorem forall_take_next {outs : List Outcome} {n : Nat} :
    (∀ o ∈ outs.take (n + 1), o = .ok) ↔
      (next outs).1 = .ok ∧ ∀ o ∈ (next outs).2.take n, o = .ok := by
  cases outs <;> simp [next]

/-- A run over rules that all have a table and a chain returns, having deleted a first
copy of each rule of a sublist of them; it returns nil only if that sublist is all of
them, and exactly when each of its calls succeeds. -/
theorem deleteRules_spec (h : Host) {rules : List RuleSpec} (hr : ∀ r ∈ rules, PortRule r)
    (outs : List Outcome) :
    ∃ h' errs deleted, deleteRules h rules outs = .ok (h', errs) ∧ deleted.Sublist rules ∧
      h'.rules = h.rules.diff deleted ∧ (errs = [] → deleted = rules) ∧
      (errs = [] ↔ ∀ o ∈ outs.take rules.length, o = .ok) := by
  induction rules generalizing h outs with
  | nil => exact ⟨h, [], [], rfl, .slnil, rfl, fun _ => rfl, by simp⟩
  | cons r rules ih =>
    obtain ⟨t, c, args, rfl⟩ := hr r (List.mem_cons_self _ _)
    have hrest := fun r' h' => hr r' (List.mem_cons_of_mem _ h')
    rw [List.length_cons, forall_take_next]
    cases ho : (next outs).1 with
    | ok =>
      obtain ⟨h', errs, deleted, hrun, hsub, hrules, hnil, hok⟩ :=
        ih { h with rules := h.rules.erase (t :: c :: args) } hrest (next outs).2
      refine ⟨h', errs, (t :: c :: args) :: deleted, ?_, hsub.cons₂ _, by simpa using hrules,
        fun he => by rw [hnil he], by simpa using hok⟩
      simp [deleteRules, ho, Host.deleteIfExists, hrun]
    | fail e =>
      obtain ⟨h', errs, deleted, hrun, hsub, hrules, -, -⟩ := ih h hrest (next outs).2
      refine ⟨h', (lit "failed to delete iptables " ++ quote t ++ lit " entry in " ++ quote c ++
        lit " chain: " ++ e.msg) :: errs, deleted, ?_, hsub.cons _, hrules,
        (fun he => by cases he), by simp⟩
      simp [deleteRules, ho, Host.deleteIfExists, hrun, Except.map]

/-! ## Retried runs -/

/-- The firewalls reached from `h₀` by teardown runs of one request, with iptables
available and any outcome of each call. -/
inductive TeardownReachable (req : VMTerminatedTeardownRequest) (h₀ : Host) : Host → Prop
  | start : TeardownReachable req h₀ h₀
  | run {h h' : Host} {errs : List GoError} (outs : List Outcome) :
      TeardownReachable req h₀ h →
      vmTerminatedTeardown (some req) (.ok ()) h outs = .ok (h', errs) →
      TeardownReachable req h₀ h'

theorem filter_diff (p : RuleSpec → Bool) (l d : List RuleSpec) :
    (l.diff d).filter p = (l.filter p).diff d := by
  induction d generalizing l with
  | nil => rfl
  | cons x d ih => rw [List.diff_cons, List.diff_cons, ih, List.erase_filter]

theorem diff_of_disjoint {l d : List RuleSpec} (h : ∀ x ∈ d, x ∉ l) : l.diff d = l := by
  induction d with
  | nil => rfl
  | cons x d ih =>
    rw [List.diff_cons, List.erase_of_not_mem (h x (List.mem_cons_self _ _))]
    exact ih fun y hy => h y (List.mem_cons_of_mem _ hy)

theorem diff_self_nil (l : List RuleSpec) : l.diff l = [] := by
  induction l with
  | nil => rfl
  | cons x l ih => rw [List.diff_cons, List.erase_cons_head, ih]

/-- Mathlib's `Subperm.diff_right`, for the equality test the firewall deletes with. -/
theorem subperm_diff_right {l₁ l₂ : List RuleSpec} (h : List.Subperm l₁ l₂)
    (t : List RuleSpec) : List.Subperm (l₁.diff t) (l₂.diff t) := by
  convert h.diff_right t using 2 <;> exact lawful_beq_subsingleton _ _

/-- Mathlib's `Perm.diff_right`, for the equality test the firewall deletes with. -/
theorem perm_diff_right {l₁ l₂ : List RuleSpec} (h : l₁.Perm l₂) (t : List RuleSpec) :
    (l₁.diff t).Perm (l₂.diff t) := by
  convert h.diff_right t using 2 <;> exact lawful_beq_subsingleton _ _

theorem append_diff_self (l a : List RuleSpec) : (a ++ l).diff a = l := by
  induction a with
  | nil => rfl
  | cons x a ih => rw [List.cons_append, List.diff_cons, List.erase_cons_head, ih]

theorem append_diff_perm (l a : List RuleSpec) : ((l ++ a).diff a).Perm l := by
  have hp := perm_diff_right (List.perm_append_comm : (l ++ a).Perm (a ++ l)) a
  rwa [append_diff_self] at hp

section Retries

variable {B R : List RuleSpec}

/-- The firewall's rules outside the spec's rules `R` are `B`, and those of `R` left are a
sub-multiset of `R`. -/
def TeardownInv (B R rules : List RuleSpec) : Prop :=
  rules.filter (· ∉ R) = B ∧ List.Subperm (rules.filter (· ∈ R)) R

theorem TeardownInv.disjoint {rules : List RuleSpec} (hi : TeardownInv B R rules) :
    ∀ x ∈ R, x ∉ B := by
  intro x hx hB
  rw [← hi.1] at hB
  simpa [hx] using List.of_mem_filter hB

theorem TeardownInv.append (hB : ∀ x ∈ B, x ∉ R) : TeardownInv B R (B ++ R) := by
  refine ⟨?_, ?_⟩ <;> rw [List.filter_append]
  · rw [List.filter_eq_self.mpr (by simpa using hB), List.filter_eq_nil_iff.mpr (by simp),
      List.append_nil]
  · rw [List.filter_eq_nil_iff.mpr (by simpa using hB), List.filter_eq_self.mpr (by simp)]
    exact List.Subperm.refl _

theorem TeardownInv.diff {rules deleted : List RuleSpec} (hi : TeardownInv B R rules)
    (hd : deleted.Sublist R) : TeardownInv B R (rules.diff deleted) := by
  have hdis : ∀ x ∈ deleted, x ∉ B := fun x hx => hi.disjoint x (hd.subset hx)
  refine ⟨?_, ?_⟩
  · rw [filter_diff, hi.1, diff_of_disjoint hdis]
  · rw [filter_diff]
    exact (subperm_diff_right hi.2 deleted).trans (List.diff_sublist R deleted).subperm

theorem TeardownInv.diff_self {rules : List RuleSpec} (hi : TeardownInv B R rules) :
    rules.diff R = B := by
  have hnone : (rules.diff R).filter (· ∈ R) = [] := by
    rw [filter_diff, ← List.subperm_nil, ← diff_self_nil R]
    exact subperm_diff_right hi.2 R
  rw [← (hi.diff (List.Sublist.refl R)).1, List.filter_eq_self.mpr]
  intro x hx
  simpa using List.filter_eq_nil_iff.mp hnone x hx

/-- One run from a firewall in the invariant returns, keeps the invariant, leaves exactly
`B` when it returns nil, changes nothing when only `B` is left, and returns nil exactly
when every call succeeds. -/
theorem TeardownInv.run {spec : TeardownSpec} (hR : ∀ r ∈ spec.iptablesRules, PortRule r)
    {h : Host} (hi : TeardownInv B spec.iptablesRules h.rules) (outs : List Outcome) :
    ∃ h' errs, vmTerminatedTeardown (some ⟨some spec⟩) (.ok ()) h outs = .ok (h', errs) ∧
      TeardownInv B spec.iptablesRules h'.rules ∧ (errs = [] → h'.rules = B) ∧
      (h.rules = B → h'.rules = B) ∧
      (errs = [] ↔ ∀ o ∈ outs.take spec.iptablesRules.length, o = .ok) := by
  obtain ⟨h', errs, deleted, hrun, hsub, hrules, hnil, hok⟩ := deleteRules_spec h hR outs
  refine ⟨h', errs, hrun, hrules ▸ hi.diff hsub, fun he => ?_, fun hB => ?_, hok⟩
  · rw [hrules, hnil he, hi.diff_self]
  · rw [hrules, hB, diff_of_disjoint fun x hx => hi.disjoint x (hsub.subset hx)]

theorem TeardownReachable.inv {spec : TeardownSpec} (hR : ∀ r ∈ spec.iptablesRules, PortRule r)
    {h₀ h : Host} (h0 : TeardownInv B spec.iptablesRules h₀.rules)
    (hreach : TeardownReachable ⟨some spec⟩ h₀ h) :
    TeardownInv B spec.iptablesRules h.rules := by
  induction hreach with
  | start => exact h0
  | run outs _ hrun ih =>
    obtain ⟨_, _, hrun', hi', -⟩ := ih.run hR outs
    rw [hrun'] at hrun
    cases hrun
    exact hi'

end Retries

def webPort : AllocatedPortMapping := ⟨lit "http", 8080, 80, lit "10.0.0.5"⟩

def webBridge : Net.NetworkInterfaceBridgeConfig := ⟨lit "br0", [lit "http"], [], [], [], []⟩

def webRules : List RuleSpec :=
  [preRouteArgs webPort (lit "eth0") (lit "192.168.254.10"),
    filterArgs webPort (lit "192.168.254.10")]

def driverChains : List (GoString × GoString) :=
  [(iptablesNATTableName, preroutingIPTablesChainName),
    (iptablesFilterTableName, forwardIPTablesChainName)]

end NomadDriverCh.Chnet
