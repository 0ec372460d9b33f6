import NomadDriverCh.Chnet.Controller

/-!
# Runs of the controller over many VMs

A run of the port-forwarding controller is an interleaving of `VMStartedBuild` calls, for
any VMs, with any outcome of each iptables call and of iptables being available, and of
`VMTerminatedTeardown` calls on the teardown specs the builds returned.  A run is followed
with its ledger: the specs handed out and not torn down yet, and the rules no live spec
accounts for, those of builds that returned no spec (a failed lookup or `Append` after
others succeeded) and those of teardowns skipped for lack of iptables (`LedgerReachable`).
A call that panics stops the plugin and ends the run.

Along every run whose teardowns either find iptables and have every call succeed or find
no iptables at all, the firewall holds the rules it started with, the leaked rules and one
copy of each live spec's rules, up to order; a teardown of a live spec whose calls succeed
returns nil and removes exactly that spec's rules (`LedgerReachable.rules_perm`).  No rule
of one VM is lost or deleted by another's teardown.
-/

namespace NomadDriverCh.Chnet

/-- A run's ledger: the firewall, the specs handed out and not torn down yet, and the rules
no live spec accounts for. -/
structure Ledger where
  host : Host
  live : List TeardownSpec
  leaked : List RuleSpec

def liveRules (live : List TeardownSpec) : List RuleSpec :=
  live.flatMap TeardownSpec.iptablesRules

/-- The ledgers reached from the firewall `h₀`: a build that returns a spec adds it to the
live specs, one that returns none or an error leaks what it appended; a teardown of a live
spec either finds iptables and has every call succeed, or finds none and leaks the spec's
rules. -/
inductive LedgerReachable (c : Controller) (h₀ : Host) : Ledger → Prop
  | start : LedgerReachable c h₀ ⟨h₀, [], []⟩
  | buildSpec {L : Ledger} {bridgeExists : GoString → Bool} {iptNew : Except GoError Unit}
      {req : Option VMStartedBuildRequest} {outs : List Outcome} {h' : Host}
      {resp : VMStartedBuildResponse} {spec : TeardownSpec} :
      LedgerReachable c h₀ L →
      c.vmStartedBuild bridgeExists iptNew req L.host outs = .ok (h', .ok resp) →
      resp.teardownSpec = some spec → LedgerReachable c h₀ ⟨h', spec :: L.live, L.leaked⟩
  | buildNoSpec {L : Ledger} {bridgeExists : GoString → Bool} {iptNew : Except GoError Unit}
      {req : Option VMStartedBuildRequest} {outs : List Outcome} {h' : Host}
      {r : Except GoError VMStartedBuildResponse} :
      LedgerReachable c h₀ L →
      c.vmStartedBuild bridgeExists iptNew req L.host outs = .ok (h', r) →
      (∀ resp, r = .ok resp → resp.teardownSpec = none) →
      LedgerReachable c h₀ ⟨h', L.live, L.leaked ++ h'.rules.drop L.host.rules.length⟩
  | teardown {L : Ledger} {spec : TeardownSpec} {outs : List Outcome} {h' : Host}
      {errs : List GoError} :
      LedgerReachable c h₀ L → spec ∈ L.live → (∀ o ∈ outs, o = .ok) →
      vmTerminatedTeardown (some ⟨some spec⟩) (.ok ()) L.host outs = .ok (h', errs) →
      LedgerReachable c h₀ ⟨h', L.live.erase spec, L.leaked⟩
  | teardownSkipped {L : Ledger} {spec : TeardownSpec} {e : GoError} {outs : List Outcome}
      {h' : Host} {errs : List GoError} :
      LedgerReachable c h₀ L → spec ∈ L.live →
      vmTerminatedTeardown (some ⟨some spec⟩) (.error e) L.host outs = .ok (h', errs) →
      LedgerReachable c h₀ ⟨h', L.live.erase spec, L.leaked ++ spec.iptablesRules⟩

/-! ## The ledger's accounts -/

theorem liveRules_cons (spec : TeardownSpec) (live : List TeardownSpec) :
    liveRules (spec :: live) = spec.iptablesRules ++ liveRules live :=
  List.flatMap_cons _ _ _

theorem liveRules_perm_erase {spec : TeardownSpec} {live : List TeardownSpec} (h : spec ∈ live) :
    (liveRules live).Perm (spec.iptablesRules ++ liveRules (live.erase spec)) := by
  rw [← liveRules_cons]
  exact (List.perm_cons_erase h).flatMap_right _

/-- The firewall holds the rules it started with, the leaked rules and the live rules, up to
order, and every live rule has a table and a chain. -/
def LedgerInv (h₀ : Host) (L : Ledger) : Prop :=
  L.host.rules.Perm (h₀.rules ++ L.leaked ++ liveRules L.live) ∧
    ∀ r ∈ liveRules L.live, PortRule r

section Steps

variable {c : Controller} {h₀ : Host} {L : Ledger}

private theorem perm_append_before {rules A live : List RuleSpec} (h : rules.Perm (A ++ live))
    (added : List RuleSpec) : (rules ++ added).Perm (A ++ (added ++ live)) :=
  (h.append_right added).trans (by
    rw [List.append_assoc]
    exact List.perm_append_comm.append_left A)

private theorem perm_diff_of_perm {rules A R : List RuleSpec} (h : rules.Perm (A ++ R)) :
    (rules.diff R).Perm A :=
  (perm_diff_right h R).trans (append_diff_perm A R)

private theorem perm_split_live {rules A : List RuleSpec} {live : List TeardownSpec}
    {spec : TeardownSpec} (h : rules.Perm (A ++ liveRules live)) (hs : spec ∈ live) :
    rules.Perm (A ++ liveRules (live.erase spec) ++ spec.iptablesRules) := by
  refine h.trans ?_
  rw [List.append_assoc]
  exact ((liveRules_perm_erase hs).trans List.perm_append_comm).append_left A

private theorem portRule_erase {live : List TeardownSpec} {spec : TeardownSpec}
    (hs : spec ∈ live) (hp : ∀ r ∈ liveRules live, PortRule r) :
    (∀ r ∈ spec.iptablesRules, PortRule r) ∧
      ∀ r ∈ liveRules (live.erase spec), PortRule r :=
  ⟨fun r hr => hp r ((liveRules_perm_erase hs).symm.subset (List.mem_append_left _ hr)),
    fun r hr => hp r ((liveRules_perm_erase hs).symm.subset (List.mem_append_right _ hr))⟩

theorem LedgerInv.buildSpec {bridgeExists : GoString → Bool} {iptNew : Except GoError Unit}
    {req : Option VMStartedBuildRequest} {outs : List Outcome} {h' : Host}
    {resp : VMStartedBuildResponse} {spec : TeardownSpec} (hi : LedgerInv h₀ L)
    (hv : c.vmStartedBuild bridgeExists iptNew req L.host outs = .ok (h', .ok resp))
    (hs : resp.teardownSpec = some spec) : LedgerInv h₀ ⟨h', spec :: L.live, L.leaked⟩ := by
  obtain ⟨added, hr, hp, hR⟩ := Controller.vmStartedBuild_appends hv
  have hspec : spec.iptablesRules = added := hR resp spec rfl hs
  unfold LedgerInv
  dsimp only
  rw [liveRules_cons, hspec, hr]
  refine ⟨perm_append_before hi.1 added, fun r hr' => ?_⟩
  rcases List.mem_append.mp hr' with h | h
  exacts [hp r h, hi.2 r h]

theorem LedgerInv.buildNoSpec {bridgeExists : GoString → Bool} {iptNew : Except GoError Unit}
    {req : Option VMStartedBuildRequest} {outs : List Outcome} {h' : Host}
    {r : Except GoError VMStartedBuildResponse} (hi : LedgerInv h₀ L)
    (hv : c.vmStartedBuild bridgeExists iptNew req L.host outs = .ok (h', r)) :
    LedgerInv h₀ ⟨h', L.live, L.leaked ++ h'.rules.drop L.host.rules.length⟩ := by
  obtain ⟨added, hr, -, -⟩ := Controller.vmStartedBuild_appends hv
  refine ⟨?_, hi.2⟩
  rw [hr, List.drop_left, ← List.append_assoc h₀.rules]
  simpa only [List.append_assoc] using perm_append_before hi.1 added

theorem LedgerInv.teardown {spec : TeardownSpec} {outs : List Outcome} {h' : Host}
    {errs : List GoError} (hi : LedgerInv h₀ L) (hs : spec ∈ L.live)
    (hok : ∀ o ∈ outs, o = .ok)
    (ht : vmTerminatedTeardown (some ⟨some spec⟩) (.ok ()) L.host outs = .ok (h', errs)) :
    errs = [] ∧ LedgerInv h₀ ⟨h', L.live.erase spec, L.leaked⟩ := by
  obtain ⟨hR, hp⟩ := portRule_erase hs hi.2
  obtain ⟨h'', errs', deleted, hrun, -, hrules, hnil, hall⟩ := deleteRules_spec L.host hR outs
  have ht' : deleteRules L.host spec.iptablesRules outs = .ok (h', errs) := ht
  rw [ht'] at hrun
  obtain ⟨rfl, rfl⟩ := Prod.mk.inj (Except.ok.inj hrun)
  have herrs := hall.mpr fun o ho => hok o (List.mem_of_mem_take ho)
  refine ⟨herrs, ?_, hp⟩
  rw [hrules, hnil herrs]
  exact perm_diff_of_perm (perm_split_live hi.1 hs)

theorem LedgerInv.teardownSkipped {spec : TeardownSpec} {e : GoError} {outs : List Outcome}
    {h' : Host} {errs : List GoError} (hi : LedgerInv h₀ L) (hs : spec ∈ L.live)
    (ht : vmTerminatedTeardown (some ⟨some spec⟩) (.error e) L.host outs = .ok (h', errs)) :
    LedgerInv h₀ ⟨h', L.live.erase spec, L.leaked ++ spec.iptablesRules⟩ := by
  cases ht
  refine ⟨?_, (portRule_erase hs hi.2).2⟩
  have h := perm_split_live hi.1 hs
  rw [List.append_assoc, List.append_assoc] at h ⊢
  exact h.trans (List.perm_append_comm.append_left _ |>.append_left _)

end Steps

theorem LedgerReachable.inv {c : Controller} {h₀ : Host} {L : Ledger}
    (hL : LedgerReachable c h₀ L) : LedgerInv h₀ L := by
  induction hL with
  | start => exact ⟨by simp [liveRules], by simp [liveRules]⟩
  | buildSpec _ hv hs ih => exact ih.buildSpec hv hs
  | buildNoSpec _ hv _ ih => exact ih.buildNoSpec hv
  | teardown _ hs hok ht ih => exact (ih.teardown hs hok ht).2
  | teardownSkipped _ hs ht ih => exact ih.teardownSkipped hs ht

/-- Along every run of the controller from a firewall `h₀`, the firewall holds `h₀`'s rules,
the leaked rules and one copy of each live spec's rules, up to order; and a teardown of a
live spec whose calls all succeed returns nil and removes exactly that spec's rules. -/
theorem LedgerReachable.rules_perm {c : Controller} {h₀ : Host} {L : Ledger}
    (hL : LedgerReachable c h₀ L) :
    L.host.rules.Perm (h₀.rules ++ L.leaked ++ liveRules L.live) ∧
      ∀ spec ∈ L.live, ∀ outs : List Outcome, (∀ o ∈ outs, o = .ok) →
        ∃ h', vmTerminatedTeardown (some ⟨some spec⟩) (.ok ()) L.host outs = .ok (h', []) ∧
          h'.rules.Perm (h₀.rules ++ L.leaked ++ liveRules (L.live.erase spec)) := by
  have hi := hL.inv
  refine ⟨hi.1, fun spec hs outs hok => ?_⟩
  obtain ⟨h', errs, -, hrun, -⟩ := deleteRules_spec L.host (portRule_erase hs hi.2).1 outs
  have ht : vmTerminatedTeardown (some ⟨some spec⟩) (.ok ()) L.host outs = .ok (h', errs) :=
    hrun
  obtain ⟨rfl, hi'⟩ := hi.teardown hs hok ht
  exact ⟨h', ht, hi'.1⟩

/-- The web task's build, then the two-port task's build, which fails after appending its
first port's rules: the web spec is live and those rules are leaked. -/
theorem rules_perm_web_then_leak :
    LedgerReachable webController ⟨driverChains, []⟩
        ⟨⟨driverChains, webRules ++ webRules⟩, [webBuildSpec], webRules⟩ ∧
      (webRules ++ webRules).Perm ([] ++ webRules ++ liveRules [webBuildSpec]) ∧
      ∀ spec ∈ [webBuildSpec], ∀ outs : List Outcome, (∀ o ∈ outs, o = .ok) →
        ∃ h', vmTerminatedTeardown (some ⟨some spec⟩) (.ok ())
            ⟨driverChains, webRules ++ webRules⟩ outs = .ok (h', []) ∧
          h'.rules.Perm ([] ++ webRules ++ liveRules ([webBuildSpec].erase spec)) :=
  have hweb : webController.vmStartedBuild (fun _ => true) (.ok ()) (some webRequest)
      ⟨driverChains, []⟩ [] =
        .ok (⟨driverChains, webRules⟩,
          .ok ⟨some ⟨lit "192.168.254.10"⟩, some webBuildSpec⟩) := by
    decide
  have hleak : webController.vmStartedBuild (fun _ => true) (.ok ()) (some twoPortRequest)
      ⟨driverChains, webRules⟩ [] =
        .ok (⟨driverChains, webRules ++ webRules⟩,
          .error (lit "failed to configure port mapping: " ++
            lit "failed to identify IP interface: " ++ lit "failed to find interface for IP " ++
            quote (lit "10.0.0.6"))) := by
    decide
  have hL : LedgerReachable webController ⟨driverChains, []⟩
      ⟨⟨driverChains, webRules ++ webRules⟩, [webBuildSpec], webRules⟩ :=
    .buildNoSpec (.buildSpec .start hweb rfl) hleak (fun _ h => by cases h)
  ⟨hL, LedgerReachable.rules_perm hL⟩

end NomadDriverCh.Chnet
