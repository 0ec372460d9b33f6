import NomadDriverCh.Chnet.IPTables

/-!
# `Init`: the driver's chains and the jumps to them

`ensureIPTables` makes sure the chain `NOMAD_CH_PRT` exists in the `nat` table and
`NOMAD_CH_FW` in the `filter` table, and inserts a jump to each at the top of
`PREROUTING` and `FORWARD`.  `ensureIPTablesChain` lists the table's chains, creates the
chain when it is not listed, and takes a creation failing with exit status 1 for a chain
another process created meanwhile.  The jump is inserted only by the run that created
the chain.

So no run ever adds a second jump, and a jump never outlives its chain; but a run that
finds the chain listed returns `nil` without looking for the jump, so a chain whose
jump could not be inserted by the run that created it stays without one.
-/

namespace NomadDriverCh.Chnet

namespace Host

/-- `ensureIPTablesChain`: the firewall, the rest of the script, and whether the call
created the chain. -/
def ensureIPTablesChain (h : Host) (outs : List Outcome) (table chain : GoString) :
    Host × List Outcome × Except IptError Bool :=
  match h.listChainsCall table (next outs).1 with
  | .error e => (h, (next outs).2, .error e)
  | .ok chains =>
    if chain ∈ chains then (h, (next outs).2, .ok false)
    else
      let outs := (next outs).2
      match h.newChain table chain (next outs).1 with
      | (h, .ok ()) => (h, (next outs).2, .ok true)
      | (h, .error e) =>
        if e.exitStatus = some 1 then (h, (next outs).2, .ok false)
        else (h, (next outs).2, .error e)

def jumpRule (table parent chain : GoString) : RuleSpec := [table, parent, lit "-j", chain]

/-- One half of `ensureIPTables`: ensure `chain` in `table`, and insert a jump to it at the
top of `parent` when this call created it. -/
def ensureChainJump (h : Host) (outs : List Outcome) (table parent chain : GoString) :
    Host × List Outcome × Option GoError :=
  match h.ensureIPTablesChain outs table chain with
  | (h, outs, .error e) =>
    (h, outs, some (lit "failed to create iptables chain " ++ quote chain ++ lit ": " ++ e.msg))
  | (h, outs, .ok false) => (h, outs, none)
  | (h, outs, .ok true) =>
    match h.insert table parent [lit "-j", chain] (next outs).1 with
    | (h, .error e) => (h, (next outs).2, some e.msg)
    | (h, .ok ()) => (h, (next outs).2, none)

def ensureIPTables (h : Host) (iptNew : Except GoError Unit) (outs : List Outcome) :
    Host × Option GoError :=
  match iptNew with
  | .error _ => (h, none)
  | .ok () =>
    match h.ensureChainJump outs iptablesNATTableName (lit "PREROUTING")
        preroutingIPTablesChainName with
    | (h, _, some e) => (h, some e)
    | (h, outs, none) =>
      let r := h.ensureChainJump outs iptablesFilterTableName (lit "FORWARD")
        forwardIPTablesChainName
      (r.1, r.2.2)

/-! ## What a run can do -/

theorem ensureIPTablesChain_cases (h : Host) (outs : List Outcome) (table chain : GoString) :
    let r := h.ensureIPTablesChain outs table chain
    (r.1 = h ∧ r.2.2 ≠ .ok true) ∨
      (r.2.2 = .ok true ∧ chain ∉ h.listChains table ∧
        r.1 = { h with chains := h.chains ++ [(table, chain)] }) := by
  unfold ensureIPTablesChain
  cases (next outs).1 <;> simp only [listChainsCall]
  · split_ifs with hc
    · simp
    · cases (next (next outs).2).1 <;> simp only [newChain, if_neg hc]
      · simp [hc]
      · split_ifs <;> simp
  · simp

theorem insert_cases (h : Host) (t c : GoString) (args : List GoString) (o : Outcome) :
    (h.insert t c args o).1.chains = h.chains ∧
      ((h.insert t c args o).1.rules = h.rules ∨
        (h.insert t c args o).1.rules = (t :: c :: args) :: h.rules) := by
  cases o <;> simp [insert]

theorem listChains_append_chains (h : Host) (x : GoString × GoString) {t c : GoString}
    (hc : c ∈ h.listChains t) : c ∈ { h with chains := h.chains ++ [x] }.listChains t := by
  simp only [listChains, List.mem_append, List.mem_map, List.mem_filter] at hc ⊢
  rcases hc with hc | ⟨y, ⟨hy, ht⟩, rfl⟩
  · exact .inl hc
  · exact .inr ⟨y, ⟨.inl hy, ht⟩, rfl⟩

theorem ensureChainJump_cases (h : Host) (outs : List Outcome) (t p c : GoString) :
    let r := h.ensureChainJump outs t p c
    (∀ t' c', c' ∈ h.listChains t' → c' ∈ r.1.listChains t') ∧
      (r.1.rules = h.rules ∨
        (c ∉ h.listChains t ∧ c ∈ r.1.listChains t ∧
          r.1.rules = jumpRule t p c :: h.rules)) := by
  have hc := ensureIPTablesChain_cases h outs t c
  unfold ensureChainJump
  split
  case h_3 outs' heq =>
    simp only [heq] at hc
    obtain ⟨-, h1⟩ | ⟨-, hcl, rfl⟩ := hc
    · exact absurd rfl h1
    have hi := insert_cases { h with chains := h.chains ++ [(t, c)] } t p [lit "-j", c]
      (next outs').1
    have hmono : ∀ t' c', c' ∈ h.listChains t' →
        c' ∈ { h with chains := h.chains ++ [(t, c)] }.listChains t' :=
      fun _ _ => listChains_append_chains h (t, c)
    have hin : c ∈ { h with chains := h.chains ++ [(t, c)] }.listChains t := by
      simp [listChains]
    split <;> rename_i heq2 <;> simp only [heq2] at hi <;> obtain ⟨hch, hr⟩ := hi <;>
      simp only [listChains, hch] at hmono hin ⊢ <;>
      exact ⟨hmono, hr.imp id fun hr => ⟨hcl, hin, hr⟩⟩
  all_goals
    rename_i heq
    simp only [heq] at hc
    obtain ⟨rfl, -⟩ | ⟨h1, -⟩ := hc
    · exact ⟨fun _ _ h => h, .inl rfl⟩
    · cases h1

end Host

/-- `parent` holds at most one jump to `chain`, and holds one only while `chain` exists. -/
def JumpWellFormed (h : Host) (table parent chain : GoString) : Prop :=
  h.rules.count (Host.jumpRule table parent chain) ≤ 1 ∧
    (0 < h.rules.count (Host.jumpRule table parent chain) → chain ∈ h.listChains table)

theorem JumpWellFormed.ensureChainJump {h : Host} {t p c t' p' c' : GoString}
    (hwf : JumpWellFormed h t' p' c')
    (hsep : (t, p, c) = (t', p', c') ∨ Host.jumpRule t p c ≠ Host.jumpRule t' p' c')
    (outs : List Outcome) : JumpWellFormed (h.ensureChainJump outs t p c).1 t' p' c' := by
  obtain ⟨hmono, hr | ⟨hc, hin, hr⟩⟩ := Host.ensureChainJump_cases h outs t p c
  · rw [JumpWellFormed, hr]
    exact ⟨hwf.1, fun hpos => hmono _ _ (hwf.2 hpos)⟩
  · rw [JumpWellFormed, hr]
    rcases hsep with heq | hne
    · obtain ⟨rfl, rfl, rfl⟩ : t = t' ∧ p = p' ∧ c = c' := by simpa using heq
      have h0 : h.rules.count (Host.jumpRule t p c) = 0 :=
        Nat.eq_zero_of_not_pos fun hpos => hc (hwf.2 hpos)
      simp only [List.count_cons_self, h0]
      exact ⟨le_rfl, fun _ => hin⟩
    · rw [List.count_cons_of_ne hne.symm]
      exact ⟨hwf.1, fun hpos => hmono _ _ (hwf.2 hpos)⟩

def natJump : RuleSpec :=
  Host.jumpRule iptablesNATTableName (lit "PREROUTING") preroutingIPTablesChainName

def filterJump : RuleSpec :=
  Host.jumpRule iptablesFilterTableName (lit "FORWARD") forwardIPTablesChainName

def JumpsWellFormed (h : Host) : Prop :=
  JumpWellFormed h iptablesNATTableName (lit "PREROUTING") preroutingIPTablesChainName ∧
    JumpWellFormed h iptablesFilterTableName (lit "FORWARD") forwardIPTablesChainName

theorem JumpsWellFormed.ensureIPTables {h : Host} (hwf : JumpsWellFormed h)
    (iptNew : Except GoError Unit) (outs : List Outcome) :
    JumpsWellFormed (h.ensureIPTables iptNew outs).1 := by
  have hne : natJump ≠ filterJump := by decide
  unfold Host.ensureIPTables
  cases iptNew with
  | error e => exact hwf
  | ok u =>
    have h₁ : JumpsWellFormed (h.ensureChainJump outs iptablesNATTableName (lit "PREROUTING")
        preroutingIPTablesChainName).1 :=
      ⟨hwf.1.ensureChainJump (.inl rfl) outs, hwf.2.ensureChainJump (.inr hne) outs⟩
    revert h₁
    rcases h.ensureChainJump outs iptablesNATTableName (lit "PREROUTING")
      preroutingIPTablesChainName with ⟨h', outs', _ | e⟩ <;> intro h₁
    · exact ⟨h₁.1.ensureChainJump (.inr hne.symm) outs',
        h₁.2.ensureChainJump (.inl rfl) outs'⟩
    · exact h₁

/-- The firewalls reached by `Init` runs, each returning or not, from a host where neither
driver chain exists, and so no jump to either. -/
inductive InitReachable : Host → Prop
  | clean {h : Host} : preroutingIPTablesChainName ∉ h.listChains iptablesNATTableName →
      forwardIPTablesChainName ∉ h.listChains iptablesFilterTableName →
      h.rules.count natJump = 0 → h.rules.count filterJump = 0 → InitReachable h
  | run {h : Host} (iptNew : Except GoError Unit) (outs : List Outcome) :
      InitReachable h → InitReachable (h.ensureIPTables iptNew outs).1

/-- Along every sequence of `Init` runs, whatever each iptables call returns, `PREROUTING`
and `FORWARD` each hold at most one jump to the driver's chain, and hold it only while the
chain exists. -/
theorem InitReachable.jumpsWellFormed {h : Host} (hr : InitReachable h) : JumpsWellFormed h := by
  induction hr with
  | clean _ _ hn hf =>
    exact ⟨⟨by rw [← natJump, hn]; omega, fun h => by simp_all [natJump]⟩,
      ⟨by rw [← filterJump, hf]; omega, fun h => by simp_all [filterJump]⟩⟩
  | run iptNew outs _ ih => exact ih.ensureIPTables iptNew outs

def cleanHost : Host := ⟨[], []⟩

def afterLockedInsert : Host :=
  (cleanHost.ensureIPTables (.ok ()) [.ok, .ok, .fail xtablesLockBusy]).1

/-- The first run returns the lock error; a second run, every call succeeding, finds the
chain listed, inserts nothing and returns nil, leaving `PREROUTING` without a jump to the
chain. -/
theorem ensureIPTables_rerun_leaves_no_jump :
    (cleanHost.ensureIPTables (.ok ()) [.ok, .ok, .fail xtablesLockBusy]).2 =
        some xtablesLockBusy.msg ∧
      (afterLockedInsert.ensureIPTables (.ok ()) []).2 = none ∧
      preroutingIPTablesChainName ∈
        (afterLockedInsert.ensureIPTables (.ok ()) []).1.listChains iptablesNATTableName ∧
      (afterLockedInsert.ensureIPTables (.ok ()) []).1.rules.count natJump = 0 := by
  decide

theorem jumpsWellFormed_after_failed_insert :
    InitReachable afterLockedInsert ∧ JumpsWellFormed afterLockedInsert :=
  have hr := InitReachable.run (.ok ()) [.ok, .ok, .fail xtablesLockBusy]
    (.clean (h := cleanHost) (by decide) (by decide) rfl rfl)
  ⟨hr, InitReachable.jumpsWellFormed hr⟩

end NomadDriverCh.Chnet
