import NomadDriverCh.Chnet.IPTables
import NomadDriverCh.Net.Config

/-!
# Port mapping: `configureIPTables`

For each port label of the task's bridge, `configureIPTables` looks the label up among
the allocation's reserved ports (skipping a label that is not reserved), finds the host
interface that owns the reserved host IP (asking the host once per host IP and caching
the answer), appends a DNAT rule to `NOMAD_CH_PRT` and an accept rule to `NOMAD_CH_FW`,
and records both rules, verbatim, for the teardown.

The loop is written once, with its two effects explicit (`portLoop`): the interface
lookup, as a function threading a state, and the arguments of every `Append` call, the
failed one included.  With the source's lookup through `interfaceMapping`, which also
records the host IPs the getter is asked for (`cachedLookup`), `configureIPTables` is the
firewall and result of that loop; the record is the proofs' ghost state.

A failure stops the loop and returns the error without the rules recorded so far:
the rules of the ports already handled stay in the chains.  When the loop runs to the
end, the rules it returns are exactly the rules it appended (`configureIPTables_appends`).
-/

namespace NomadDriverCh.Chnet

open Net

/-- `structs.AllocatedPortMapping`: a port reserved for the allocation; `toPort` is its
field `To`, a keyword here. -/
structure AllocatedPortMapping where
  label : GoString
  value : Int
  toPort : Int
  hostIP : GoString
  deriving DecidableEq, Repr

def getPort (ports : List AllocatedPortMapping) (label : GoString) :
    Option AllocatedPortMapping :=
  ports.find? (·.label = label)

structure Resources where
  ports : Option (List AllocatedPortMapping)
  deriving DecidableEq, Repr

def preRouteArgs (p : AllocatedPortMapping) (iface ip : GoString) : RuleSpec :=
  [iptablesNATTableName, preroutingIPTablesChainName, lit "-d", p.hostIP, lit "-i", iface,
    lit "-p", lit "tcp", lit "-m", lit "tcp", lit "--dport", itoa p.value, lit "-j",
    lit "DNAT", lit "--to-destination", ip ++ lit ":" ++ itoa p.toPort]

def filterArgs (p : AllocatedPortMapping) (ip : GoString) : RuleSpec :=
  [iptablesFilterTableName, forwardIPTablesChainName, lit "-d", ip, lit "-p", lit "tcp",
    lit "-m", lit "state", lit "--state", lit "NEW", lit "-m", lit "tcp", lit "--dport",
    itoa p.toPort, lit "-j", lit "ACCEPT"]

def Host.appendRule (h : Host) (args : RuleSpec) (o : Outcome) : Host × Except IptError Unit :=
  h.append (args.getD 0 []) (args.getD 1 []) (args.drop 2) o

/-- The host interface owning a host IP, from the cache `interfaceMapping` or else asked
of the host and cached. -/
def lookupInterface (getter : GoString → Except GoError GoString) (cache : GoMap GoString)
    (hostIP : GoString) : Except GoError (GoString × GoMap GoString) :=
  match cache.lookup hostIP with
  | some iface => .ok (iface, cache)
  | none => (getter hostIP).map fun iface => (iface, cache.set hostIP iface)

def forwardRules (ip iface : GoString) (rp : AllocatedPortMapping) : List RuleSpec :=
  [preRouteArgs rp iface ip, filterArgs rp ip]

/-- What a run of the port loop leaves: the lookup's state, the arguments of the `Append`
calls it made, in order and the failed one included, the firewall and the result. -/
structure PortRun (σ : Type) where
  state : σ
  appends : List RuleSpec
  host : Host
  result : Except GoError (List RuleSpec)

/-- The loop of `configureIPTables` over the bridge's port labels, with the interface
lookup as a parameter, `lookup s hostIP` giving the lookup's next state and the interface
or the getter's error, and with the `Append` calls recorded. -/
def portLoop {σ : Type} (lookup : σ → GoString → σ × Except GoError GoString)
    (ports : Option (List AllocatedPortMapping)) (ip : GoString) :
    List GoString → σ → List RuleSpec → List RuleSpec → Host → List Outcome →
      Except Panic (PortRun σ)
  | [], s, teardown, appends, h, _ => .ok ⟨s, appends, h, .ok teardown⟩
  | label :: labels, s, teardown, appends, h, outs =>
    match ports with
    | none => .error .nilDereference
    | some ps =>
      match getPort ps label with
      | none => portLoop lookup ports ip labels s teardown appends h outs
      | some rp =>
        match lookup s rp.hostIP with
        | (s, .error e) =>
          .ok ⟨s, appends, h, .error (lit "failed to identify IP interface: " ++ e)⟩
        | (s, .ok iface) =>
          match h.appendRule (preRouteArgs rp iface ip) (next outs).1 with
          | (h, .error e) => .ok ⟨s, appends ++ [preRouteArgs rp iface ip], h, .error e.msg⟩
          | (h, .ok ()) =>
            let outs := (next outs).2
            match h.appendRule (filterArgs rp ip) (next outs).1 with
            | (h, .error e) => .ok ⟨s, appends ++ forwardRules ip iface rp, h, .error e.msg⟩
            | (h, .ok ()) =>
              portLoop lookup ports ip labels s (teardown ++ forwardRules ip iface rp)
                (appends ++ forwardRules ip iface rp) h (next outs).2

/-- `configureIPTables` with the loop's lookup as a parameter, started from the state `s₀`:
without iptables it records nothing; the bridge is read before its port labels, so a `nil`
bridge panics. -/
def configureIPTablesWith {σ : Type} (lookup : σ → GoString → σ × Except GoError GoString)
    (s₀ : σ) (iptNew : Except GoError Unit) (res : Resources)
    (cfg : Option NetworkInterfaceBridgeConfig) (ip : GoString) (h : Host)
    (outs : List Outcome) : Except Panic (PortRun σ) :=
  match iptNew with
  | .error _ => .ok ⟨s₀, [], h, .ok []⟩
  | .ok () =>
    match cfg with
    | none => .error .nilDereference
    | some cfg => portLoop lookup res.ports ip cfg.ports s₀ [] [] h outs

/-- The lookup of `configureIPTables`: `lookupInterface` on `interfaceMapping`, with the
host IPs the getter is asked for, in order; it is asked when the cache has no entry. -/
def cachedLookup (getter : GoString → Except GoError GoString)
    (s : GoMap GoString × List GoString) (hostIP : GoString) :
    (GoMap GoString × List GoString) × Except GoError GoString :=
  let asked := if (s.1.lookup hostIP).isSome then s.2 else s.2 ++ [hostIP]
  match lookupInterface getter s.1 hostIP with
  | .ok (iface, cache) => ((cache, asked), .ok iface)
  | .error e => ((s.1, asked), .error e)

/-- The loop of `configureIPTables` from an empty `interfaceMapping`, with the host IPs the
getter is asked for and the `Append` calls recorded.  `getter` is the controller's
`interfaceByIPGetter` applied to the parsed host IP. -/
def configureIPTablesCached (getter : GoString → Except GoError GoString) :
    Except GoError Unit → Resources → Option NetworkInterfaceBridgeConfig → GoString →
      Host → List Outcome → Except Panic (PortRun (GoMap GoString × List GoString)) :=
  configureIPTablesWith (cachedLookup getter) (∅, [])

def configureIPTables (getter : GoString → Except GoError GoString)
    (iptNew : Except GoError Unit) (res : Resources) (cfg : Option NetworkInterfaceBridgeConfig)
    (ip : GoString) (h : Host) (outs : List Outcome) :
    Except Panic (Host × Except GoError (List RuleSpec)) :=
  (configureIPTablesCached getter iptNew res cfg ip h outs).map fun r => (r.host, r.result)

/-! ## One turn of the loop -/

/-- A rule the loop records or appends is a DNAT or an accept rule, so it has a table and
a chain. -/
def PortRule (r : RuleSpec) : Prop :=
  ∃ t c args, r = t :: c :: args

theorem preRouteArgs_portRule (p : AllocatedPortMapping) (iface ip : GoString) :
    PortRule (preRouteArgs p iface ip) := ⟨_, _, _, rfl⟩

theorem filterArgs_portRule (p : AllocatedPortMapping) (ip : GoString) :
    PortRule (filterArgs p ip) := ⟨_, _, _, rfl⟩

theorem appendRule_cases (h : Host) {r : RuleSpec} (hr : PortRule r) (o : Outcome) :
    (∃ e, h.appendRule r o = (h, .error e)) ∨
      h.appendRule r o = ({ h with rules := h.rules ++ [r] }, .ok ()) := by
  obtain ⟨t, c, args, rfl⟩ := hr
  cases o with
  | ok => exact .inr rfl
  | fail e => exact .inl ⟨e, rfl⟩

section Turn

variable {σ : Type} (lookup : σ → GoString → σ × Except GoError GoString)
  {ps : List AllocatedPortMapping} (ip : GoString) {label : GoString} (labels : List GoString)
  (s : σ) (teardown appends : List RuleSpec) (h : Host) (outs : List Outcome)

/-- What one turn of the loop on a reserved port can do: stop at the lookup's error, stop
at the failed `Append` of the DNAT rule or of the accept rule, or append both, record them
and go on. -/
theorem portLoop_cons_reserved {rp : AllocatedPortMapping} (hg : getPort ps label = some rp) :
    (∃ s' e, lookup s rp.hostIP = (s', .error e) ∧
      portLoop lookup (some ps) ip (label :: labels) s teardown appends h outs =
        .ok ⟨s', appends, h, .error (lit "failed to identify IP interface: " ++ e)⟩) ∨
    ∃ s' iface, lookup s rp.hostIP = (s', .ok iface) ∧
      ((∃ e, portLoop lookup (some ps) ip (label :: labels) s teardown appends h outs =
          .ok ⟨s', appends ++ [preRouteArgs rp iface ip], h, .error e⟩) ∨
        (∃ e, portLoop lookup (some ps) ip (label :: labels) s teardown appends h outs =
          .ok ⟨s', appends ++ forwardRules ip iface rp,
            { h with rules := h.rules ++ [preRouteArgs rp iface ip] }, .error e⟩) ∨
        portLoop lookup (some ps) ip (label :: labels) s teardown appends h outs =
          portLoop lookup (some ps) ip labels s' (teardown ++ forwardRules ip iface rp)
            (appends ++ forwardRules ip iface rp)
            { h with rules := h.rules ++ forwardRules ip iface rp } (next (next outs).2).2) := by
  simp only [portLoop, hg]
  rcases lookup s rp.hostIP with ⟨s', _ | iface⟩
  · exact .inl ⟨s', _, rfl, rfl⟩
  refine .inr ⟨s', iface, rfl, ?_⟩
  rcases appendRule_cases h (preRouteArgs_portRule rp iface ip) (next outs).1 with
    ⟨e, he⟩ | he <;> simp only [he]
  · exact .inl ⟨_, rfl⟩
  rcases appendRule_cases { h with rules := h.rules ++ [preRouteArgs rp iface ip] }
    (filterArgs_portRule rp ip) (next (next outs).2).1 with ⟨e, he'⟩ | he' <;> simp only [he']
  · exact .inr (.inl ⟨_, rfl⟩)
  · exact .inr (.inr (by simp [forwardRules]))

end Turn

theorem portLoop_cons_unreserved {σ : Type} {lookup : σ → GoString → σ × Except GoError GoString}
    {ps : List AllocatedPortMapping} {ip label : GoString} {labels : List GoString} {s : σ}
    {teardown appends : List RuleSpec} {h : Host} {outs : List Outcome}
    (hg : getPort ps label = none) :
    portLoop lookup (some ps) ip (label :: labels) s teardown appends h outs =
      portLoop lookup (some ps) ip labels s teardown appends h outs := by
  simp only [portLoop, hg]

/-! ## The rules the loop leaves behind -/

theorem map_eq_error_iff {ε α β : Type} (f : α → β) (x : Except ε α) :
    (∃ p, x.map f = .error p) ↔ ∃ p, x = .error p := by
  cases x <;> simp [Except.map]

theorem map_eq_ok_iff {ε α β : Type} (f : α → β) (x : Except ε α) (b : β) :
    x.map f = .ok b ↔ ∃ a, x = .ok a ∧ f a = b := by
  cases x <;> simp [Except.map]


theorem portLoop_appends {σ : Type} {lookup : σ → GoString → σ × Except GoError GoString}
    {ports : Option (List AllocatedPortMapping)} {ip : GoString} {labels : List GoString}
    {s : σ} {teardown appends : List RuleSpec} {h : Host} {outs : List Outcome}
    {r : PortRun σ} (hl : portLoop lookup ports ip labels s teardown appends h outs = .ok r) :
    ∃ added, r.host.rules = h.rules ++ added ∧ r.host.chains = h.chains ∧
      (∀ x ∈ added, PortRule x) ∧ ∀ R, r.result = .ok R → R = teardown ++ added := by
  induction labels generalizing s teardown appends h outs with
  | nil =>
    cases hl
    exact ⟨[], by simp, rfl, by simp, fun R hR => by cases hR; simp⟩
  | cons label labels ih =>
    rcases ports with _ | ps
    · cases hl
    rcases hg : getPort ps label with _ | rp
    · exact ih (portLoop_cons_unreserved hg ▸ hl)
    have hfw : ∀ iface, ∀ x ∈ forwardRules ip iface rp, PortRule x := by
      simpa [forwardRules] using fun iface =>
        ⟨preRouteArgs_portRule rp iface ip, filterArgs_portRule rp ip⟩
    rcases portLoop_cons_reserved lookup ip labels s teardown appends h outs hg with
      ⟨s', e, -, he⟩ | ⟨s', iface, -, ⟨e, he⟩ | ⟨e, he⟩ | he⟩ <;> rw [he] at hl
    · cases hl
      exact ⟨[], by simp, rfl, by simp, fun R hR => by cases hR⟩
    · cases hl
      exact ⟨[], by simp, rfl, by simp, fun R hR => by cases hR⟩
    · cases hl
      exact ⟨[preRouteArgs rp iface ip], rfl, rfl,
        by simpa using preRouteArgs_portRule rp iface ip, fun R hR => by cases hR⟩
    obtain ⟨added, hr, hc, hp, hR⟩ := ih hl
    refine ⟨forwardRules ip iface rp ++ added, by simp [hr], hc, ?_, fun R h => by simp [hR R h]⟩
    simpa only [List.mem_append] using fun x hx => hx.elim (hfw iface x) (hp x)

theorem configureIPTables_appends {getter : GoString → Except GoError GoString}
    {iptNew : Except GoError Unit} {res : Resources} {cfg : Option NetworkInterfaceBridgeConfig}
    {ip : GoString} {h h' : Host} {outs : List Outcome} {r : Except GoError (List RuleSpec)}
    (hc : configureIPTables getter iptNew res cfg ip h outs = .ok (h', r)) :
    ∃ added, h'.rules = h.rules ++ added ∧ h'.chains = h.chains ∧
      (∀ x ∈ added, PortRule x) ∧ ∀ R, r = .ok R → R = added := by
  obtain ⟨run, hrun, hf⟩ := (map_eq_ok_iff _ _ _).mp hc
  cases hf
  unfold configureIPTablesCached configureIPTablesWith at hrun
  split at hrun
  · cases hrun
    exact ⟨[], by simp, rfl, by simp, fun R hR => by cases hR; rfl⟩
  split at hrun
  · cases hrun
  simpa using portLoop_appends hrun

/-! ## When the loop panics -/

theorem portLoop_returns {σ : Type} (lookup : σ → GoString → σ × Except GoError GoString)
    (ps : List AllocatedPortMapping) (ip : GoString) (labels : List GoString) :
    ∀ s teardown appends h outs,
      ∃ r, portLoop lookup (some ps) ip labels s teardown appends h outs = .ok r := by
  induction labels with
  | nil => exact fun _ _ _ _ _ => ⟨_, rfl⟩
  | cons label labels ih =>
    intro s teardown appends h outs
    rcases hg : getPort ps label with _ | rp
    · rw [portLoop_cons_unreserved hg]
      exact ih _ _ _ _ _
    rcases portLoop_cons_reserved lookup ip labels s teardown appends h outs hg with
      ⟨s', e, -, he⟩ | ⟨s', iface, -, ⟨e, he⟩ | ⟨e, he⟩ | he⟩ <;> rw [he]
    · exact ⟨_, rfl⟩
    · exact ⟨_, rfl⟩
    · exact ⟨_, rfl⟩
    · exact ih _ _ _ _ _

theorem configureIPTables_panics_iff (getter : GoString → Except GoError GoString)
    (iptNew : Except GoError Unit) (res : Resources) (cfg : Option NetworkInterfaceBridgeConfig)
    (ip : GoString) (h : Host) (outs : List Outcome) :
    (∃ p, configureIPTables getter iptNew res cfg ip h outs = .error p) ↔
      iptNew = .ok () ∧
        (cfg = none ∨ ∃ b, cfg = some b ∧ b.ports ≠ [] ∧ res.ports = none) := by
  unfold configureIPTables configureIPTablesCached configureIPTablesWith
  rcases iptNew with e | ⟨⟩
  · simp [Except.map]
  rcases cfg with _ | b
  · simp [Except.map]
  rcases hp : res.ports with _ | ps
  · cases hl : b.ports <;> simp [portLoop, hl, Except.map]
  · obtain ⟨r, hr⟩ := portLoop_returns (cachedLookup getter) ps ip b.ports (∅, []) [] [] h outs
    simp [hr, Except.map]

end NomadDriverCh.Chnet
