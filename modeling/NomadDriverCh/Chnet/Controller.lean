import NomadDriverCh.Chnet.Teardown
import NomadDriverCh.Domain

/-!
# The controller's `VMStartedBuild`

Once a VM runs, `VMStartedBuild` picks the bridge (the task's when it names one, the
driver's otherwise) and checks that it exists, picks the guest address (the one the
virtualizer reports, else the task bridge's static IP), and has `configureIPTables`
forward the allocation's ports to it.  The response carries the address and a teardown
spec with the rules `configureIPTables` returned.

The bridge block is optional in the task's HCL and in `Validate`, yet `configureIPTables`
reads it unconditionally: a task without one whose VM has an address panics the driver
(`vmStartedBuild_panics_iff` says exactly when a build panics).  A build that returns a
spec leaves exactly the spec's rules behind (`vmStartedBuild_teardown_restores`), but a
failure half way through the port loop returns an error and no spec, so the rules already
appended are never torn down.
-/

namespace NomadDriverCh.Chnet

open Net

/-- The controller, with the driver's network block and the host lookup of the
interface owning an address. -/
structure Controller where
  networkConfig : Option Domain.Network
  interfaceByIPGetter : GoString → Except GoError GoString

structure VMStartedBuildRequest where
  domainName : GoString
  netConfig : Option NetworkInterfacesConfig
  resources : Option Resources
  guestIPs : List GoString
  deriving DecidableEq, Repr

structure DriverNetwork where
  ip : GoString
  deriving DecidableEq, Repr

structure VMStartedBuildResponse where
  driverNetwork : Option DriverNetwork := none
  teardownSpec : Option TeardownSpec := none
  deriving DecidableEq, Repr

namespace Controller

/-- The bridge `VMStartedBuild` checks: the task's when it names one, else the driver's,
read through the controller's network block pointer. -/
def bridgeName (c : Controller) (bridge : Option NetworkInterfaceBridgeConfig) :
    Except Panic GoString :=
  match bridge, c.networkConfig with
  | some b, n =>
    if b.name ≠ [] then .ok b.name else n.elim (.error .nilDereference) (.ok ·.bridge)
  | none, n => n.elim (.error .nilDereference) (.ok ·.bridge)

end Controller

/-- The guest address: the first address the virtualizer reports when it is not empty,
else the bridge's static IP.  The DHCP branch after them tests the virtualizer's address
again, which cannot succeed there. -/
def guestIP (guestIPs : List GoString) (bridge : Option NetworkInterfaceBridgeConfig) :
    Option GoString :=
  if guestIPs.headD [] ≠ [] then some (guestIPs.headD [])
  else
    match bridge with
    | some b => if b.staticIP ≠ [] then some b.staticIP else none
    | none => none

namespace Controller

/-- `VMStartedBuild`, given whether each bridge exists, how `iptables.New` ends, the
firewall and the script of its calls. -/
def vmStartedBuild (c : Controller) (bridgeExists : GoString → Bool)
    (iptNew : Except GoError Unit) (req : Option VMStartedBuildRequest) (h : Host)
    (outs : List Outcome) : Except Panic (Host × Except GoError VMStartedBuildResponse) :=
  match req with
  | none => .ok (h, .error (lit "net controller: no request provided"))
  | some req =>
    match req.netConfig, req.resources with
    | some (none :: _), some _ => .error .nilDereference
    | some (some ni :: _), some res =>
      match c.bridgeName ni.bridge with
      | .error p => .error p
      | .ok name =>
        if name = [] then
          .ok (h, .error (lit "bridge name cannot be empty - check nomad-driver-ch configuration"))
        else if !bridgeExists name then
          .ok (h, .error (lit "bridge interface " ++ name ++
            lit " does not exist - this should have been created during installation"))
        else
          match guestIP req.guestIPs ni.bridge with
          | none =>
            .ok (h, .error (lit "virtualizer did not provide IP address for VM " ++ req.domainName))
          | some ip =>
            (configureIPTables c.interfaceByIPGetter iptNew res ni.bridge ip h outs).map
              fun (h, r) =>
                (h, match r with
                  | .error e => .error (lit "failed to configure port mapping: " ++ e)
                  | .ok rules => .ok ⟨some ⟨ip⟩, some ⟨rules, [], name⟩⟩)
    | _, _ => .ok (h, .ok {})

/-! ## When `VMStartedBuild` panics -/

theorem bridgeName_ok {c : Controller} (hc : c.networkConfig.isSome)
    (bridge : Option NetworkInterfaceBridgeConfig) : ∃ name, c.bridgeName bridge = .ok name := by
  obtain ⟨n, hn⟩ := Option.isSome_iff_exists.mp hc
  unfold bridgeName
  rcases bridge with _ | b
  · simp [hn]
  · by_cases hb : b.name = [] <;> simp [hn, hb]

/-- With the driver's network block set and the interfaces as the task's HCL decodes them,
`VMStartedBuild` panics exactly when it gets to `configureIPTables` with iptables
available and the first interface has no bridge block, or a bridge with port labels while
the allocation's reserved-port table is `nil`. -/
theorem vmStartedBuild_panics_iff (c : Controller) (hc : c.networkConfig.isSome)
    (bridgeExists : GoString → Bool) (iptNew : Except GoError Unit) (req : VMStartedBuildRequest)
    (hdec : ∀ n, req.netConfig = some n → HclDecoded n) (h : Host) (outs : List Outcome) :
    (∃ p, c.vmStartedBuild bridgeExists iptNew (some req) h outs = .error p) ↔
      ∃ ni rest res name ip, req.netConfig = some (some ni :: rest) ∧ req.resources = some res ∧
        c.bridgeName ni.bridge = .ok name ∧ name ≠ [] ∧ bridgeExists name = true ∧
        guestIP req.guestIPs ni.bridge = some ip ∧ iptNew = .ok () ∧
        (ni.bridge = none ∨ ∃ b, ni.bridge = some b ∧ b.ports ≠ [] ∧ res.ports = none) := by
  rcases req with ⟨dom, _ | _ | ⟨_ | ni, rest⟩, _ | res, gips⟩
  case mk.some.cons.none.some =>
    exact absurd (hdec _ rfl none (List.mem_cons_self _ _)) (by decide)
  case mk.some.cons.some.some =>
    obtain ⟨name, hname⟩ := bridgeName_ok hc ni.bridge
    simp only [vmStartedBuild, hname]
    by_cases hn : name = []
    · simp [hn, hname]
    by_cases hb : bridgeExists name = true
    · cases hg : guestIP gips ni.bridge with
      | none => simp [hn, hb, hg, hname]
      | some ip =>
        simp [hn, hb, hg, hname, map_eq_error_iff, configureIPTables_panics_iff]
    · simp [hn, hb, hname]
  all_goals simp [vmStartedBuild]

/-! ## The rules a build leaves to the teardown -/

/-- What a call of `VMStartedBuild` that returns has done: nothing, with no teardown spec, or
run `configureIPTables` on the first interface's bridge block and the guest address, a spec
it returns holding the rules that call returned. -/
theorem vmStartedBuild_cases {c : Controller} {bridgeExists : GoString → Bool}
    {iptNew : Except GoError Unit} {req : Option VMStartedBuildRequest} {h h' : Host}
    {outs : List Outcome} {r : Except GoError VMStartedBuildResponse}
    (hv : c.vmStartedBuild bridgeExists iptNew req h outs = .ok (h', r)) :
    (h' = h ∧ ∀ resp, r = .ok resp → resp.teardownSpec = none) ∨
      ∃ q ni rest res ip r₂, req = some q ∧ q.netConfig = some (some ni :: rest) ∧
        q.resources = some res ∧
        configureIPTables c.interfaceByIPGetter iptNew res ni.bridge ip h outs = .ok (h', r₂) ∧
        ∀ resp spec, r = .ok resp → resp.teardownSpec = some spec →
          resp.driverNetwork = some ⟨ip⟩ ∧ r₂ = .ok spec.iptablesRules := by
  have unchanged : (∀ resp, r = .ok resp → resp.teardownSpec = none) → h = h' →
      (h' = h ∧ ∀ resp, r = .ok resp → resp.teardownSpec = none) :=
    fun hr hh => ⟨hh.symm, hr⟩
  unfold vmStartedBuild at hv
  split at hv
  · cases hv; exact .inl (unchanged (fun _ h => by cases h) rfl)
  next q =>
  split at hv
  · cases hv
  next ni rest res hnc hres =>
    split at hv
    · cases hv
    split_ifs at hv
    · cases hv; exact .inl (unchanged (fun _ h => by cases h) rfl)
    · cases hv; exact .inl (unchanged (fun _ h => by cases h) rfl)
    split at hv
    · cases hv; exact .inl (unchanged (fun _ h => by cases h) rfl)
    next ip _ =>
    obtain ⟨⟨h₂, r₂⟩, hc, hf⟩ := (map_eq_ok_iff _ _ _).mp hv
    simp only [Prod.mk.injEq] at hf
    obtain ⟨rfl, rfl⟩ := hf
    refine .inr ⟨q, ni, rest, res, ip, r₂, rfl, hnc, hres, hc, fun resp spec hresp hs => ?_⟩
    cases r₂ <;> simp only [Except.ok.injEq, reduceCtorEq] at hresp
    subst hresp
    cases hs
    exact ⟨rfl, rfl⟩
  · cases hv; exact .inl (unchanged (fun _ h => by cases h; rfl) rfl)

theorem vmStartedBuild_appends {c : Controller} {bridgeExists : GoString → Bool}
    {iptNew : Except GoError Unit} {req : Option VMStartedBuildRequest} {h h' : Host}
    {outs : List Outcome} {r : Except GoError VMStartedBuildResponse}
    (hv : c.vmStartedBuild bridgeExists iptNew req h outs = .ok (h', r)) :
    ∃ added, h'.rules = h.rules ++ added ∧ (∀ x ∈ added, PortRule x) ∧
      ∀ resp spec, r = .ok resp → resp.teardownSpec = some spec →
        spec.iptablesRules = added := by
  rcases vmStartedBuild_cases hv with ⟨rfl, hr⟩ | ⟨_, _, _, _, _, _, -, -, -, hc, hspec⟩
  · exact ⟨[], by simp, by simp, fun resp spec h1 h2 => by simp [hr resp h1] at h2⟩
  obtain ⟨added, hr, -, hp, hR⟩ := configureIPTables_appends hc
  exact ⟨added, hr, hp, fun resp spec hresp hs => hR _ (hspec resp spec hresp hs).2⟩

/-- When `VMStartedBuild` returns a teardown spec, the firewall gained exactly the spec's
rules, and a teardown run of the spec whose calls succeed returns nil and leaves the rules
the firewall had before the build, up to order. -/
theorem vmStartedBuild_teardown_restores {c : Controller} {bridgeExists : GoString → Bool}
    {iptNew : Except GoError Unit} {req : Option VMStartedBuildRequest} {h h' : Host}
    {outs : List Outcome} {resp : VMStartedBuildResponse} {spec : TeardownSpec}
    (hv : c.vmStartedBuild bridgeExists iptNew req h outs = .ok (h', .ok resp))
    (hs : resp.teardownSpec = some spec) (outs' : List Outcome) (hok : ∀ o ∈ outs', o = .ok) :
    h'.rules = h.rules ++ spec.iptablesRules ∧
      ∃ h'', vmTerminatedTeardown (some ⟨some spec⟩) (.ok ()) h' outs' = .ok (h'', []) ∧
        h''.rules.Perm h.rules := by
  obtain ⟨added, hr, hp, hR⟩ := vmStartedBuild_appends hv
  have hspec : spec.iptablesRules = added := hR resp spec rfl hs
  obtain ⟨h'', errs, deleted, hrun, -, hrules, hnil, hall⟩ :=
    deleteRules_spec h' (hspec ▸ hp) outs'
  have herrs : errs = [] := hall.mpr fun o ho => hok o (List.mem_of_mem_take ho)
  subst herrs
  refine ⟨hspec ▸ hr, h'', hrun, ?_⟩
  rw [hrules, hnil rfl, hr, hspec]
  exact append_diff_perm _ _

end Controller

/-! ## The scenario -/

def br0Network : Domain.Network :=
  ⟨lit "br0", lit "192.168.254.0/24", lit "192.168.254.10", lit "192.168.254.200",
    lit "192.168.254.1", lit "tap"⟩

def hostInterfaces (ip : GoString) : Except GoError GoString :=
  if ip = lit "10.0.0.5" then .ok (lit "eth0")
  else .error (lit "failed to find interface for IP " ++ quote ip)

def webController : Controller := ⟨some br0Network, hostInterfaces⟩

def webRequest : VMStartedBuildRequest :=
  ⟨lit "web", some [some ⟨some webBridge⟩], some ⟨some [webPort]⟩,
    [lit "192.168.254.10"]⟩

def webBuildSpec : TeardownSpec := ⟨webRules, [], lit "br0"⟩

theorem vmStartedBuild_teardown_restores_web :
    webController.vmStartedBuild (fun _ => true) (.ok ()) (some webRequest) ⟨driverChains, []⟩ [] =
        .ok (⟨driverChains, webRules⟩, .ok ⟨some ⟨lit "192.168.254.10"⟩, some webBuildSpec⟩) ∧
      (∀ o ∈ ([] : List Outcome), o = .ok) ∧
      ((⟨driverChains, webRules⟩ : Host).rules = [] ++ webBuildSpec.iptablesRules ∧
        ∃ h'', vmTerminatedTeardown (some ⟨some webBuildSpec⟩) (.ok ()) ⟨driverChains, webRules⟩
          [] = .ok (h'', []) ∧ h''.rules.Perm []) :=
  have hv : webController.vmStartedBuild (fun _ => true) (.ok ()) (some webRequest)
      ⟨driverChains, []⟩ [] =
        .ok (⟨driverChains, webRules⟩,
          .ok ⟨some ⟨lit "192.168.254.10"⟩, some webBuildSpec⟩) := by
    decide
  ⟨hv, by simp, Controller.vmStartedBuild_teardown_restores hv rfl [] (by simp)⟩

def bridgelessRequest : VMStartedBuildRequest :=
  ⟨lit "web", some [some ⟨none⟩], some ⟨some [webPort]⟩, [lit "192.168.254.10"]⟩

theorem vmStartedBuild_panics_iff_bridgeless :
    webController.networkConfig.isSome ∧
      (∀ n, bridgelessRequest.netConfig = some n → HclDecoded n) ∧
      ((∃ p, webController.vmStartedBuild (fun _ => true) (.ok ()) (some bridgelessRequest)
          ⟨driverChains, []⟩ [] = .error p) ↔
        ∃ ni rest res name ip, bridgelessRequest.netConfig = some (some ni :: rest) ∧
          bridgelessRequest.resources = some res ∧ webController.bridgeName ni.bridge = .ok name ∧
          name ≠ [] ∧ (fun _ => true : GoString → Bool) name = true ∧
          guestIP bridgelessRequest.guestIPs ni.bridge = some ip ∧
          (.ok () : Except GoError Unit) = .ok () ∧
          (ni.bridge = none ∨ ∃ b, ni.bridge = some b ∧ b.ports ≠ [] ∧ res.ports = none)) :=
  have hdec : ∀ n, bridgelessRequest.netConfig = some n → HclDecoded n := by
    rintro n ⟨⟩
    simp [HclDecoded]
  ⟨rfl, hdec, Controller.vmStartedBuild_panics_iff webController rfl (fun _ => true) (.ok ())
    bridgelessRequest hdec ⟨driverChains, []⟩ []⟩

/-- The two handlers panic on requests their callers can send: the bridge-less interface,
which the HCL decoding and `Validate` accept, panics `VMStartedBuild` on the nil bridge,
and a teardown rule of one element panics `VMTerminatedTeardown` on `iptablesRule[1]`. -/
theorem handlers_panic_on_admitted_requests :
    HclDecoded [some ⟨none⟩] ∧ validate (some [some ⟨none⟩]) = .ok [] ∧
      webController.vmStartedBuild (fun _ => true) (.ok ()) (some bridgelessRequest)
        ⟨driverChains, []⟩ [] = .error .nilDereference ∧
      vmTerminatedTeardown (some ⟨some ⟨[[iptablesNATTableName]], [], []⟩⟩) (.ok ())
        ⟨driverChains, []⟩ [] = .error .indexOutOfRange :=
  ⟨by simp [HclDecoded], by decide, by decide, by decide⟩

def adminPort : AllocatedPortMapping := ⟨lit "admin", 9090, 90, lit "10.0.0.6"⟩

def twoPortRequest : VMStartedBuildRequest :=
  ⟨lit "web", some [some ⟨some ⟨lit "br0", [lit "http", lit "admin"], [], [], [], []⟩⟩],
    some ⟨some [webPort, adminPort]⟩, [lit "192.168.254.10"]⟩

/-- The build fails on the second port's lookup after appending the first port's rules, and
returns an error with no teardown spec: the rules stay in the chains with nothing to
delete them. -/
theorem vmStartedBuild_lookup_failure_leaks :
    webController.vmStartedBuild (fun _ => true) (.ok ()) (some twoPortRequest)
        ⟨driverChains, []⟩ [] =
      .ok (⟨driverChains, webRules⟩, .error (lit "failed to configure port mapping: " ++
        lit "failed to identify IP interface: " ++ lit "failed to find interface for IP " ++
        quote (lit "10.0.0.6"))) := by
  decide

end NomadDriverCh.Chnet
