import Mathlib.Data.List.Infix
import NomadDriverCh.Cloudhypervisor.Start
import NomadDriverCh.Chnet.Fingerprint

/-!
# The host's bridge, from `Start` to `Fingerprint`

`Start` sets the bridge up with `ip`; the port-forwarding controller reads it back, through
`net.Interfaces` in `Fingerprint` and through `ip link show` in `bridgeExists`.  Here the
host is modelled by its links as `ip` keeps them: a unique name each, an up flag, and the
CIDRs assigned, which `ip addr show` prints one `inet` line each.  `Links.run` is how `ip`
answers the five command lines `ensureBridgeConfigured` builds and what it does to the
links; it follows iproute2, which is not part of the repository.  A `Host` whose `exec`
answered each command of a run as `ip` did when the command ran replays the run
(`Replays`).

`ip link add` refuses a name of sixteen bytes or more, or one holding `/`, a colon or a
blank (iproute2's `check_ifname`, the kernel's `dev_valid_name`), which
`validateNetworkConfig` does not check.  Against such a host `ensureBridgeConfigured` on a
named bridge fails exactly at the creation of a missing bridge whose name is refused, and
then changes no link (`bridgeCommands_replays_invalid`); otherwise what it leaves is exact
(`bridgeCommands_replays`): the bridge exists and is up, and holds the gateway's CIDR unless
the text `ip addr show` printed already contained the gateway's address; no other link
changes.  So a successful `Start` leaves a bridge that `Fingerprint` reports active, and a
second `Start` runs only the three commands that read the bridge and bring it up and changes
nothing.
-/

namespace NomadDriverCh.Bridge

open Netip Cloudhypervisor Chnet

structure Link where
  name : GoString
  up : Bool
  addrs : List GoString
  deriving DecidableEq, Repr

namespace Link

/-- The lines of `ip addr show` that list the link's addresses, one per CIDR; its other
lines name no address. -/
def addrText (l : Link) : GoString :=
  (l.addrs.map fun cidr => lit "    inet " ++ cidr ++ lit "\n").flatten

def setUp (l : Link) : Link := { l with up := true }

def addAddr (cidr : GoString) (l : Link) : Link := { l with addrs := l.addrs ++ [cidr] }

theorem containsBytes_addrText {l : Link} {cidr s : GoString} (hc : cidr ∈ l.addrs)
    (hs : s <:+: cidr) : containsBytes l.addrText s = true := by
  have hline : s <:+: lit "    inet " ++ cidr ++ lit "\n" := hs.trans (List.infix_append _ _ _)
  obtain ⟨t, hp, ht⟩ :=
    List.infix_iff_prefix_suffix.mp (hline.trans (List.infix_of_mem_flatten
      (List.mem_map_of_mem (fun cidr => lit "    inet " ++ cidr ++ lit "\n") hc)))
  exact List.any_eq_true.mpr ⟨t, (List.mem_tails _ _).mpr ht, List.isPrefixOf_iff_prefix.mpr hp⟩

end Link

/-- A white-space byte, as C's `isspace` reads it. -/
def isSpace (c : UInt8) : Bool := decide (c = 32 ∨ (9 ≤ c ∧ c ≤ 13))

/-- iproute2's `check_ifname`: one to fifteen bytes, none of them `/` or white space. -/
def checkIfname (name : GoString) : Bool :=
  decide (name ≠ []) && decide (name.length < 16) && name.all fun c => c != 47 && !isSpace c

/-- The kernel's `dev_valid_name`: what `check_ifname` asks, neither `.` nor `..`, and no
`:`. -/
def devValidName (name : GoString) : Bool :=
  checkIfname name && decide (name ≠ lit ".") && decide (name ≠ lit "..") && !name.contains 58

theorem checkIfname_of_devValidName {name : GoString} (h : devValidName name = true) :
    checkIfname name = true := by
  simp only [devValidName, Bool.and_eq_true] at h
  exact h.1.1.1

/-- The host's links: the kernel names each one validly, and never lets two share a
name. -/
structure Links where
  links : List Link
  valid : ∀ l ∈ links, devValidName l.name = true
  nodup : (links.map Link.name).Nodup

inductive IpCmd where
  | linkShow (name : GoString)
  | linkAdd (name : GoString)
  | addrShow (name : GoString)
  | addrAdd (cidr name : GoString)
  | linkUp (name : GoString)
  deriving DecidableEq, Repr

/-- How `ip` reads its command line, its own path first; no other line is modelled. -/
def IpCmd.parse : List GoString → Option IpCmd
  | [_, obj, verb, name] =>
    if obj = lit "link" ∧ verb = lit "show" then some (.linkShow name)
    else if obj = lit "addr" ∧ verb = lit "show" then some (.addrShow name)
    else none
  | [_, obj, verb, name, up] =>
    if obj = lit "link" ∧ verb = lit "set" ∧ up = lit "up" then some (.linkUp name) else none
  | [_, obj, verb, cidr, dev, name] =>
    if obj = lit "addr" ∧ verb = lit "add" ∧ dev = lit "dev" then some (.addrAdd cidr name)
    else none
  | [_, obj, verb, key, name, ty, kind] =>
    if obj = lit "link" ∧ verb = lit "add" ∧ key = lit "name" ∧ ty = lit "type" ∧
        kind = lit "bridge" then some (.linkAdd name)
    else none
  | _ => none

def done : CmdResult := ⟨none, []⟩

def noDevice (name : GoString) : CmdResult :=
  ⟨some (lit "exit status 1"), lit "Device \"" ++ name ++ lit "\" does not exist.\n"⟩

def cannotFind (name : GoString) : CmdResult :=
  ⟨some (lit "exit status 1"), lit "Cannot find device \"" ++ name ++ lit "\"\n"⟩

def fileExists : CmdResult :=
  ⟨some (lit "exit status 2"), lit "RTNETLINK answers: File exists\n"⟩

def invalidIfname (name : GoString) : CmdResult :=
  ⟨some (lit "exit status 255"),
    lit "Error: argument \"" ++ name ++ lit "\" is wrong: \"name\" not a valid ifname\n"⟩

def invalidArgument : CmdResult :=
  ⟨some (lit "exit status 2"), lit "RTNETLINK answers: Invalid argument\n"⟩

def badCommand : CmdResult :=
  ⟨some (lit "exit status 255"), lit "Command line is not complete.\n"⟩

namespace Links

def find (h : Links) (name : GoString) : Option Link := h.links.find? (·.name = name)

theorem find_eq_none {h : Links} {name : GoString} :
    h.find name = none ↔ name ∉ h.links.map Link.name := by
  simp [find, List.find?_eq_none]

theorem find_name {h : Links} {name : GoString} {l : Link} (hl : h.find name = some l) :
    l.name = name := by
  simpa using List.find?_some hl

theorem devValidName_of_find {h : Links} {name : GoString} {l : Link}
    (hl : h.find name = some l) : devValidName name = true :=
  find_name hl ▸ h.valid l (List.mem_of_find?_eq_some hl)

def add (h : Links) (name : GoString) (hn : h.find name = none)
    (hv : devValidName name = true) : Links where
  links := h.links ++ [⟨name, false, []⟩]
  valid := by
    intro l hl
    rcases List.mem_append.mp hl with hl | hl
    · exact h.valid l hl
    · rw [List.mem_singleton.mp hl]
      exact hv
  nodup := by
    rw [List.map_append, List.nodup_append]
    exact ⟨h.nodup, List.nodup_singleton _, by simpa using find_eq_none.mp hn⟩

def modify (h : Links) (name : GoString) (f : Link → Link) (hf : ∀ l, (f l).name = l.name) :
    Links where
  links := h.links.map fun l => if l.name = name then f l else l
  valid := by
    simp only [List.mem_map, forall_exists_index, and_imp, forall_apply_eq_imp_iff₂]
    intro l hl
    split_ifs <;> simp only [hf, h.valid l hl]
  nodup := by
    have : (Link.name ∘ fun l => if l.name = name then f l else l) = Link.name := by
      funext l
      by_cases hl : l.name = name <;> simp [hl, hf]
    rw [List.map_map, this]
    exact h.nodup

def exec (h : Links) : IpCmd → CmdResult × Links
  | .linkShow name => (if (h.find name).isSome then done else noDevice name, h)
  | .linkAdd name =>
    if checkIfname name then
      match hf : h.find name with
      | some _ => (fileExists, h)
      | none => if hv : devValidName name then (done, h.add name hf hv) else (invalidArgument, h)
    else (invalidIfname name, h)
  | .addrShow name =>
    match h.find name with
    | some l => (⟨none, l.addrText⟩, h)
    | none => (noDevice name, h)
  | .addrAdd cidr name =>
    match h.find name with
    | some l =>
      if cidr ∈ l.addrs then (fileExists, h)
      else (done, h.modify name (Link.addAddr cidr) fun _ => rfl)
    | none => (cannotFind name, h)
  | .linkUp name =>
    if (h.find name).isSome then (done, h.modify name Link.setUp fun _ => rfl)
    else (cannotFind name, h)

def run (h : Links) (cmd : List GoString) : CmdResult × Links :=
  match IpCmd.parse cmd with
  | some c => h.exec c
  | none => (badCommand, h)

/-- The links as `net.Interfaces` lists them. -/
def interfaces (h : Links) : List HostInterface := h.links.map fun l => ⟨l.name, l.up⟩

/-- The bridge `name` as a successful `ensureBridgeConfigured` leaves it: up, with the
gateway's CIDR added unless the text `ip addr show` printed contained the gateway's
address. -/
def bridged (h : Links) (name cidr gateway : GoString) : Link :=
  let l := (h.find name).getD ⟨name, false, []⟩
  if containsBytes l.addrText gateway then l.setUp else (l.addAddr cidr).setUp

section Lines

variable (h : Links) (ipPath name cidr : GoString)

@[simp] theorem run_linkShow : h.run (linkShow ipPath name) = h.exec (.linkShow name) := rfl

@[simp] theorem run_linkAdd : h.run (linkAdd ipPath name) = h.exec (.linkAdd name) := rfl

@[simp] theorem run_addrShow : h.run (addrShow ipPath name) = h.exec (.addrShow name) := rfl

@[simp] theorem run_addrAdd :
    h.run (addrAdd ipPath name cidr) = h.exec (.addrAdd cidr name) := rfl

@[simp] theorem run_linkUp : h.run (linkUp ipPath name) = h.exec (.linkUp name) := rfl

end Lines

theorem find_add (h : Links) (name : GoString) (hn : h.find name = none)
    (hv : devValidName name = true) (n : GoString) :
    (h.add name hn hv).find n = if n = name then some ⟨name, false, []⟩ else h.find n := by
  unfold find add
  rw [List.find?_append]
  split_ifs with hnn
  · subst hnn
    rw [show h.links.find? _ = none from hn]
    simp
  · simp [Ne.symm hnn, Option.or_none]

theorem find_modify (h : Links) (name : GoString) (f : Link → Link)
    (hf : ∀ l, (f l).name = l.name) (n : GoString) :
    (h.modify name f hf).find n = if n = name then (h.find name).map f else h.find n := by
  have hp : ((fun l : Link => decide (l.name = n)) ∘ fun l => if l.name = name then f l else l) =
      fun l => decide (l.name = n) := by
    funext l
    by_cases hl : l.name = name <;> simp [hl, hf]
  unfold find modify
  rw [List.find?_map, hp]
  split_ifs with hnn
  · subst hnn
    cases hx : h.links.find? (·.name = n) with
    | none => rfl
    | some l => simp [find_name (h := h) hx]
  · cases hx : h.links.find? (·.name = n) with
    | none => rfl
    | some l => simp [find_name (h := h) hx, hnn]

@[simp] theorem exec_linkShow (h : Links) (name : GoString) :
    h.exec (.linkShow name) = (if (h.find name).isSome then done else noDevice name, h) := rfl

@[simp] theorem exec_linkUp (h : Links) (name : GoString) :
    h.exec (.linkUp name) = if (h.find name).isSome
      then (done, h.modify name Link.setUp fun _ => rfl) else (cannotFind name, h) := rfl

theorem exec_addrShow_of_some {h : Links} {name : GoString} {l : Link}
    (hf : h.find name = some l) : h.exec (.addrShow name) = (⟨none, l.addrText⟩, h) := by
  simp [exec, hf]

theorem exec_addrShow_of_none {h : Links} {name : GoString} (hf : h.find name = none) :
    h.exec (.addrShow name) = (noDevice name, h) := by
  simp [exec, hf]

theorem exec_addrAdd_of_some {h : Links} {name cidr : GoString} {l : Link}
    (hf : h.find name = some l) : h.exec (.addrAdd cidr name) = if cidr ∈ l.addrs
      then (fileExists, h) else (done, h.modify name (Link.addAddr cidr) fun _ => rfl) := by
  simp [exec, hf]

theorem exec_linkAdd_of_none {h : Links} {name : GoString} (hf : h.find name = none)
    (hv : devValidName name = true) : h.exec (.linkAdd name) = (done, h.add name hf hv) := by
  simp only [exec, checkIfname_of_devValidName hv, if_true]
  split <;> simp_all

theorem exec_linkAdd_of_some {h : Links} {name : GoString} {l : Link}
    (hf : h.find name = some l) : h.exec (.linkAdd name) = (fileExists, h) := by
  simp only [exec, checkIfname_of_devValidName (devValidName_of_find hf), if_true]
  split <;> simp_all

theorem exec_linkAdd_of_invalid {h : Links} {name : GoString} (hv : devValidName name = false) :
    (h.exec (.linkAdd name)).2 = h := by
  simp only [exec]
  split
  · split
    · rfl
    · rw [dif_neg (by simp [hv])]
  · rfl

theorem find_exec_linkAdd {h : Links} {name : GoString}
    (hv : (h.find name).isSome ∨ devValidName name) (n : GoString) :
    (h.exec (.linkAdd name)).2.find n =
      if n = name then some ((h.find name).getD ⟨name, false, []⟩) else h.find n := by
  cases hf : h.find name with
  | some l =>
    rw [exec_linkAdd_of_some hf]
    split_ifs with hn
    · subst hn
      simp [hf]
    · rfl
  | none =>
    rw [exec_linkAdd_of_none hf (by simpa [hf] using hv), find_add]
    split_ifs with hn
    · subst hn
      simp
    · rfl

end Links

/-! ## Runs a host replays -/

/-- `exec` answered each command of a run as `ip` did when the command ran, the links going
from `h` to `h'`. -/
inductive Replays (exec : List GoString → CmdResult) :
    Links → List (List GoString) → Links → Prop
  | nil (h : Links) : Replays exec h [] h
  | cons {h h' : Links} {cmd : List GoString} {rest : List (List GoString)} :
      exec cmd = (h.run cmd).1 → Replays exec (h.run cmd).2 rest h' →
        Replays exec h (cmd :: rest) h'

section Replays

variable {exec : List GoString → CmdResult} {h h' h'' : Links}

@[simp] theorem replays_nil_iff : Replays exec h [] h' ↔ h' = h :=
  ⟨fun hr => by cases hr; rfl, by rintro rfl; exact .nil _⟩

@[simp] theorem replays_cons_iff {cmd : List GoString} {rest : List (List GoString)} :
    Replays exec h (cmd :: rest) h' ↔
      exec cmd = (h.run cmd).1 ∧ Replays exec (h.run cmd).2 rest h' :=
  ⟨fun hr => by cases hr; exact ⟨‹_›, ‹_›⟩, fun ⟨he, hr⟩ => .cons he hr⟩

theorem replays_append {l₁ l₂ : List (List GoString)} :
    Replays exec h (l₁ ++ l₂) h'' ↔ ∃ h', Replays exec h l₁ h' ∧ Replays exec h' l₂ h'' := by
  induction l₁ generalizing h with
  | nil => simp
  | cons cmd l₁ ih => simp [ih, and_assoc]

theorem andThen_fst_eq (s t : List (List GoString) × Option GoError) :
    (andThen s t).1 = s.1 ++ if s.2 = none then t.1 else [] := by
  unfold andThen
  split <;> simp_all

theorem replays_andThen {s t : List (List GoString) × Option GoError}
    (hr : Replays exec h (andThen s t).1 h'') (hs : ∀ h', Replays exec h s.1 h' → s.2 = none) :
    ∃ h', Replays exec h s.1 h' ∧ s.2 = none ∧ Replays exec h' t.1 h'' := by
  rw [andThen_fst_eq, replays_append] at hr
  obtain ⟨h', hr₁, hr₂⟩ := hr
  have hs' := hs h' hr₁
  exact ⟨h', hr₁, hs', by rwa [if_pos hs'] at hr₂⟩

end Replays

/-! ## `ensureBridgeConfigured`, step by step -/

section Stages

variable (exec : List GoString → CmdResult) (ipPath bridge : GoString)

def linkStage : List (List GoString) × Option GoError :=
  if (exec (linkShow ipPath bridge)).err = none then ([linkShow ipPath bridge], none)
  else ([linkShow ipPath bridge, linkAdd ipPath bridge],
    tolerant (exec (linkAdd ipPath bridge)) (lit "unable to create bridge " ++ bridge))

def addrStage : List (List GoString) × Option GoError :=
  ([addrShow ipPath bridge],
    strict (exec (addrShow ipPath bridge)) (lit "unable to read bridge addresses"))

def assignStage (cidr gateway : GoString) : List (List GoString) × Option GoError :=
  if containsBytes (exec (addrShow ipPath bridge)).output gateway then ([], none)
  else ([addrAdd ipPath bridge cidr], tolerant (exec (addrAdd ipPath bridge cidr))
    (lit "unable to assign " ++ cidr ++ lit " to " ++ bridge))

def upStage : List (List GoString) × Option GoError :=
  ([linkUp ipPath bridge],
    strict (exec (linkUp ipPath bridge)) (lit "unable to bring bridge " ++ bridge ++ lit " up"))

theorem bridgeCommands_eq (subnet : Prefix) (gatewayIP : Addr) (hb : bridge ≠ []) :
    bridgeCommands exec ipPath bridge subnet gatewayIP =
      andThen (linkStage exec ipPath bridge) (andThen (addrStage exec ipPath bridge)
        (andThen (assignStage exec ipPath bridge (gatewayCIDR subnet gatewayIP) gatewayIP.string)
          (upStage exec ipPath bridge))) :=
  if_neg hb

end Stages

theorem gateway_infix_gatewayCIDR (subnet : Prefix) (gatewayIP : Addr) :
    gatewayIP.string <:+: gatewayCIDR subnet gatewayIP :=
  ⟨[], lit "/" ++ itoa subnet.bits, by simp [gatewayCIDR]⟩

section StageRuns

variable {exec : List GoString → CmdResult} {ipPath bridge : GoString} {h h' : Links}

theorem linkStage_replays (hr : Replays exec h (linkStage exec ipPath bridge).1 h') :
    ((h.find bridge).isSome ∨ devValidName bridge → (linkStage exec ipPath bridge).2 = none) ∧
      (linkStage exec ipPath bridge).1 = linkShow ipPath bridge ::
        (if (h.find bridge).isSome then [] else [linkAdd ipPath bridge]) ∧
      h' = (h.exec (.linkAdd bridge)).2 := by
  unfold linkStage at hr ⊢
  by_cases hx : (exec (linkShow ipPath bridge)).err = none
  · rw [if_pos hx] at hr ⊢
    simp only [replays_cons_iff, replays_nil_iff, Links.run_linkShow] at hr
    obtain ⟨he, hh⟩ := hr
    cases hf : h.find bridge with
    | none => simp [hf, he, noDevice] at hx
    | some l => simp [hh, Links.exec_linkAdd_of_some hf]
  · rw [if_neg hx] at hr ⊢
    simp only [replays_cons_iff, replays_nil_iff, Links.run_linkShow, Links.run_linkAdd] at hr
    obtain ⟨he, he', hh⟩ := hr
    cases hf : h.find bridge with
    | none =>
      simp only [Links.exec_linkShow] at he' hh
      refine ⟨fun hv => ?_, by simp, hh⟩
      rw [he', Links.exec_linkAdd_of_none hf (by simpa [hf] using hv)]
      rfl
    | some l => simp [hf, he, done] at hx

theorem addrStage_replays {l : Link} (hl : h.find bridge = some l)
    (hr : Replays exec h (addrStage exec ipPath bridge).1 h') :
    (addrStage exec ipPath bridge).2 = none ∧
      exec (addrShow ipPath bridge) = ⟨none, l.addrText⟩ ∧ h' = h := by
  simp only [addrStage, replays_cons_iff, replays_nil_iff, Links.run_addrShow,
    Links.exec_addrShow_of_some hl] at hr ⊢
  obtain ⟨he, rfl⟩ := hr
  simp [he]

theorem assignStage_replays {l : Link} {cidr gateway : GoString} (hl : h.find bridge = some l)
    (hout : exec (addrShow ipPath bridge) = ⟨none, l.addrText⟩) (hcidr : gateway <:+: cidr)
    (hr : Replays exec h (assignStage exec ipPath bridge cidr gateway).1 h') :
    (assignStage exec ipPath bridge cidr gateway).2 = none ∧
      (assignStage exec ipPath bridge cidr gateway).1 =
        (if containsBytes l.addrText gateway then [] else [addrAdd ipPath bridge cidr]) ∧
      h' = if containsBytes l.addrText gateway then h
        else h.modify bridge (Link.addAddr cidr) fun _ => rfl := by
  unfold assignStage at hr ⊢
  simp only [hout] at hr ⊢
  by_cases hc : containsBytes l.addrText gateway = true
  · simp only [hc, if_true, replays_nil_iff] at hr
    simp [hc, hr]
  · have hnot : cidr ∉ l.addrs := fun hm => hc (Link.containsBytes_addrText hm hcidr)
    simp only [hc, Bool.false_eq_true, if_false, replays_cons_iff, replays_nil_iff,
      Links.run_addrAdd, Links.exec_addrAdd_of_some hl, hnot] at hr ⊢
    obtain ⟨he, rfl⟩ := hr
    simp [he, done]

theorem upStage_replays (hl : (h.find bridge).isSome)
    (hr : Replays exec h (upStage exec ipPath bridge).1 h') :
    (upStage exec ipPath bridge).2 = none ∧ h' = h.modify bridge Link.setUp fun _ => rfl := by
  simp only [upStage, replays_cons_iff, replays_nil_iff, Links.run_linkUp, Links.exec_linkUp, hl,
    if_true] at hr ⊢
  obtain ⟨he, rfl⟩ := hr
  simp [he, done]

end StageRuns

/-! ## What `ensureBridgeConfigured` leaves -/

/-- Against a host that answers as `ip` does, the bridge commands on a named bridge succeed.
They run `ip link add` exactly when the bridge is missing and `ip addr add` exactly when the
text of its addresses lacks the gateway's; the bridge is then up, and no other link
changes. -/
theorem bridgeCommands_replays {exec : List GoString → CmdResult} {ipPath bridge : GoString}
    {subnet : Prefix} {gatewayIP : Addr} {h h' : Links} (hb : bridge ≠ [])
    (hv : (h.find bridge).isSome ∨ devValidName bridge)
    (hr : Replays exec h (bridgeCommands exec ipPath bridge subnet gatewayIP).1 h') :
    (bridgeCommands exec ipPath bridge subnet gatewayIP).2 = none ∧
      (bridgeCommands exec ipPath bridge subnet gatewayIP).1 = linkShow ipPath bridge ::
        ((if (h.find bridge).isSome then [] else [linkAdd ipPath bridge]) ++
          addrShow ipPath bridge ::
          ((if containsBytes ((h.find bridge).getD ⟨bridge, false, []⟩).addrText gatewayIP.string
            then [] else [addrAdd ipPath bridge (gatewayCIDR subnet gatewayIP)]) ++
          [linkUp ipPath bridge])) ∧
      ∀ n, h'.find n = if n = bridge
        then some (h.bridged bridge (gatewayCIDR subnet gatewayIP) gatewayIP.string)
        else h.find n := by
  rw [bridgeCommands_eq _ _ _ _ _ hb] at hr ⊢
  obtain ⟨h₁, hr₁, hs₁, hr⟩ := replays_andThen hr fun _ hr₁ => (linkStage_replays hr₁).1 hv
  obtain ⟨-, hc₁, rfl⟩ := linkStage_replays hr₁
  have hl₁ : (h.exec (.linkAdd bridge)).2.find bridge =
      some ((h.find bridge).getD ⟨bridge, false, []⟩) := by
    rw [Links.find_exec_linkAdd hv, if_pos rfl]
  obtain ⟨h₂, hr₂, hs₂, hr⟩ := replays_andThen hr fun _ hr₂ => (addrStage_replays hl₁ hr₂).1
  obtain ⟨-, hout, rfl⟩ := addrStage_replays hl₁ hr₂
  have hpre := gateway_infix_gatewayCIDR subnet gatewayIP
  obtain ⟨h₃, hr₃, hs₃, hr₄⟩ :=
    replays_andThen hr fun _ hr₃ => (assignStage_replays hl₁ hout hpre hr₃).1
  obtain ⟨-, hc₃, hh₃⟩ := assignStage_replays hl₁ hout hpre hr₃
  have hup : (h₃.find bridge).isSome := by
    rw [hh₃]
    split_ifs <;> simp [hl₁, Links.find_modify]
  obtain ⟨hs₄, rfl⟩ := upStage_replays hup hr₄
  refine ⟨by simp [hs₁, hs₂, hs₃, hs₄], ?_, fun n => ?_⟩
  · rw [andThen_fst_of_none hs₁, andThen_fst_of_none hs₂, andThen_fst_of_none hs₃, hc₁, hc₃]
    rfl
  · rw [Links.find_modify, hh₃]
    by_cases hn : n = bridge
    · subst hn
      simp only [if_true, Links.bridged]
      split_ifs with hc <;> simp [hl₁, Links.find_modify, hc]
    · split_ifs <;> simp [hn, Links.find_modify, Links.find_exec_linkAdd hv]

/-- On a missing bridge whose name the kernel refuses, the bridge commands fail and leave
the links as they were. -/
theorem bridgeCommands_replays_invalid {exec : List GoString → CmdResult}
    {ipPath bridge : GoString} {subnet : Prefix} {gatewayIP : Addr} {h h' : Links}
    (hb : bridge ≠ []) (hf : h.find bridge = none) (hv : devValidName bridge = false)
    (hr : Replays exec h (bridgeCommands exec ipPath bridge subnet gatewayIP).1 h') :
    (bridgeCommands exec ipPath bridge subnet gatewayIP).2 ≠ none ∧ h' = h := by
  rw [bridgeCommands_eq _ _ _ _ _ hb] at hr ⊢
  rw [andThen_fst_eq, replays_append] at hr
  obtain ⟨h₁, hr₁, hr⟩ := hr
  obtain ⟨-, -, rfl⟩ := linkStage_replays hr₁
  rw [Links.exec_linkAdd_of_invalid hv] at hr
  split_ifs at hr with hs
  · rw [andThen_fst_eq, replays_append] at hr
    obtain ⟨h₂, hr₂, hr⟩ := hr
    simp only [addrStage, replays_cons_iff, replays_nil_iff, Links.run_addrShow,
      Links.exec_addrShow_of_none hf] at hr₂
    obtain ⟨he, rfl⟩ := hr₂
    have ha : (addrStage exec ipPath bridge).2 ≠ none := by simp [addrStage, strict, he, noDevice]
    rw [if_neg ha, replays_nil_iff] at hr
    exact ⟨by simp [ha], hr⟩
  · exact ⟨by simp [hs], replays_nil_iff.mp hr⟩

theorem Link.setUp_of_up {l : Link} (hl : l.up = true) : l.setUp = l := by
  cases l
  simp_all [Link.setUp]

theorem Links.bridged_of_find {h : Links} {bridge cidr gateway : GoString} {l : Link}
    (hf : h.find bridge = some l) (hc : containsBytes l.addrText gateway = true) :
    h.bridged bridge cidr gateway = l.setUp := by
  simp only [Links.bridged, hf, Option.getD_some, hc, if_true]

theorem Links.bridged_up (h : Links) (bridge cidr gateway : GoString) :
    (h.bridged bridge cidr gateway).up = true := by
  simp only [Links.bridged]
  split_ifs <;> rfl

theorem Links.bridged_contains (h : Links) {bridge cidr gateway : GoString}
    (hcidr : gateway <:+: cidr) :
    containsBytes (h.bridged bridge cidr gateway).addrText gateway = true := by
  simp only [Links.bridged]
  split_ifs with hc
  · exact hc
  · exact Link.containsBytes_addrText (by simp [Link.setUp, Link.addAddr]) hcidr

theorem Links.bridged_rerun {h h' : Links} {bridge cidr gateway : GoString}
    (hf : h'.find bridge = some (h.bridged bridge cidr gateway)) (hcidr : gateway <:+: cidr) :
    h'.bridged bridge cidr gateway = h.bridged bridge cidr gateway := by
  rw [Links.bridged_of_find hf (h.bridged_contains hcidr), Link.setUp_of_up (h.bridged_up _ _ _)]

theorem Links.find?_interfaces (h : Links) (name : GoString) :
    h.interfaces.find? (·.name = name) = (h.find name).map fun l => ⟨l.name, l.up⟩ :=
  List.find?_map _ _

theorem bridgeCommands_ok_iff {exec : List GoString → CmdResult} {ipPath bridge : GoString}
    {subnet : Prefix} {gatewayIP : Addr} {h h' : Links} (hb : bridge ≠ [])
    (hr : Replays exec h (bridgeCommands exec ipPath bridge subnet gatewayIP).1 h') :
    (bridgeCommands exec ipPath bridge subnet gatewayIP).2 = none ↔
      (h.find bridge).isSome ∨ devValidName bridge := by
  refine ⟨fun hok => ?_, fun hv => (bridgeCommands_replays hb hv hr).1⟩
  rcases hf : h.find bridge with _ | l
  · cases hv : devValidName bridge
    · exact absurd hok (bridgeCommands_replays_invalid hb hf hv hr).1
    · exact .inr rfl
  · exact .inl rfl

/-! ## `Start` on a host that answers as `ip` does -/

section Start

variable {d : Driver} {config : Option Virt.CloudHypervisor} {skip : Bool}
  {oldDataDir dataDir : GoString} {host : Cloudhypervisor.Host}
  {order : GoMap GoString → List (GoString × GoString)} {r : StartRun} {ipPath : GoString}
  {h h' : Links}

theorem start_bridge_cases (hs : start d config skip oldDataDir dataDir host order = .ok r)
    (hip : host.findIPCommand = .ok ipPath) :
    r.commands = [] ∧ r.err ≠ none ∨
      ∃ net e, d.networkConfig = some net ∧ net.bridge ≠ [] ∧
        bridgeCommands host.exec ipPath net.bridge d.subnet d.gatewayIP = (r.commands, e) ∧
        (r.err = none ↔ e = none ∧ host.mkdirAll r.dataDir = none) := by
  obtain ⟨-, hstop | ⟨-, -, hv, e, he, hiff, -⟩⟩ := start_cases hs
  · exact .inl hstop
  obtain ⟨err, hf, -⟩ | ⟨ip, net, hf, hn, hb⟩ := ensureBridgeConfigured_cases he
  · rw [hip] at hf
    cases hf
  rw [hip] at hf
  cases hf
  obtain ⟨⟨net', hn', hne⟩, -⟩ := Driver.bridge_gateway_of_validate hv
  rw [hn] at hn'
  cases hn'
  exact .inr ⟨net, e, hn, hne, hb, hiff⟩

theorem start_bridge_of_network {net : Domain.Network}
    (hs : start d config skip oldDataDir dataDir host order = .ok r)
    (hip : host.findIPCommand = .ok ipPath) (hn : d.networkConfig = some net)
    (hgo : r.commands ≠ [] ∨ r.err = none) :
    ∃ e, net.bridge ≠ [] ∧
      bridgeCommands host.exec ipPath net.bridge d.subnet d.gatewayIP = (r.commands, e) ∧
      (r.err = none ↔ e = none ∧ host.mkdirAll r.dataDir = none) := by
  rcases start_bridge_cases hs hip with ⟨hnil, hne⟩ | ⟨net', e, hn', hb, hcmds, hiff⟩
  · exact absurd hgo (by simp [hnil, hne])
  rw [hn] at hn'
  cases hn'
  exact ⟨e, hb, hcmds, hiff⟩

theorem start_ok_bridged {net : Domain.Network}
    (hs : start d config skip oldDataDir dataDir host order = .ok r)
    (hip : host.findIPCommand = .ok ipPath) (hr : Replays host.exec h r.commands h')
    (herr : r.err = none) (hn : d.networkConfig = some net) :
    net.bridge ≠ [] ∧ ∀ n, h'.find n = if n = net.bridge
      then some (h.bridged net.bridge (gatewayCIDR d.subnet d.gatewayIP) d.gatewayIP.string)
      else h.find n := by
  obtain ⟨e, hb, hcmds, hiff⟩ := start_bridge_of_network hs hip hn (.inr herr)
  have hr' : Replays host.exec h
      (bridgeCommands host.exec ipPath net.bridge d.subnet d.gatewayIP).1 h' := by rwa [hcmds]
  have hok : (bridgeCommands host.exec ipPath net.bridge d.subnet d.gatewayIP).2 = none := by
    rw [hcmds]
    exact (hiff.mp herr).1
  exact ⟨hb, (bridgeCommands_replays hb ((bridgeCommands_ok_iff hb hr').mp hok) hr').2.2⟩

def downBr0 : Links := ⟨[⟨lit "br0", false, []⟩], by decide, by decide⟩

def readyBr0 : Links := ⟨[⟨lit "br0", true, [lit "192.168.254.1/24"]⟩], by decide, by decide⟩

/-- After a successful `Start` on a host that answers as `ip` does, the controller with the
same network block reports the bridge `active` in `Fingerprint`, and `bridgeExists`, the
check `VMStartedBuild` makes before it touches the firewall, finds the bridge. -/
theorem start_fingerprint_active {c : Controller} {net : Domain.Network}
    {keyPrefix : GoString} {attr : GoMap GoString}
    (hs : start d config skip oldDataDir dataDir host order = .ok r)
    (hip : host.findIPCommand = .ok ipPath) (hr : Replays host.exec h r.commands h')
    (herr : r.err = none) (hn : d.networkConfig = some net) (hc : c.networkConfig = some net) :
    (∃ attr', c.fingerprint (.ok h'.interfaces) keyPrefix attr = .ok attr' ∧
        attr'.lookup (keyPrefix ++ net.bridge ++ lit ".state") = some networkStateActive) ∧
      bridgeExists (fun name => (h'.run (linkShow (lit "ip") name)).1.err) net.bridge = true := by
  obtain ⟨hb, hfind⟩ := start_ok_bridged hs hip hr herr hn
  have hfind := hfind net.bridge
  rw [if_pos rfl] at hfind
  have hactive : getBridgeState (.ok h'.interfaces) net.bridge = networkStateActive :=
    (getBridgeState_active_iff _ _).mpr ⟨_, _, rfl, by rw [Links.find?_interfaces, hfind]; rfl,
      h.bridged_up _ _ _⟩
  have hk :
      keyPrefix ++ net.bridge ++ lit ".state" ≠ keyPrefix ++ net.bridge ++ lit ".bridge_name" :=
    fun he => absurd (List.append_cancel_left he) (by decide)
  refine ⟨⟨_, by rw [Controller.fingerprint, hc], ?_⟩, by simp [bridgeExists, hb, hfind, done]⟩
  simp only [GoMap.lookup_set, if_neg hk, if_true, hactive]

/-- The web controller watches the scenario's bridge. -/
theorem start_fingerprint_active_scenario :
    start Driver.scenarioDriver (some defaultBinaries) false [] (lit "/var/lib/ch") quietHost
        GoMap.pairs = .ok scenarioRun ∧
      quietHost.findIPCommand = .ok (lit "/usr/sbin/ip") ∧
      Replays quietHost.exec downBr0 scenarioRun.commands readyBr0 ∧ scenarioRun.err = none ∧
      Driver.scenarioDriver.networkConfig = some br0Network ∧
      webController.networkConfig = some br0Network ∧
      (∃ attr', webController.fingerprint (.ok readyBr0.interfaces) (lit "nomad.") ∅ = .ok attr' ∧
          attr'.lookup (lit "nomad." ++ br0Network.bridge ++ lit ".state") =
            some networkStateActive) ∧
      bridgeExists (fun name => (readyBr0.run (linkShow (lit "ip") name)).1.err)
        br0Network.bridge = true :=
  have hs : start Driver.scenarioDriver (some defaultBinaries) false [] (lit "/var/lib/ch")
      quietHost GoMap.pairs = .ok scenarioRun := rfl
  have hr : Replays quietHost.exec downBr0 scenarioRun.commands readyBr0 :=
    .cons rfl (.cons rfl (.cons rfl (.cons rfl (.nil _))))
  ⟨hs, rfl, hr, rfl, rfl, rfl, start_fingerprint_active hs rfl hr rfl rfl rfl⟩

/-- A second `Start` of the driver on the host a successful `Start` left, again with `ip` and
replayed by the host, runs only `ip link show`, `ip addr show` and `ip link set up` once it
reaches the bridge, and leaves every link as it found it. -/
theorem start_rerun_unchanged {config₂ : Option Virt.CloudHypervisor} {skip₂ : Bool}
    {oldDataDir₂ dataDir₂ : GoString} {host₂ : Cloudhypervisor.Host}
    {order₂ : GoMap GoString → List (GoString × GoString)} {r₂ : StartRun} {ipPath₂ : GoString}
    {h'' : Links} {net : Domain.Network}
    (hs : start d config skip oldDataDir dataDir host order = .ok r)
    (hip : host.findIPCommand = .ok ipPath) (hr : Replays host.exec h r.commands h')
    (herr : r.err = none)
    (hs₂ : start d config₂ skip₂ oldDataDir₂ dataDir₂ host₂ order₂ = .ok r₂)
    (hip₂ : host₂.findIPCommand = .ok ipPath₂) (hr₂ : Replays host₂.exec h' r₂.commands h'')
    (hn : d.networkConfig = some net) (hgo : r₂.commands ≠ []) :
    r₂.commands = [linkShow ipPath₂ net.bridge, addrShow ipPath₂ net.bridge,
        linkUp ipPath₂ net.bridge] ∧
      ∀ n, h''.find n = h'.find n := by
  obtain ⟨hb, hfind⟩ := start_ok_bridged hs hip hr herr hn
  obtain ⟨e₂, -, hcmds₂, -⟩ := start_bridge_of_network hs₂ hip₂ hn (.inl hgo)
  have hpre := gateway_infix_gatewayCIDR d.subnet d.gatewayIP
  have hbr := hfind net.bridge
  rw [if_pos rfl] at hbr
  have hr₂' : Replays host₂.exec h'
      (bridgeCommands host₂.exec ipPath₂ net.bridge d.subnet d.gatewayIP).1 h'' := by
    rwa [hcmds₂]
  obtain ⟨-, hc₂, hfind₂⟩ := bridgeCommands_replays hb (.inl (by simp [hbr])) hr₂'
  rw [hcmds₂] at hc₂
  dsimp only at hc₂
  simp only [hbr, Option.isSome_some, if_true, Option.getD_some, h.bridged_contains hpre,
    List.nil_append] at hc₂
  refine ⟨hc₂, fun n => ?_⟩
  rw [hfind₂ n]
  split_ifs with hnb
  · subst hnb
    rw [hbr, Links.bridged_rerun hbr hpre]
  · rfl

def readyHost : Cloudhypervisor.Host :=
  { quietHost with
    exec := fun cmd => if cmd = addrShow (lit "/usr/sbin/ip") (lit "br0")
      then ⟨none, lit "    inet 192.168.254.1/24\n"⟩ else done }

def rerunRun : StartRun :=
  ⟨lit "/var/lib/ch", [linkShow (lit "/usr/sbin/ip") (lit "br0"),
    addrShow (lit "/usr/sbin/ip") (lit "br0"), linkUp (lit "/usr/sbin/ip") (lit "br0")], none⟩

def Links.runAll (h : Links) : List (List GoString) → Links
  | [] => h
  | cmd :: cmds => (h.run cmd).2.runAll cmds

theorem start_rerun_unchanged_scenario :
    start Driver.scenarioDriver (some defaultBinaries) false [] (lit "/var/lib/ch") quietHost
        GoMap.pairs = .ok scenarioRun ∧
      quietHost.findIPCommand = .ok (lit "/usr/sbin/ip") ∧
      Replays quietHost.exec downBr0 scenarioRun.commands readyBr0 ∧ scenarioRun.err = none ∧
      start Driver.scenarioDriver (some defaultBinaries) false [] (lit "/var/lib/ch") readyHost
        GoMap.pairs = .ok rerunRun ∧
      readyHost.findIPCommand = .ok (lit "/usr/sbin/ip") ∧
      Replays readyHost.exec readyBr0 rerunRun.commands (readyBr0.runAll rerunRun.commands) ∧
      Driver.scenarioDriver.networkConfig = some br0Network ∧ rerunRun.commands ≠ [] ∧
      rerunRun.commands = [linkShow (lit "/usr/sbin/ip") br0Network.bridge,
        addrShow (lit "/usr/sbin/ip") br0Network.bridge,
        linkUp (lit "/usr/sbin/ip") br0Network.bridge] ∧
      ∀ n, (readyBr0.runAll rerunRun.commands).find n = readyBr0.find n :=
  have hs : start Driver.scenarioDriver (some defaultBinaries) false [] (lit "/var/lib/ch")
      quietHost GoMap.pairs = .ok scenarioRun := rfl
  have hr : Replays quietHost.exec downBr0 scenarioRun.commands readyBr0 :=
    .cons rfl (.cons rfl (.cons rfl (.cons rfl (.nil _))))
  have hs₂ : start Driver.scenarioDriver (some defaultBinaries) false [] (lit "/var/lib/ch")
      readyHost GoMap.pairs = .ok rerunRun := rfl
  have hr₂ : Replays readyHost.exec readyBr0 rerunRun.commands
      (readyBr0.runAll rerunRun.commands) :=
    .cons rfl (.cons rfl (.cons rfl (.nil _)))
  have hgo : rerunRun.commands ≠ [] := by decide
  ⟨hs, rfl, hr, rfl, hs₂, rfl, hr₂, rfl, hgo,
    start_rerun_unchanged hs rfl hr rfl hs₂ rfl hr₂ rfl hgo⟩

end Start

end NomadDriverCh.Bridge
