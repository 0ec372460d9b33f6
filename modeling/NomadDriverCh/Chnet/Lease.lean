import NomadDriverCh.Foundation.Runes

/-!
# The dnsmasq lease lookup: `lookupDHCPLeaseByMAC`

`lookupDHCPLeaseByMAC` reads dnsmasq's lease file line by line, each line being
`expiry IP MAC hostname client-id`, and returns the IP of the first line with at least
three fields whose MAC equals the one asked for once both lose their colons, and whose
expiry, a decimal `int64`, lies after the current time.  `VMStartedBuild` no longer calls
it, and nothing else in the repository does.

The file is given as what opening it gave: that it does not exist, another error, or the
lines `bufio.Scanner` yielded with the error that stopped it, if any.  The loop reads the
clock at each line it checks; the model takes those reads as one instant, `now`.

A lookup succeeds exactly when some line is an active lease of the MAC, and then returns
the IP of the first such line, whatever the scanner's error (`lookupDHCPLeaseByMAC_spec`).
It reports that no lease was found exactly when the file was read to its end without one.
-/

namespace NomadDriverCh.Chnet

def defaultDnsmasqLeaseFile : GoString := lit "/var/lib/misc/dnsmasq.leases"

/-- What `os.Open` of the lease file, then `bufio.Scanner` over it, gave. -/
inductive LeaseFile where
  | notExist
  | openFailed (err : GoError)
  | scanned (lines : List GoString) (err : Option GoError)

/-- `strings.ReplaceAll(s, ":", "")`. -/
def dropColons (s : GoString) : GoString := s.filter (· ≠ 58)

/-- One turn of the loop: the line's IP when it has three fields or more, its MAC is `mac`
without colons, and its expiry parses (`strconv.ParseInt(fields[0], 10, 64)`) and lies after
`now`. -/
def activeLeaseIP (now : Int) (mac line : GoString) : Option GoString :=
  match fields line with
  | expiry :: ip :: leaseMAC :: _ =>
    if dropColons leaseMAC = dropColons mac then
      (atoi expiry).bind fun e => if now < e then some ip else none
    else none
  | _ => none

def leaseLoop (now : Int) (mac : GoString) : List GoString → Option GoString
  | [] => none
  | line :: rest =>
    match activeLeaseIP now mac line with
    | some ip => some ip
    | none => leaseLoop now mac rest

/-- `lookupDHCPLeaseByMAC`, at the time `now`. -/
def lookupDHCPLeaseByMAC (file : LeaseFile) (now : Int) (mac : GoString) :
    Except GoError GoString :=
  match file with
  | .notExist =>
    .error (lit "dnsmasq lease file not found at " ++ defaultDnsmasqLeaseFile ++
      lit " - ensure dnsmasq is installed and running with DHCP enabled")
  | .openFailed err =>
    .error (lit "failed to open dnsmasq lease file " ++ defaultDnsmasqLeaseFile ++ lit ": " ++ err)
  | .scanned lines scanErr =>
    match leaseLoop now mac lines with
    | some ip => .ok ip
    | none =>
      match scanErr with
      | some err => .error (lit "error reading dnsmasq lease file: " ++ err)
      | none => .error (lit "no active lease found for MAC " ++ mac)

/-- A line that is an active lease of `mac` at `now`, for `ip`: three fields or more, `ip`
the second, a MAC third that equals `mac` once both lose their colons, and a decimal
`int64` expiry first that lies after `now`. -/
def ActiveLease (now : Int) (mac line ip : GoString) : Prop :=
  ∃ expiry leaseMAC rest e, fields line = expiry :: ip :: leaseMAC :: rest ∧
    dropColons leaseMAC = dropColons mac ∧ atoi expiry = some e ∧ now < e

theorem activeLeaseIP_eq_some {now : Int} {mac line ip : GoString} :
    activeLeaseIP now mac line = some ip ↔ ActiveLease now mac line ip := by
  unfold activeLeaseIP ActiveLease
  split
  next expiry ip' leaseMAC rest hf =>
    rw [hf]
    constructor
    · intro h
      split_ifs at h with hm
      obtain ⟨e, he, h⟩ := Option.bind_eq_some.mp h
      split_ifs at h with hlt
      cases h
      exact ⟨expiry, leaseMAC, rest, e, rfl, hm, he, hlt⟩
    · rintro ⟨x, m, r, e, heq, hm, he, hlt⟩
      obtain ⟨rfl, rfl, rfl, rfl⟩ : expiry = x ∧ ip' = ip ∧ leaseMAC = m ∧ rest = r := by
        simpa using heq
      simp [hm, he, hlt]
  next hf =>
    simp only [reduceCtorEq, false_iff, not_exists, not_and]
    intro expiry leaseMAC rest _ h
    exact absurd h (hf expiry ip leaseMAC rest)

theorem leaseLoop_eq_some {now : Int} {mac ip : GoString} {lines : List GoString} :
    leaseLoop now mac lines = some ip ↔
      ∃ pre line post, lines = pre ++ line :: post ∧ ActiveLease now mac line ip ∧
        ∀ l ∈ pre, ∀ ip', ¬ActiveLease now mac l ip' := by
  induction lines with
  | nil => simp [leaseLoop]
  | cons line rest ih =>
    unfold leaseLoop
    split
    next ip' h =>
      rw [activeLeaseIP_eq_some] at h
      constructor
      · rintro ⟨⟩
        exact ⟨[], line, rest, rfl, h, by simp⟩
      · rintro ⟨pre, l, post, hl, ha, hpre⟩
        cases pre with
        | nil =>
          cases hl
          exact (activeLeaseIP_eq_some.mpr h).symm.trans (activeLeaseIP_eq_some.mpr ha)
        | cons p pre =>
          cases hl
          exact absurd h (hpre _ (.head _) ip')
    next h =>
      have hnone : ∀ ip', ¬ActiveLease now mac line ip' := fun ip' ha =>
        absurd (activeLeaseIP_eq_some.mpr ha) (by simp [h])
      rw [ih]
      constructor
      · rintro ⟨pre, l, post, rfl, ha, hpre⟩
        exact ⟨line :: pre, l, post, rfl, ha, by simpa [hnone] using hpre⟩
      · rintro ⟨pre, l, post, hl, ha, hpre⟩
        cases pre with
        | nil =>
          cases hl
          exact absurd ha (hnone ip)
        | cons p pre =>
          cases hl
          exact ⟨pre, l, post, rfl, ha, fun l' hl' => hpre l' (.tail _ hl')⟩

theorem leaseLoop_eq_none {now : Int} {mac : GoString} {lines : List GoString} :
    leaseLoop now mac lines = none ↔ ∀ l ∈ lines, ∀ ip, ¬ActiveLease now mac l ip := by
  induction lines with
  | nil => simp [leaseLoop]
  | cons line rest ih =>
    unfold leaseLoop
    split
    next ip h =>
      simp only [reduceCtorEq, false_iff, not_forall, not_not]
      exact ⟨line, .head _, ip, activeLeaseIP_eq_some.mp h⟩
    next h =>
      rw [ih, List.forall_mem_cons]
      refine ⟨fun h' => ⟨fun ip ha => ?_, h'⟩, And.right⟩
      simp [activeLeaseIP_eq_some.mpr ha] at h

/-- A lookup returns an IP exactly when the file could be read and some line is an active
lease of the MAC, and then it returns the IP of the first such line, whatever error
stopped the scanner later.  It reports that no lease was found exactly when the file was
read to its end and no line is an active lease. -/
theorem lookupDHCPLeaseByMAC_spec (file : LeaseFile) (now : Int) (mac : GoString) :
    (∀ ip, lookupDHCPLeaseByMAC file now mac = .ok ip ↔
      ∃ lines err, file = .scanned lines err ∧
        ∃ pre line post, lines = pre ++ line :: post ∧ ActiveLease now mac line ip ∧
          ∀ l ∈ pre, ∀ ip', ¬ActiveLease now mac l ip') ∧
    (lookupDHCPLeaseByMAC file now mac = .error (lit "no active lease found for MAC " ++ mac) ↔
      ∃ lines, file = .scanned lines none ∧ ∀ l ∈ lines, ∀ ip, ¬ActiveLease now mac l ip) := by
  have hd (s : GoString) : lit "dnsmasq lease file not found at " ++ s ≠
      lit "no active lease found for MAC " ++ mac :=
    fun h => absurd (congrArg List.head? h) (by simp [lit]; decide)
  have hf (s : GoString) : lit "failed to open dnsmasq lease file " ++ s ≠
      lit "no active lease found for MAC " ++ mac :=
    fun h => absurd (congrArg List.head? h) (by simp [lit]; decide)
  have he (s : GoString) : lit "error reading dnsmasq lease file: " ++ s ≠
      lit "no active lease found for MAC " ++ mac :=
    fun h => absurd (congrArg List.head? h) (by simp [lit]; decide)
  cases file with
  | notExist => simp [lookupDHCPLeaseByMAC, List.append_assoc, hd]
  | openFailed err => simp [lookupDHCPLeaseByMAC, List.append_assoc, hf]
  | scanned lines scanErr =>
    have hok (ip : GoString) : lookupDHCPLeaseByMAC (.scanned lines scanErr) now mac = .ok ip ↔
        leaseLoop now mac lines = some ip := by
      dsimp only [lookupDHCPLeaseByMAC]
      split
      · simp_all
      · split <;> simp_all
    have hno : lookupDHCPLeaseByMAC (.scanned lines scanErr) now mac =
        .error (lit "no active lease found for MAC " ++ mac) ↔
          scanErr = none ∧ leaseLoop now mac lines = none := by
      dsimp only [lookupDHCPLeaseByMAC]
      split
      · simp_all
      · split <;> simp_all
    refine ⟨fun ip => (hok ip).trans (leaseLoop_eq_some.trans ?_), hno.trans ?_⟩
    · exact ⟨fun h => ⟨lines, scanErr, rfl, h⟩, fun ⟨_, _, he, h⟩ => by cases he; exact h⟩
    · rw [leaseLoop_eq_none]
      exact ⟨fun ⟨he, h⟩ => ⟨lines, he ▸ rfl, h⟩, fun ⟨_, he, h⟩ => by cases he; exact ⟨rfl, h⟩⟩

/-- An expired lease, a line of one field, then the lease of the same MAC written without
colons: the lookup returns the third line's IP. -/
example : lookupDHCPLeaseByMAC (.scanned [lit "1700000000 192.168.254.10 52:54:00:aa:bb:cc web *",
    lit "junk", lit "1900000000 192.168.254.11 525400aabbcc web *"] none) 1800000000
      (lit "52:54:00:aa:bb:cc") = .ok (lit "192.168.254.11") := by decide

end NomadDriverCh.Chnet
