import NomadDriverCh.Foundation.GoString

/-!
# `net/netip` addresses and prefixes

An `Addr` is the invalid zero value, an IPv4 address, or an IPv6 address with a zone (the
empty string for none).  `compare` orders by bit length, then by address, then, for IPv6,
by zone: the order `Addr.Compare` defines.  `next` is `Addr.Next`, invalid past the last
address of the family.  A `Prefix` carries the well-formedness every prefix built by the
library has: a valid prefix has a valid, zone-free address and at most as many bits as
the address.  `contains` compares the first `bits` bits, so the addresses a prefix
contains form an interval of one family.
-/

namespace NomadDriverCh.Netip

inductive Addr where
  | invalid
  | v4 (a : Fin (2 ^ 32))
  | v6 (a : Fin (2 ^ 128)) (zone : GoString)
  deriving DecidableEq, Repr

namespace Addr

def IsValid : Addr → Bool
  | .invalid => false
  | _ => true

def bitLen : Addr → Nat
  | .invalid => 0
  | .v4 _ => 32
  | .v6 _ _ => 128

/-- `Is4`: an IPv4 address, not an IPv4-mapped IPv6 one. -/
def is4 : Addr → Bool
  | .v4 _ => true
  | _ => false

def value : Addr → Nat
  | .invalid => 0
  | .v4 a => a.val
  | .v6 a _ => a.val

def zone : Addr → GoString
  | .v6 _ z => z
  | _ => []

def next : Addr → Addr
  | .invalid => .invalid
  | .v4 a => if h : a.val + 1 < 2 ^ 32 then .v4 ⟨a.val + 1, h⟩ else .invalid
  | .v6 a z => if h : a.val + 1 < 2 ^ 128 then .v6 ⟨a.val + 1, h⟩ z else .invalid

/-- Go's three-way string comparison. -/
def compareZone (s t : GoString) : Ordering :=
  if goLess s t then .lt else if s = t then .eq else .gt

def compare (a b : Addr) : Ordering :=
  (Ord.compare a.bitLen b.bitLen).then
    ((Ord.compare a.value b.value).then (compareZone a.zone b.zone))

/-- `a.Compare(b) <= 0`. -/
def le (a b : Addr) : Prop := a.compare b ≠ .gt

instance : DecidableRel le := fun _ _ => inferInstanceAs (Decidable (_ ≠ _))

@[simp] theorem value_lt (a : Addr) : a.value < 2 ^ a.bitLen := by
  cases a with
  | invalid => decide
  | v4 a => exact a.isLt
  | v6 a z => exact a.isLt

theorem bitLen_le (a : Addr) : a.bitLen ≤ 128 := by
  cases a <;> simp [bitLen]

theorem isValid_of_bitLen {a : Addr} (h : a.bitLen ≠ 0) : a.IsValid := by
  cases a <;> simp_all [bitLen, IsValid]

theorem ext_value {a b : Addr} (hl : a.bitLen = b.bitLen) (hz : a.zone = b.zone)
    (hv : a.value = b.value) : a = b := by
  cases a <;> cases b <;> simp_all [bitLen, zone, value, Fin.ext_iff]

theorem next_of_lt {a : Addr} (hv : a.IsValid) (h : a.value + 1 < 2 ^ a.bitLen) :
    a.next.IsValid ∧ a.next.bitLen = a.bitLen ∧ a.next.zone = a.zone ∧
      a.next.value = a.value + 1 := by
  cases a with
  | invalid => simp [IsValid] at hv
  | v4 a => simp_all [next, bitLen, IsValid, zone, value]
  | v6 a z => simp_all [next, bitLen, IsValid, zone, value]

/-- The address of `a`'s family and zone whose bits are `n`, invalid if `n` does not fit. -/
def withValue (a : Addr) (n : Nat) : Addr :=
  match a with
  | .invalid => .invalid
  | .v4 _ => if h : n < 2 ^ 32 then .v4 ⟨n, h⟩ else .invalid
  | .v6 _ z => if h : n < 2 ^ 128 then .v6 ⟨n, h⟩ z else .invalid

theorem withValue_spec {a : Addr} (hv : a.IsValid) {n : Nat} (h : n < 2 ^ a.bitLen) :
    (a.withValue n).IsValid ∧ (a.withValue n).bitLen = a.bitLen ∧
      (a.withValue n).zone = a.zone ∧ (a.withValue n).value = n := by
  cases a with
  | invalid => simp [IsValid] at hv
  | v4 a => simp_all [withValue, bitLen, IsValid, zone, value]
  | v6 a z => simp_all [withValue, bitLen, IsValid, zone, value]

theorem eq_withValue {a b : Addr} (hv : a.IsValid) (hl : b.bitLen = a.bitLen)
    (hz : b.zone = a.zone) : b = a.withValue b.value := by
  have := value_lt b
  obtain ⟨-, hl', hz', hv'⟩ := withValue_spec hv (n := b.value) (hl ▸ this)
  exact ext_value (hl.trans hl'.symm) (hz.trans hz'.symm) hv'.symm

theorem next_withValue {a : Addr} (hv : a.IsValid) {n : Nat} (h : n + 1 < 2 ^ a.bitLen) :
    (a.withValue n).next = a.withValue (n + 1) := by
  obtain ⟨hv', hl, hz, hval⟩ := withValue_spec hv (Nat.lt_of_succ_lt h)
  obtain ⟨hv'', hl'', hz'', hval''⟩ := next_of_lt hv' (by rw [hl, hval]; exact h)
  exact eq_withValue hv (hl''.trans hl) (hz''.trans hz) ▸ by rw [hval'', hval]

theorem compare_of_same {a b : Addr} (hl : a.bitLen = b.bitLen) (hz : a.zone = b.zone) :
    a.compare b = Ord.compare a.value b.value := by
  simp only [compare, hl, hz, compareZone, goLess_self, Bool.false_eq_true, if_false, if_true,
    Nat.compare_eq_eq.mpr rfl]
  cases Ord.compare a.value b.value <;> rfl

theorem bitLen_le_of_le {a b : Addr} (h : a.le b) : a.bitLen ≤ b.bitLen := by
  by_contra hlt
  apply h
  rw [compare, (Nat.compare_eq_gt).mpr (Nat.lt_of_not_le hlt)]
  rfl

theorem le_iff_value_le {a b : Addr} (hl : a.bitLen = b.bitLen) (hz : a.zone = b.zone) :
    a.le b ↔ a.value ≤ b.value := by
  rw [le, compare_of_same hl hz, Ne, Nat.compare_eq_gt, Nat.not_lt]

end Addr

/-- `netip.Prefix`.  `bitsPlusOne = 0` is the invalid zero value. -/
structure Prefix where
  ip : Addr
  bitsPlusOne : Nat
  wf : bitsPlusOne = 0 ∨ (ip.IsValid ∧ bitsPlusOne ≤ ip.bitLen + 1 ∧ ip.zone = [])
  deriving DecidableEq

namespace Prefix

def IsValid (p : Prefix) : Bool := p.bitsPlusOne ≠ 0

/-- `Prefix.Bits`; `-1` for the invalid prefix. -/
def bits (p : Prefix) : Int := p.bitsPlusOne - 1

def hostBits (p : Prefix) : Nat := p.ip.bitLen + 1 - p.bitsPlusOne

/-- `Prefix.Contains`: same family, no zone, and the first `bits` bits agree. -/
def contains (p : Prefix) (a : Addr) : Bool :=
  p.IsValid && a.zone = [] && a.bitLen ≠ 0 && a.bitLen = p.ip.bitLen &&
    a.value / 2 ^ p.hostBits = p.ip.value / 2 ^ p.hostBits

theorem contains_iff {p : Prefix} {a : Addr} :
    p.contains a ↔ p.IsValid ∧ a.zone = [] ∧ a.bitLen ≠ 0 ∧ a.bitLen = p.ip.bitLen ∧
      a.value / 2 ^ p.hostBits = p.ip.value / 2 ^ p.hostBits := by
  simp [contains, and_assoc]

theorem contains_between {p : Prefix} {a b c : Addr} (ha : p.contains a) (hc : p.contains c)
    (hl : b.bitLen = a.bitLen) (hz : b.zone = []) (hab : a.value ≤ b.value)
    (hbc : b.value ≤ c.value) : p.contains b := by
  rw [contains_iff] at *
  obtain ⟨hv, ha0, hal, hab', haq⟩ := ha
  obtain ⟨-, -, -, -, hcq⟩ := hc
  refine ⟨hv, hz, hl ▸ hal, hl.trans hab', le_antisymm ?_ ?_⟩
  · exact hcq ▸ Nat.div_le_div_right hbc
  · exact haq ▸ Nat.div_le_div_right hab

def zero : Prefix := ⟨.invalid, 0, .inl rfl⟩

/-- `Prefix.Masked`: the prefix with the address bits past the prefix length cleared, or the
zero `Prefix` for an invalid one. -/
def masked (p : Prefix) : Prefix :=
  if h : p.bitsPlusOne = 0 then zero
  else
    have hw := p.wf.resolve_left h
    have hs := Addr.withValue_spec hw.1 (n := p.ip.value / 2 ^ p.hostBits * 2 ^ p.hostBits)
      (Nat.lt_of_le_of_lt (Nat.div_mul_le_self _ _) (Addr.value_lt p.ip))
    ⟨p.ip.withValue (p.ip.value / 2 ^ p.hostBits * 2 ^ p.hostBits), p.bitsPlusOne,
      .inr ⟨hs.1, hs.2.1 ▸ hw.2.1, hs.2.2.1.trans hw.2.2⟩⟩

theorem contains_congr {p q : Prefix} (hb : q.bitsPlusOne = p.bitsPlusOne)
    (hl : q.ip.bitLen = p.ip.bitLen)
    (hv : q.ip.value / 2 ^ p.hostBits = p.ip.value / 2 ^ p.hostBits) (a : Addr) :
    q.contains a = p.contains a := by
  have hk : q.hostBits = p.hostBits := by simp only [hostBits, hl, hb]
  simp only [contains, IsValid, hk, hb, hl, hv]

end Prefix

end NomadDriverCh.Netip
