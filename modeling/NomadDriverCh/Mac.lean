import Mathlib.Data.Nat.ModEq
import Mathlib.Tactic.Ring
import NomadDriverCh.Foundation.Runes
import NomadDriverCh.Netip.Text

/-!
# Deterministic MAC addresses

The driver's `generateMAC` and the network controller's `generateDeterministicMAC` build a
VM's MAC address from its name the same way: the hash `hash = hash*31 + int(c)` over the
name's runes on Go's 64-bit `int`, whose low three bytes follow the QEMU/KVM prefix
`52:54:00`.  Both are `macFromName`.

The wrap-around of the 64-bit hash never shows in the address: it is the one the unbounded
hash gives (`macFromName_eq_polyHash`).  Since 31 is odd and every rune is below `2 ^ 24`,
two names whose runes differ in exactly one place get different addresses
(`macFromName_ne_of_one_rune`), wherever the place is and however long the names are.
-/

namespace NomadDriverCh

open Netip

/-- One step of the hash, `hash*31 + int(c)`, on Go's 64-bit `int`: the two's-complement bits
of the result are those of the unbounded value, wrapped to 64 bits. -/
def hashStep (hash c : Nat) : Nat := (hash * 31 + c) % 2 ^ 64

/-- The loop `for _, c := range name { hash = hash*31 + int(c) }` from `hash := 0`. -/
def nameHash (name : GoString) : Nat := (runes name).foldl hashStep 0

/-- `%02x` of a byte: two lower-case hex digits. -/
def hex2 (b : Nat) : GoString := [digit (b / 16), digit (b % 16)]

/-- `fmt.Sprintf("52:54:00:%02x:%02x:%02x", byte(hash>>16), byte(hash>>8), byte(hash))`.
`byte` keeps the low eight bits, which are the same after an arithmetic shift of the signed
hash as after a shift of its two's-complement bits. -/
def macOfHash (hash : Nat) : GoString :=
  lit "52:54:00:" ++ hex2 (hash / 2 ^ 16 % 256) ++ lit ":" ++ hex2 (hash / 2 ^ 8 % 256) ++
    lit ":" ++ hex2 (hash % 256)

/-- The address `generateMAC` and `generateDeterministicMAC` give a name. -/
def macFromName (name : GoString) : GoString := macOfHash (nameHash name)

def Cloudhypervisor.generateMAC (vmName : GoString) : GoString := macFromName vmName

def Chnet.generateDeterministicMAC (domainName : GoString) : GoString := macFromName domainName

def polyHash (cs : List Nat) : Nat := cs.foldl (fun h c => h * 31 + c) 0

/-! ## The address keeps the low 24 bits of the hash -/

private theorem hexValue_digit : ∀ d < 16, hexValue (digit d) = some d := by decide

theorem hex2_inj {b c : Nat} (hb : b < 256) (hc : c < 256) (h : hex2 b = hex2 c) : b = c := by
  have hdig {d e : Nat} (hd : d < 16) (he : e < 16) (h : digit d = digit e) : d = e :=
    Option.some.inj ((hexValue_digit d hd).symm.trans (h ▸ hexValue_digit e he))
  simp only [hex2, List.cons.injEq, and_true] at h
  have hhi := hdig (Nat.div_lt_of_lt_mul hb) (Nat.div_lt_of_lt_mul hc) h.1
  have hlo := hdig (Nat.mod_lt _ (by decide)) (Nat.mod_lt _ (by decide)) h.2
  rw [← Nat.div_add_mod b 16, hhi, hlo, Nat.div_add_mod]

theorem byte_congr {u v : Nat} (h : u % 2 ^ 24 = v % 2 ^ 24) {k : Nat} (hk : k ≤ 16) :
    u / 2 ^ k % 256 = v / 2 ^ k % 256 := by
  have hd : 2 ^ k * 256 ∣ 2 ^ 24 := by
    rw [show (256 : Nat) = 2 ^ 8 from rfl, ← Nat.pow_add]
    exact Nat.pow_dvd_pow 2 (by omega)
  rw [← Nat.mod_mul_right_div_self, ← Nat.mod_mul_right_div_self, ← Nat.mod_mod_of_dvd u hd,
    ← Nat.mod_mod_of_dvd v hd, h]

theorem macOfHash_congr {u v : Nat} (h : u % 2 ^ 24 = v % 2 ^ 24) :
    macOfHash u = macOfHash v := by
  have h0 := byte_congr h (Nat.zero_le 16)
  rw [Nat.pow_zero, Nat.div_one, Nat.div_one] at h0
  unfold macOfHash
  rw [byte_congr h le_rfl, byte_congr h (by decide), h0]

theorem macOfHash_inj {u v : Nat} (h : macOfHash u = macOfHash v) : u % 2 ^ 24 = v % 2 ^ 24 := by
  have hb (n : Nat) : n % 256 < 256 := Nat.mod_lt _ (by decide)
  simp only [macOfHash, List.append_assoc, List.append_cancel_left_eq] at h
  obtain ⟨h1, h⟩ := List.append_inj h rfl
  obtain ⟨h2, h3⟩ := List.append_inj (List.append_cancel_left h) rfl
  have e1 := hex2_inj (hb _) (hb _) h1
  have e2 := hex2_inj (hb _) (hb _) h2
  have e3 := hex2_inj (hb _) (hb _) (List.append_cancel_left h3)
  omega

/-! ## The unbounded hash -/

theorem foldl_poly (a : Nat) (l : List Nat) :
    l.foldl (fun h c => h * 31 + c) a = a * 31 ^ l.length + polyHash l := by
  induction l generalizing a with
  | nil => simp [polyHash]
  | cons c l ih =>
    simp only [polyHash, List.foldl_cons, List.length_cons] at ih ⊢
    rw [ih, ih (0 * 31 + c)]
    ring

theorem foldl_poly_modEq {m a b : Nat} (h : a ≡ b [MOD m]) (l : List Nat) :
    l.foldl (fun h c => h * 31 + c) a ≡ l.foldl (fun h c => h * 31 + c) b [MOD m] := by
  rw [foldl_poly a, foldl_poly b]
  exact (h.mul_right _).add_right _

theorem polyHash_append_cons (p : List Nat) (x : Nat) (q : List Nat) :
    polyHash (p ++ x :: q) = (polyHash p * 31 + x) * 31 ^ q.length + polyHash q := by
  rw [polyHash, List.foldl_append, List.foldl_cons, foldl_poly]
  rfl

theorem foldl_hashStep_modEq (a : Nat) (l : List Nat) :
    l.foldl hashStep a ≡ l.foldl (fun h c => h * 31 + c) a [MOD 2 ^ 64] := by
  induction l generalizing a with
  | nil => rfl
  | cons c l ih => exact (ih _).trans (foldl_poly_modEq (Nat.mod_modEq _ _) l)

/-- The 64-bit wrap-around of the hash never shows: the address is the one the unbounded
hash of the name's runes gives. -/
theorem macFromName_eq_polyHash (name : GoString) :
    macFromName name = macOfHash (polyHash (runes name)) :=
  macOfHash_congr ((foldl_hashStep_modEq 0 (runes name)).of_dvd ⟨2 ^ 40, Nat.pow_add 2 24 40⟩)

/-- Two names whose runes differ in exactly one place get different addresses: the hashes
then differ by the two runes' difference times a power of 31, which is odd, and the runes
are below `2 ^ 24`. -/
theorem macFromName_ne_of_one_rune {a b : GoString} {p q : List Nat} {x y : Nat}
    (ha : runes a = p ++ x :: q) (hb : runes b = p ++ y :: q) (hxy : x ≠ y) :
    macFromName a ≠ macFromName b := by
  intro h
  rw [macFromName_eq_polyHash, macFromName_eq_polyHash, ha, hb] at h
  have hx := runes_le a x (by simp [ha])
  have hy := runes_le b y (by simp [hb])
  have hcop : Nat.gcd (2 ^ 24) (31 ^ q.length) = 1 := Nat.Coprime.pow _ _ (by decide)
  have hmod : (polyHash p * 31 + x) * 31 ^ q.length + polyHash q ≡
      (polyHash p * 31 + y) * 31 ^ q.length + polyHash q [MOD 2 ^ 24] := by
    rw [← polyHash_append_cons, ← polyHash_append_cons]
    exact macOfHash_inj h
  have hxy' := ((hmod.add_right_cancel' _).cancel_right_of_coprime hcop).add_left_cancel' _
  exact hxy (by unfold Nat.ModEq at hxy'; omega)

theorem macFromName_ne_web :
    runes (lit "web-1") = [119, 101, 98, 45] ++ 49 :: [] ∧
      runes (lit "web-2") = [119, 101, 98, 45] ++ 50 :: [] ∧ (49 : Nat) ≠ 50 ∧
      macFromName (lit "web-1") ≠ macFromName (lit "web-2") :=
  have ha : runes (lit "web-1") = [119, 101, 98, 45] ++ 49 :: [] := rfl
  have hb : runes (lit "web-2") = [119, 101, 98, 45] ++ 50 :: [] := rfl
  ⟨ha, hb, by decide, macFromName_ne_of_one_rune ha hb (by decide)⟩

end NomadDriverCh
