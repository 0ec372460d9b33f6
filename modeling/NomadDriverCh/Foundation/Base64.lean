import NomadDriverCh.Foundation.GoString

/-!
# `encoding/base64` with the standard padded alphabet

`StdEncoding.EncodeToString` turns each three-byte quantum into four characters of the
alphabet; a final quantum of one or two bytes is padded with `=`.  `DecodeString` skips
carriage returns and newlines, then reads groups of four characters, of which only the
last may carry padding.  The decoder is the one the environment file is read back with,
and the round trip `decodeString (encodeToString src) = some src` is what the env hand-off
relies on.
-/

namespace NomadDriverCh.Base64

def alphabet : GoString :=
  lit "ABCDEFGHIJKLMNOPQRSTUVWXYZabcdefghijklmnopqrstuvwxyz0123456789+/"

def padChar : UInt8 := 61

def encodeSextet (i : Nat) : UInt8 := alphabet.getD i 0

def decodeSextet (c : UInt8) : Option Nat :=
  if alphabet.indexOf c < 64 then some (alphabet.indexOf c) else none

/-- The four characters for the 24-bit value `v` of one quantum: `v >> 18 & 63`, ...,
`v & 63`, each looked up in the alphabet. -/
def encodeQuantum (v : Nat) : GoString :=
  [encodeSextet (v / 2 ^ 18 % 64), encodeSextet (v / 2 ^ 12 % 64),
    encodeSextet (v / 2 ^ 6 % 64), encodeSextet (v % 64)]

def encodeToString : List UInt8 → GoString
  | b0 :: b1 :: b2 :: rest =>
      encodeQuantum (b0.toNat * 2 ^ 16 + b1.toNat * 2 ^ 8 + b2.toNat) ++ encodeToString rest
  | [b0, b1] => (encodeQuantum (b0.toNat * 2 ^ 16 + b1.toNat * 2 ^ 8)).take 3 ++ [padChar]
  | [b0] => (encodeQuantum (b0.toNat * 2 ^ 16)).take 2 ++ [padChar, padChar]
  | [] => []

/-- The groups of four characters after newlines are skipped. -/
def decodeGroups : GoString → Option (List UInt8)
  | [] => some []
  | c0 :: c1 :: c2 :: c3 :: rest => do
      let i0 ← decodeSextet c0
      let i1 ← decodeSextet c1
      if c2 = padChar then
        if c3 = padChar ∧ rest = [] then
          pure [UInt8.ofNat ((i0 * 2 ^ 18 + i1 * 2 ^ 12) / 2 ^ 16)]
        else none
      else
        let i2 ← decodeSextet c2
        if c3 = padChar then
          if rest = [] then
            let v := i0 * 2 ^ 18 + i1 * 2 ^ 12 + i2 * 2 ^ 6
            pure [UInt8.ofNat (v / 2 ^ 16), UInt8.ofNat (v / 2 ^ 8)]
          else none
        else
          let i3 ← decodeSextet c3
          let v := i0 * 2 ^ 18 + i1 * 2 ^ 12 + i2 * 2 ^ 6 + i3
          let tail ← decodeGroups rest
          pure (UInt8.ofNat (v / 2 ^ 16) :: UInt8.ofNat (v / 2 ^ 8) :: UInt8.ofNat v :: tail)
  | _ => none

/-- `StdEncoding.DecodeString`; `none` stands for a `CorruptInputError`. -/
def decodeString (s : GoString) : Option (List UInt8) :=
  decodeGroups (s.filter fun c => c ≠ 10 ∧ c ≠ 13)

/-! ## The round trip -/

private theorem sextet_facts :
    ∀ i < 64, decodeSextet (encodeSextet i) = some i ∧ encodeSextet i ≠ padChar ∧
      encodeSextet i ≠ 10 ∧ encodeSextet i ≠ 13 := by
  decide

theorem decodeSextet_encodeSextet {i : Nat} (h : i < 64) :
    decodeSextet (encodeSextet i) = some i :=
  (sextet_facts i h).1

theorem encodeSextet_ne_padChar {i : Nat} (h : i < 64) : encodeSextet i ≠ padChar :=
  (sextet_facts i h).2.1

private theorem sextets_recombine {v : Nat} (hv : v < 2 ^ 24) :
    v / 2 ^ 18 % 64 * 2 ^ 18 + v / 2 ^ 12 % 64 * 2 ^ 12 + v / 2 ^ 6 % 64 * 2 ^ 6 + v % 64 = v := by
  omega

private theorem full_quantum (b0 b1 b2 : UInt8) :
    let v := b0.toNat * 2 ^ 16 + b1.toNat * 2 ^ 8 + b2.toNat
    let w := v / 2 ^ 18 % 64 * 2 ^ 18 + v / 2 ^ 12 % 64 * 2 ^ 12 + v / 2 ^ 6 % 64 * 2 ^ 6 + v % 64
    UInt8.ofNat (w / 2 ^ 16) = b0 ∧ UInt8.ofNat (w / 2 ^ 8) = b1 ∧ UInt8.ofNat w = b2 := by
  intro v w
  have := byte_toNat_lt b0; have := byte_toNat_lt b1; have := byte_toNat_lt b2
  have hw : w = v := sextets_recombine (by omega)
  refine ⟨UInt8.toNat.inj ?_, UInt8.toNat.inj ?_, UInt8.toNat.inj ?_⟩ <;>
    rw [toNat_ofNat_byte, hw] <;> omega

private theorem two_byte_quantum (b0 b1 : UInt8) :
    let v := b0.toNat * 2 ^ 16 + b1.toNat * 2 ^ 8
    let w := v / 2 ^ 18 % 64 * 2 ^ 18 + v / 2 ^ 12 % 64 * 2 ^ 12 + v / 2 ^ 6 % 64 * 2 ^ 6
    UInt8.ofNat (w / 2 ^ 16) = b0 ∧ UInt8.ofNat (w / 2 ^ 8) = b1 := by
  intro v w
  have := byte_toNat_lt b0; have := byte_toNat_lt b1
  have hw : w = v := by
    have := sextets_recombine (v := v) (by omega)
    omega
  refine ⟨UInt8.toNat.inj ?_, UInt8.toNat.inj ?_⟩ <;> rw [toNat_ofNat_byte, hw] <;> omega

private theorem one_byte_quantum (b0 : UInt8) :
    let v := b0.toNat * 2 ^ 16
    UInt8.ofNat ((v / 2 ^ 18 % 64 * 2 ^ 18 + v / 2 ^ 12 % 64 * 2 ^ 12) / 2 ^ 16) = b0 := by
  intro v
  have := byte_toNat_lt b0
  exact UInt8.toNat.inj (by rw [toNat_ofNat_byte]; omega)

private theorem encodeToString_no_newline (src : List UInt8) :
    ∀ c ∈ encodeToString src, c ≠ 10 ∧ c ≠ 13 := by
  have hq : ∀ v, ∀ c ∈ encodeQuantum v, c ≠ 10 ∧ c ≠ 13 := by
    intro v c hc
    simp only [encodeQuantum, List.mem_cons, List.mem_singleton, List.not_mem_nil,
      or_false] at hc
    rcases hc with rfl | rfl | rfl | rfl <;>
      exact (sextet_facts _ (Nat.mod_lt _ (by decide))).2.2
  induction src using encodeToString.induct with
  | case1 b0 b1 b2 rest ih =>
      simp only [encodeToString, List.mem_append]
      rintro c (hc | hc)
      exacts [hq _ c hc, ih c hc]
  | case2 b0 b1 =>
      simp only [encodeToString, List.mem_append, List.mem_singleton]
      rintro c (hc | rfl)
      exacts [hq _ c (List.mem_of_mem_take hc), by decide]
  | case3 b0 =>
      simp only [encodeToString, List.mem_append, List.mem_cons, List.mem_singleton,
        List.not_mem_nil, or_false]
      rintro c (hc | rfl | rfl)
      exacts [hq _ c (List.mem_of_mem_take hc), by decide, by decide]
  | case4 => simp [encodeToString]

theorem decodeGroups_encodeToString (src : List UInt8) :
    decodeGroups (encodeToString src) = some src := by
  have h64 : ∀ n, n % 64 < 64 := fun n => Nat.mod_lt _ (by decide)
  induction src using encodeToString.induct with
  | case1 b0 b1 b2 rest ih =>
      simp only [encodeToString, encodeQuantum, List.cons_append, List.append_eq,
        List.nil_append, decodeGroups, decodeSextet_encodeSextet (h64 _),
        encodeSextet_ne_padChar (h64 _), ih, Option.pure_def, Option.bind_eq_bind,
        Option.some_bind, if_false, Option.some.injEq, List.cons.injEq, and_true]
      exact full_quantum b0 b1 b2
  | case2 b0 b1 =>
      simp only [encodeToString, encodeQuantum, List.take, List.cons_append, List.nil_append,
        decodeGroups, decodeSextet_encodeSextet (h64 _), encodeSextet_ne_padChar (h64 _),
        Option.pure_def, Option.bind_eq_bind, Option.some_bind, if_false, and_self, if_true,
        Option.some.injEq, List.cons.injEq, and_true]
      exact two_byte_quantum b0 b1
  | case3 b0 =>
      simp only [encodeToString, encodeQuantum, List.take, List.cons_append, List.nil_append,
        decodeGroups, decodeSextet_encodeSextet (h64 _), encodeSextet_ne_padChar (h64 _),
        Option.pure_def, Option.bind_eq_bind, Option.some_bind, if_false, and_self, if_true,
        Option.some.injEq, List.cons.injEq, and_true]
      exact one_byte_quantum b0
  | case4 => rfl

/-- Decoding what `EncodeToString` produced gives the source bytes back. -/
theorem decodeString_encodeToString (src : List UInt8) :
    decodeString (encodeToString src) = some src := by
  rw [decodeString, List.filter_eq_self.mpr, decodeGroups_encodeToString]
  intro c hc
  simpa using encodeToString_no_newline src c hc

end NomadDriverCh.Base64
