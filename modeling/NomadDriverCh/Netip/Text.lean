import NomadDriverCh.Netip.Addr

/-!
# Text forms of addresses: `Addr.String`, `ParseAddr` and `ParsePrefix`

`string` is `Addr.String`: a dotted quad for IPv4; for IPv6 the RFC 5952 form, lowercase
hex groups without leading zeros and the first longest run of two or more zero groups
written `::`, or `::ffff:` and a dotted quad for an IPv4-mapped address, followed by `%`
and the zone when there is one.  `parseAddr` is `ParseAddr`: it dispatches on the first
`.`, `:` or `%` of the text; `parsePrefix` is `ParsePrefix`, split at the last `/`.  The
IPv4 syntax is strict (four fields of one to three digits, no leading zero, at most 255),
so an IPv4 address has exactly one text form (`parseAddr_v4`); an IPv6 address has many
(hex digits in either case, leading zeros, `::` anywhere a zero run is).
-/

namespace NomadDriverCh.Netip

def hexDigits : GoString := lit "0123456789abcdef"

def digit (d : Nat) : UInt8 := hexDigits.getD d 0

def appendDecimal (x : Nat) : GoString :=
  (if 100 ≤ x then [digit (x / 100)] else []) ++
    (if 10 ≤ x then [digit (x / 10 % 10)] else []) ++ [digit (x % 10)]

/-- `appendHex`: the lowercase hex form of a 16-bit group, without leading zeros. -/
def appendHex (x : Nat) : GoString :=
  (if 0x1000 ≤ x then [digit (x / 0x1000)] else []) ++
    (if 0x100 ≤ x then [digit (x / 0x100 % 16)] else []) ++
    (if 0x10 ≤ x then [digit (x / 0x10 % 16)] else []) ++ [digit (x % 16)]

def octets (n : Nat) : List Nat := [n / 2 ^ 24 % 256, n / 2 ^ 16 % 256, n / 2 ^ 8 % 256, n % 256]

def groups (n : Nat) : List Nat := (List.range 8).map fun i => n / 2 ^ (16 * (7 - i)) % 2 ^ 16

def string4 (n : Nat) : GoString := joinWith 46 ((octets n).map appendDecimal)

def zeroRun (gs : List Nat) (i : Nat) : Nat := ((gs.drop i).takeWhile (· = 0)).length

/-- The first longest run of at least two zero groups, as `(start, end)`; `(8, 8)` when
there is none.  Go keeps `255` for "none", which compares the same way below. -/
def longestZeroRun (gs : List Nat) : Nat × Nat :=
  (List.range 8).foldl
    (fun best i =>
      let l := zeroRun gs i
      if 2 ≤ l ∧ best.2 - best.1 < l then (i, i + l) else best)
    (8, 8)

/-- The groups `i, i+1, ...` of the output loop of `appendTo6`: a group after a separator,
and `::` in place of the zero run. -/
def hexGroupsFrom (gs : List Nat) (run : Nat × Nat) : Nat → Nat → GoString
  | 0, _ => []
  | fuel + 1, i =>
      if 8 ≤ i then []
      else if i = run.1 then
        lit "::" ++ (if 8 ≤ run.2 then [] else appendHex (gs.getD run.2 0) ++
          hexGroupsFrom gs run fuel (run.2 + 1))
      else
        (if 0 < i then lit ":" else []) ++ appendHex (gs.getD i 0) ++
          hexGroupsFrom gs run fuel (i + 1)

def zoneSuffix (zone : GoString) : GoString := if zone = [] then [] else 37 :: zone

def string6 (n : Nat) (zone : GoString) : GoString :=
  hexGroupsFrom (groups n) (longestZeroRun (groups n)) 8 0 ++ zoneSuffix zone

def is4In6 (n : Nat) : Bool := n / 2 ^ 32 = 0xffff

def Addr.string : Addr → GoString
  | .invalid => lit "invalid IP"
  | .v4 a => string4 a
  | .v6 a zone =>
      if is4In6 a then lit "::ffff:" ++ string4 (a % 2 ^ 32) ++ zoneSuffix zone
      else string6 a zone

theorem Addr.string_ne_nil (a : Addr) : a.string ≠ [] := by
  cases a with
  | invalid => decide
  | v4 a => simp [Addr.string, string4, octets, joinWith_cons_cons]
  | v6 a z =>
    simp only [Addr.string]
    split_ifs
    · simp [lit]
    · rw [string6, hexGroupsFrom, if_neg (by decide)]
      split_ifs <;> simp [appendHex, lit]

def Prefix.string (p : Prefix) : GoString :=
  if p.IsValid then p.ip.string ++ lit "/" ++ itoa p.bits else lit "invalid Prefix"

/-! ## Parsing -/

/-- One field of a dotted quad: one to three digits, no leading zero, at most 255. -/
def parseOctet (f : GoString) : Option Nat :=
  if f = [] ∨ (2 ≤ f.length ∧ f.head? = some 48) then none
  else (digitsValue f 0).bind fun v => if v ≤ 255 then some v else none

def parseIPv4Value (s : GoString) : Option Nat :=
  match splitAt 46 s with
  | [a, b, c, d] => do
      let o0 ← parseOctet a
      let o1 ← parseOctet b
      let o2 ← parseOctet c
      let o3 ← parseOctet d
      pure (o0 * 2 ^ 24 + o1 * 2 ^ 16 + o2 * 2 ^ 8 + o3)
  | _ => none

def parseIPv4 (s : GoString) : Option Addr :=
  (parseIPv4Value s).bind fun v => if h : v < 2 ^ 32 then some (.v4 ⟨v, h⟩) else none

def hexValue (c : UInt8) : Option Nat :=
  if 48 ≤ c.toNat ∧ c.toNat ≤ 57 then some (c.toNat - 48)
  else if 97 ≤ c.toNat ∧ c.toNat ≤ 102 then some (c.toNat - 87)
  else if 65 ≤ c.toNat ∧ c.toNat ≤ 70 then some (c.toNat - 55)
  else none

def hexRun : GoString → List UInt8 × Nat
  | [] => ([], 0)
  | c :: s =>
      match hexValue c with
      | none => ([], 0)
      | some d => let (ds, v) := hexRun s; (c :: ds, d * 16 ^ ds.length + v)

/-- The loop of `parseIPv6` over the colon-separated fields: `gs` are the groups read so
far (Go's `i` is twice their number) and `ellipsis` the group index of `::`.  It returns
the groups, the ellipsis and the unread text. -/
def parseFields : Nat → GoString → List Nat → Option Nat →
    Option (List Nat × Option Nat × GoString)
  | 0, s, gs, e => some (gs, e, s)
  | fuel + 1, s, gs, e =>
      if 8 ≤ gs.length then some (gs, e, s)
      else
        let (ds, v) := hexRun s
        let rest := s.drop ds.length
        if ds = [] ∨ 4 < ds.length then none
        else if rest.head? = some 46 then
          if (e = none ∧ gs.length ≠ 6) ∨ 8 < gs.length + 2 then none
          else (parseIPv4Value s).map fun w => (gs ++ [w / 2 ^ 16, w % 2 ^ 16], e, [])
        else
          let gs := gs ++ [v]
          match rest with
          | [] => some (gs, e, [])
          | c :: rest =>
              if c ≠ 58 ∨ rest = [] then none
              else if rest.head? = some 58 then
                if e.isSome then none
                else if rest.tail = [] then some (gs, some gs.length, [])
                else parseFields fuel rest.tail gs (some gs.length)
              else parseFields fuel rest gs e

def groupsValue (gs : List Nat) : Nat := gs.foldl (fun acc g => acc * 2 ^ 16 + g) 0

def parseIPv6 (input : GoString) : Option Addr :=
  let (s, zone?) :=
    match splitFirst 37 input with
    | some (s, zone) => (s, some zone)
    | none => (input, none)
  let zone := zone?.getD []
  if zone? = some [] then none
  else
    let (s, e) := if s.take 2 = lit "::" then (s.drop 2, some 0) else (s, none)
    let fields :=
      if s = [] ∧ e = some 0 then some ([], some 0, []) else parseFields 8 s [] e
    fields.bind fun (gs, e, rest) =>
      if rest ≠ [] then none
      else
        let gs? :=
          if gs.length < 8 then
            e.map fun i => gs.take i ++ List.replicate (8 - gs.length) 0 ++ gs.drop i
          else if e.isSome then none else some gs
        gs?.bind fun gs =>
          if h : groupsValue gs < 2 ^ 128 then some (.v6 ⟨groupsValue gs, h⟩ zone) else none

/-- `ParseAddr`: the first `.`, `:` or `%` decides the syntax. -/
def parseAddr (s : GoString) : Option Addr :=
  match s.find? fun c => c = 46 ∨ c = 58 ∨ c = 37 with
  | some 46 => parseIPv4 s
  | some 58 => parseIPv6 s
  | _ => none

/-! ## The IPv4 round trip -/

private theorem digit_toNat : ∀ n : Fin 10, (digit n).toNat = n + 48 := by decide

private theorem digit_toNat_of_lt {d : Nat} (hd : d < 10) : (digit d).toNat = d + 48 :=
  digit_toNat ⟨d, hd⟩

private theorem digitsValue_digit {d : Nat} (hd : d < 10) (s : GoString) (acc : Nat) :
    digitsValue (digit d :: s) acc = digitsValue s (10 * acc + d) := by
  rw [digitsValue, digit_toNat_of_lt hd, if_pos (by omega), Nat.add_sub_cancel]

private theorem digit_facts {d : Nat} (hd : d < 10) :
    (digit d ≠ 46 ∧ digit d ≠ 58 ∧ digit d ≠ 37) ∧ (digit d = 48 → d = 0) := by
  have h := digit_toNat_of_lt hd
  refine ⟨⟨fun he => ?_, fun he => ?_, fun he => ?_⟩, fun he => ?_⟩ <;>
    rw [he] at h <;> simp only [UInt8.reduceToNat] at h <;> omega

private theorem octet_facts (x : Nat) (hx : x < 256) : parseOctet (appendDecimal x) = some x ∧
    ∀ c ∈ appendDecimal x, c ≠ 46 ∧ c ≠ 58 ∧ c ≠ 37 := by
  have h1 : x % 10 < 10 := Nat.mod_lt _ (by decide)
  have h2 : x / 10 % 10 < 10 := Nat.mod_lt _ (by decide)
  have h3 : x / 100 < 10 := by omega
  refine ⟨?_, fun c hc => ?_⟩
  · unfold appendDecimal parseOctet
    by_cases h100 : 100 ≤ x
    · have := (digit_facts h3).2
      simp only [if_pos h100, if_pos (by omega : 10 ≤ x), List.singleton_append, List.cons_append,
        List.nil_append, digitsValue_digit h3, digitsValue_digit h2, digitsValue_digit h1,
        List.cons_ne_nil, false_or, List.head?_cons, Option.some.injEq, List.length_cons,
        List.length_nil, digitsValue.eq_1, Option.some_bind]
      rw [if_neg (by rintro ⟨-, h⟩; have := this h; omega), if_pos (by omega)]
      congr 1
      omega
    by_cases h10 : 10 ≤ x
    · have := (digit_facts h2).2
      simp only [if_neg h100, if_pos h10, List.singleton_append, List.cons_append,
        List.nil_append, digitsValue_digit h2, digitsValue_digit h1,
        List.cons_ne_nil, false_or, List.head?_cons, Option.some.injEq, List.length_cons,
        List.length_nil, digitsValue.eq_1, Option.some_bind]
      rw [if_neg (by rintro ⟨-, h⟩; have := this h; omega), if_pos (by omega)]
      congr 1
      omega
    · simp only [if_neg h100, if_neg h10, List.nil_append, digitsValue_digit h1,
        List.cons_ne_nil, false_or, List.length_cons, List.length_nil, digitsValue,
        Option.some_bind]
      rw [if_neg (by omega), if_pos (by omega)]
      congr 1
      omega
  · have hmem : c = digit (x / 100) ∨ c = digit (x / 10 % 10) ∨ c = digit (x % 10) := by
      unfold appendDecimal at hc
      split_ifs at hc <;> first | omega | simp_all
    rcases hmem with rfl | rfl | rfl
    exacts [(digit_facts h3).1, (digit_facts h2).1, (digit_facts h1).1]

theorem octets_lt (n : Nat) : ∀ o ∈ octets n, o < 256 := by
  simp only [octets, List.mem_cons, List.mem_singleton, List.not_mem_nil, or_false]
  rintro o (rfl | rfl | rfl | rfl) <;> exact Nat.mod_lt _ (by decide)

theorem parseIPv4Value_string4 (n : Nat) (h : n < 2 ^ 32) :
    parseIPv4Value (string4 n) = some n := by
  have hsplit : splitAt 46 (string4 n) = (octets n).map appendDecimal :=
    splitAt_joinWith (by
      simp only [List.mem_map]
      rintro _ ⟨o, ho, rfl⟩
      exact fun h => ((octet_facts o (octets_lt n o ho)).2 46 h).1 rfl) (by simp [octets])
  have hoct : ∀ o ∈ octets n, parseOctet (appendDecimal o) = some o :=
    fun o ho => (octet_facts o (octets_lt n o ho)).1
  simp only [octets, List.mem_cons, List.mem_singleton, forall_eq_or_imp, forall_eq] at hoct
  simp only [parseIPv4Value, hsplit, octets, List.map_cons, List.map_nil, hoct.1, hoct.2.1,
    hoct.2.2.1, hoct.2.2.2.1, Option.pure_def, Option.bind_eq_bind, Option.some_bind,
    Option.some.injEq]
  omega

theorem parseAddr_string_v4 (a : Fin (2 ^ 32)) :
    parseAddr (Addr.v4 a).string = some (.v4 a) := by
  have hfirst :
      ∀ c ∈ appendDecimal (a.val / 2 ^ 24 % 256), ¬(c = 46 ∨ c = 58 ∨ c = 37) := by
    intro c hc
    have := (octet_facts _ (Nat.mod_lt _ (by decide))).2 c hc
    tauto
  have hfind : (string4 a).find? (fun c => c = 46 ∨ c = 58 ∨ c = 37) = some 46 := by
    rw [string4, octets, List.map_cons, List.map_cons, joinWith_cons_cons, List.find?_append,
      List.find?_eq_none.mpr (by simpa using hfirst), List.find?_cons_of_pos _ (by decide)]
    rfl
  simp only [parseAddr, hfind, parseIPv4, Addr.string, parseIPv4Value_string4 a a.isLt,
    Option.some_bind, a.isLt, dif_pos]

/-! ## The IPv4 text is unique -/

theorem digit_of_decimal {b : UInt8} (h1 : 48 ≤ b.toNat) (h2 : b.toNat ≤ 57) :
    digit (b.toNat - 48) = b :=
  UInt8.toNat.inj ((digit_toNat_of_lt (by omega)).trans (by omega))

theorem digitsValue_cons {b : UInt8} {s : GoString} {acc v : Nat}
    (h : digitsValue (b :: s) acc = some v) :
    (48 ≤ b.toNat ∧ b.toNat ≤ 57) ∧ digitsValue s (10 * acc + (b.toNat - 48)) = some v := by
  rw [digitsValue] at h
  split_ifs at h with hb
  exact ⟨hb, h⟩

theorem digitsValue_ge {s : GoString} {acc v : Nat} (h : digitsValue s acc = some v) :
    acc ≤ v := by
  induction s generalizing acc with
  | nil => cases h; exact le_rfl
  | cons b s ih => exact le_trans (by omega) (ih (digitsValue_cons h).2)

theorem parseOctet_some {f : GoString} {o : Nat} (h : parseOctet f = some o) :
    f ≠ [] ∧ ¬(2 ≤ f.length ∧ f.head? = some 48) ∧ digitsValue f 0 = some o ∧
      o ≤ 255 := by
  unfold parseOctet at h
  split_ifs at h with h0
  obtain ⟨v, hv, h⟩ := Option.bind_eq_some.mp h
  split_ifs at h with hle
  cases h
  exact ⟨fun h' => h0 (.inl h'), fun h' => h0 (.inr h'), hv, hle⟩

theorem appendDecimal_of_parseOctet {f : GoString} {o : Nat} (h : parseOctet f = some o) :
    appendDecimal o = f ∧ o ≤ 255 := by
  obtain ⟨hne, hz, hv, hle⟩ := parseOctet_some h
  refine ⟨?_, hle⟩
  rcases f with _ | ⟨a, _ | ⟨b, _ | ⟨c, _ | ⟨e, rest⟩⟩⟩⟩
  · exact absurd rfl hne
  · obtain ⟨ha, hv⟩ := digitsValue_cons hv
    cases hv
    rw [appendDecimal, if_neg (by omega), if_neg (by omega), Nat.mod_eq_of_lt (by omega),
      Nat.mul_zero, Nat.zero_add, digit_of_decimal ha.1 ha.2]
    rfl
  · have h0 : a.toNat ≠ 48 := fun h => hz ⟨le_rfl, congrArg some (UInt8.toNat.inj h)⟩
    obtain ⟨ha, hv⟩ := digitsValue_cons hv
    obtain ⟨hb, hv⟩ := digitsValue_cons hv
    cases hv
    rw [appendDecimal, if_neg (by omega), if_pos (by omega),
      show (10 * (10 * 0 + (a.toNat - 48)) + (b.toNat - 48)) / 10 % 10 = a.toNat - 48 by omega,
      show (10 * (10 * 0 + (a.toNat - 48)) + (b.toNat - 48)) % 10 = b.toNat - 48 by omega,
      digit_of_decimal ha.1 ha.2, digit_of_decimal hb.1 hb.2]
    rfl
  · have h0 : a.toNat ≠ 48 := fun h => hz ⟨by simp, congrArg some (UInt8.toNat.inj h)⟩
    obtain ⟨ha, hv⟩ := digitsValue_cons hv
    obtain ⟨hb, hv⟩ := digitsValue_cons hv
    obtain ⟨hc, hv⟩ := digitsValue_cons hv
    cases hv
    generalize hw : 10 * (10 * (10 * 0 + (a.toNat - 48)) + (b.toNat - 48)) + (c.toNat - 48) = w
      at hle ⊢
    rw [appendDecimal, if_pos (by omega), if_pos (by omega), show w / 100 = a.toNat - 48 by omega,
      show w / 10 % 10 = b.toNat - 48 by omega, show w % 10 = c.toNat - 48 by omega,
      digit_of_decimal ha.1 ha.2, digit_of_decimal hb.1 hb.2, digit_of_decimal hc.1 hc.2]
    rfl
  · have h0 : a.toNat ≠ 48 := fun h => hz ⟨by simp, congrArg some (UInt8.toNat.inj h)⟩
    obtain ⟨ha, hv⟩ := digitsValue_cons hv
    have := digitsValue_ge (digitsValue_cons (digitsValue_cons (digitsValue_cons hv).2).2).2
    omega

theorem string4_of_parseIPv4Value {s : GoString} {v : Nat} (h : parseIPv4Value s = some v) :
    string4 v = s := by
  unfold parseIPv4Value at h
  split at h
  · rename_i f0 f1 f2 f3 hs
    simp only [Option.pure_def, Option.bind_eq_bind, Option.bind_eq_some, Option.some.injEq] at h
    obtain ⟨o0, h0, o1, h1, o2, h2, o3, h3, rfl⟩ := h
    obtain ⟨e0, l0⟩ := appendDecimal_of_parseOctet h0
    obtain ⟨e1, l1⟩ := appendDecimal_of_parseOctet h1
    obtain ⟨e2, l2⟩ := appendDecimal_of_parseOctet h2
    obtain ⟨e3, l3⟩ := appendDecimal_of_parseOctet h3
    have hoct : octets (o0 * 2 ^ 24 + o1 * 2 ^ 16 + o2 * 2 ^ 8 + o3) = [o0, o1, o2, o3] := by
      simp only [octets, List.cons.injEq, and_true]
      omega
    rw [string4, hoct, List.map_cons, List.map_cons, List.map_cons, List.map_cons, List.map_nil,
      e0, e1, e2, e3, ← hs]
    exact List.intercalate_splitOn s 46
  · cases h

theorem parseIPv6_v6 {s : GoString} {a : Addr} (h : parseIPv6 s = some a) :
    ∃ x z, a = .v6 x z := by
  unfold parseIPv6 at h
  split at h
  rename_i zone? _
  dsimp only at h
  by_cases hz : zone? = some []
  · rw [if_pos hz] at h
    cases h
  rw [if_neg hz] at h
  split at h
  all_goals
    obtain ⟨⟨gs, e, rest⟩, -, h⟩ := Option.bind_eq_some.mp h
    by_cases hr : rest = []
    · rw [if_neg (not_not.mpr hr)] at h
      obtain ⟨gs, -, h⟩ := Option.bind_eq_some.mp h
      split_ifs at h
      cases h
      exact ⟨_, _, rfl⟩
    · rw [if_pos hr] at h
      cases h

/-- An IPv4 address has exactly one text that `ParseAddr` accepts: its `String`. -/
theorem parseAddr_v4 {s : GoString} {x : Fin (2 ^ 32)} (h : parseAddr s = some (.v4 x)) :
    s = (Addr.v4 x).string := by
  unfold parseAddr at h
  split at h
  · simp only [parseIPv4, Option.bind_eq_some] at h
    obtain ⟨v, hv, h⟩ := h
    split_ifs at h
    cases h
    exact (string4_of_parseIPv4Value hv).symm
  · obtain ⟨_, _, h'⟩ := parseIPv6_v6 h
    cases h'
  · cases h

theorem parseAddr_isValid {s : GoString} {a : Addr} (h : parseAddr s = some a) : a.IsValid := by
  unfold parseAddr at h
  split at h
  · simp only [parseIPv4, Option.bind_eq_some] at h
    obtain ⟨v, -, h⟩ := h
    split_ifs at h
    cases h
    rfl
  · obtain ⟨_, _, rfl⟩ := parseIPv6_v6 h
    rfl
  · cases h

/-! ## Prefixes -/

def splitLast (sep : UInt8) (s : GoString) : Option (GoString × GoString) :=
  (splitFirst sep s.reverse).map fun (after, before) => (before.reverse, after.reverse)

/-- `ParsePrefix`: an address without a zone, `/`, and a prefix length, without a sign or a
leading zero, that fits the address's family. -/
def parsePrefix (s : GoString) : Option Prefix :=
  match splitLast 47 s with
  | none => none
  | some (addrText, bitsText) =>
    match h : parseAddr addrText with
    | none => none
    | some ip =>
      if hz : ip.zone ≠ [] then none
      else if 1 < bitsText.length ∧
          ¬(49 ≤ (bitsText.headD 0).toNat ∧ (bitsText.headD 0).toNat ≤ 57) then none
      else
        match atoi bitsText with
        | none => none
        | some bits =>
          if hb : 0 ≤ bits ∧ bits ≤ ip.bitLen then
            some ⟨ip, bits.toNat + 1, .inr ⟨parseAddr_isValid h, by omega, not_not.mp hz⟩⟩
          else none

theorem splitLast_append {sep : UInt8} {v : GoString} (hv : sep ∉ v) (k : GoString) :
    splitLast sep (k ++ sep :: v) = some (k, v) := by
  have hv' : sep ∉ v.reverse := by simpa using hv
  rw [splitLast, List.reverse_append, List.reverse_cons, List.append_assoc, List.singleton_append,
    splitFirst_append hv']
  simp

set_option maxRecDepth 2000 in
private theorem bitsText_facts : ∀ b < 33, 47 ∉ decimalDigits b ∧
    ¬(1 < (decimalDigits b).length ∧ ¬(49 ≤ ((decimalDigits b).headD 0).toNat ∧
      ((decimalDigits b).headD 0).toNat ≤ 57)) ∧ atoi (decimalDigits b) = some (b : Int) := by
  decide

theorem parsePrefix_string_v4 {p : Prefix} (hv : p.IsValid) (h4 : p.ip.bitLen = 32) :
    parsePrefix p.string = some p := by
  obtain ⟨ip, k, wf⟩ := p
  have hk : k ≠ 0 := by simpa [Prefix.IsValid] using hv
  have hk32 := (wf.resolve_left hk).2.1
  cases ip with
  | invalid => cases h4
  | v6 => cases h4
  | v4 a =>
    obtain ⟨h47, hlead, hatoi⟩ := bitsText_facts (k - 1) (by simp [Addr.bitLen] at hk32; omega)
    have hbits : itoa (Prefix.bits ⟨.v4 a, k, wf⟩) = decimalDigits (k - 1) := by
      show itoa ((k : Int) - 1) = _
      rw [show (k : Int) - 1 = ((k - 1 : Nat) : Int) by omega]
      rfl
    rw [Prefix.string, if_pos hv, hbits, show lit "/" = [47] from rfl, List.append_assoc,
      List.singleton_append]
    unfold parsePrefix
    rw [splitLast_append h47]
    dsimp only
    split
    · next h => rw [parseAddr_string_v4] at h; cases h
    · next ip h =>
      rw [parseAddr_string_v4] at h
      cases h
      rw [dif_neg (by simp [Addr.zone]), if_neg hlead, hatoi]
      dsimp only
      rw [dif_pos (by simp [Addr.bitLen] at hk32 ⊢; omega)]
      congr
      omega

theorem parsePrefix_addr_bits {p : Prefix} {a : Addr} (h : p.contains a)
    (h4 : p.ip.bitLen = 32) :
    ∃ q, parsePrefix (a.string ++ lit "/" ++ itoa p.bits) = some q ∧ q.ip = a ∧
      ∀ b, q.contains b = p.contains b := by
  obtain ⟨hv, hz, hl0, hl, hval⟩ := Prefix.contains_iff.mp h
  have hk : p.bitsPlusOne ≠ 0 := by simpa [Prefix.IsValid] using hv
  have hle := (p.wf.resolve_left hk).2.1
  let q : Prefix := ⟨a, p.bitsPlusOne, .inr ⟨Addr.isValid_of_bitLen hl0, hl ▸ hle, hz⟩⟩
  have hq : q.string = a.string ++ lit "/" ++ itoa p.bits := if_pos hv
  exact ⟨q, hq ▸ parsePrefix_string_v4 hv (hl.trans h4), rfl,
    Prefix.contains_congr rfl hl hval⟩

end NomadDriverCh.Netip
