import Mathlib.Data.List.DropRight
import NomadDriverCh.Foundation.GoString

/-!
# Runes: a `range` loop over a Go string

A `range` loop over a Go string steps through it one rune at a time.  An ASCII byte is its
own rune; at any other byte the runtime's `decoderune` takes the two-, three- or four-byte
encoding that starts there when it is well formed (continuation bytes `10xxxxxx`, no
overlong form, no surrogate, nothing past U+10FFFF), and otherwise yields U+FFFD and moves
on one byte.  `runeChunks` keeps each rune with the bytes it was decoded from.  The chunks
tile the string (`flatMap_runeChunks`), every rune is at most U+10FFFF (`runes_le`), and an
ASCII prefix decodes byte by byte whatever follows it (`runeChunks_ascii_append`).

`strings.Fields` and `strings.TrimSpace` split and trim at the runes `unicode.IsSpace` holds
of, and are modelled over the same chunks.
-/

namespace NomadDriverCh

def runeError : Nat := 0xFFFD

/-- A continuation byte: `locb <= b && b <= hicb`. -/
def isCont (b : UInt8) : Bool := 0x80 ≤ b.toNat && b.toNat ≤ 0xBF

/-- `rune(s[0]&mask2)<<6 | rune(s[1]&maskx)` -/
def rune2 (b0 b1 : UInt8) : Nat := b0.toNat % 0x20 * 0x40 + b1.toNat % 0x40

/-- `rune(s[0]&mask3)<<12 | rune(s[1]&maskx)<<6 | rune(s[2]&maskx)` -/
def rune3 (b0 b1 b2 : UInt8) : Nat :=
  b0.toNat % 0x10 * 0x1000 + b1.toNat % 0x40 * 0x40 + b2.toNat % 0x40

/-- `rune(s[0]&mask4)<<18 | rune(s[1]&maskx)<<12 | rune(s[2]&maskx)<<6 | rune(s[3]&maskx)` -/
def rune4 (b0 b1 b2 b3 : UInt8) : Nat :=
  b0.toNat % 0x08 * 0x40000 + b1.toNat % 0x40 * 0x1000 + b2.toNat % 0x40 * 0x40 +
    b3.toNat % 0x40

/-- The runtime's `decoderune` at a byte `b0` that is not ASCII, followed by `s`: the rune
and how many bytes of `s` it takes, or `RuneError` and none of them. -/
def decodeRune (b0 : UInt8) (s : GoString) : Nat × Nat :=
  if 0xC0 ≤ b0.toNat ∧ b0.toNat < 0xE0 then
    match s with
    | b1 :: _ => if isCont b1 ∧ 0x7F < rune2 b0 b1 then (rune2 b0 b1, 1) else (runeError, 0)
    | [] => (runeError, 0)
  else if 0xE0 ≤ b0.toNat ∧ b0.toNat < 0xF0 then
    match s with
    | b1 :: b2 :: _ =>
      if isCont b1 ∧ isCont b2 ∧ 0x7FF < rune3 b0 b1 b2 ∧
          ¬(0xD800 ≤ rune3 b0 b1 b2 ∧ rune3 b0 b1 b2 ≤ 0xDFFF) then (rune3 b0 b1 b2, 2)
      else (runeError, 0)
    | _ => (runeError, 0)
  else if 0xF0 ≤ b0.toNat ∧ b0.toNat < 0xF8 then
    match s with
    | b1 :: b2 :: b3 :: _ =>
      if isCont b1 ∧ isCont b2 ∧ isCont b3 ∧ 0xFFFF < rune4 b0 b1 b2 b3 ∧
          rune4 b0 b1 b2 b3 ≤ 0x10FFFF then (rune4 b0 b1 b2 b3, 3)
      else (runeError, 0)
    | _ => (runeError, 0)
  else (runeError, 0)

/-- The loop `for _, c := range s`, at most `fuel` iterations: each rune with its bytes. -/
def runeChunksFrom : Nat → GoString → List (Nat × GoString)
  | 0, _ => []
  | _ + 1, [] => []
  | fuel + 1, b0 :: s =>
    if b0.toNat < 0x80 then (b0.toNat, [b0]) :: runeChunksFrom fuel s
    else
      ((decodeRune b0 s).1, b0 :: s.take (decodeRune b0 s).2) ::
        runeChunksFrom fuel (s.drop (decodeRune b0 s).2)

/-- The runes of `s`, as a `range` loop meets them, each with the bytes it was decoded from;
every iteration takes at least one byte, so `s.length` iterations reach the end. -/
def runeChunks (s : GoString) : List (Nat × GoString) := runeChunksFrom s.length s

def runes (s : GoString) : List Nat := (runeChunks s).map Prod.fst

/-! ## What a `range` loop yields -/

theorem decodeRune_le (b0 : UInt8) (s : GoString) : (decodeRune b0 s).1 ≤ 0x10FFFF := by
  have h2 (b1 : UInt8) : rune2 b0 b1 ≤ 0x10FFFF := by unfold rune2; omega
  have h3 (b1 b2 : UInt8) : rune3 b0 b1 b2 ≤ 0x10FFFF := by unfold rune3; omega
  have he : runeError ≤ 0x10FFFF := by decide
  unfold decodeRune
  split
  · split
    · split
      · exact h2 _
      · exact he
    · exact he
  split
  · split
    · split
      · exact h3 _ _
      · exact he
    · exact he
  split
  · split
    · split
      next h => exact h.2.2.2.2
      · exact he
    · exact he
  · exact he

theorem runeChunksFrom_le {fuel : Nat} {s : GoString} :
    ∀ c ∈ runeChunksFrom fuel s, c.1 ≤ 0x10FFFF := by
  induction fuel, s using runeChunksFrom.induct with
  | case1 | case2 => simp [runeChunksFrom]
  | case3 fuel b0 s hb ih =>
    simp only [runeChunksFrom, if_pos hb, List.forall_mem_cons]
    exact ⟨by omega, ih⟩
  | case4 fuel b0 s hb ih =>
    simp only [runeChunksFrom, if_neg hb, List.forall_mem_cons]
    exact ⟨decodeRune_le b0 s, ih⟩

theorem runes_le (s : GoString) : ∀ r ∈ runes s, r ≤ 0x10FFFF := by
  simpa [runes] using fun r c hc => runeChunksFrom_le (r, c) hc

theorem runeChunks_cons_ascii {b : UInt8} (hb : b.toNat < 0x80) (s : GoString) :
    runeChunks (b :: s) = (b.toNat, [b]) :: runeChunks s := by
  show runeChunksFrom (s.length + 1) (b :: s) = _
  rw [runeChunksFrom, if_pos hb]
  rfl

theorem runeChunks_ascii_append {a : GoString} (ha : ∀ b ∈ a, b.toNat < 0x80) (t : GoString) :
    runeChunks (a ++ t) = a.map (fun b => (b.toNat, [b])) ++ runeChunks t := by
  induction a with
  | nil => rfl
  | cons b a ih =>
    rw [List.forall_mem_cons] at ha
    rw [List.cons_append, runeChunks_cons_ascii ha.1, ih ha.2]
    rfl

/-! ## White space: `strings.Fields` and `strings.TrimSpace` -/

/-- `unicode.IsSpace`: the runes of Unicode's `White_Space` property. -/
def isSpace (r : Nat) : Bool :=
  if r ≤ 0xFF then decide (r = 0x20 ∨ (0x09 ≤ r ∧ r ≤ 0x0D) ∨ r = 0x85 ∨ r = 0xA0)
  else
    decide (r = 0x1680 ∨ (0x2000 ≤ r ∧ r ≤ 0x200A) ∨ r = 0x2028 ∨ r = 0x2029 ∨ r = 0x202F ∨
      r = 0x205F ∨ r = 0x3000)

/-- The fields of `strings.Fields` from the chunks `cs` on, `field` holding the bytes of the
field under way. -/
def fieldsFrom (field : GoString) : List (Nat × GoString) → List GoString
  | [] => if field = [] then [] else [field]
  | (r, bs) :: cs =>
    if isSpace r then (if field = [] then fieldsFrom [] cs else field :: fieldsFrom [] cs)
    else fieldsFrom (field ++ bs) cs

/-- `strings.Fields`: the maximal runs of runes that are not white space, as the bytes they
were decoded from.  Its ASCII fast path splits ASCII text the same way. -/
def fields (s : GoString) : List GoString := fieldsFrom [] (runeChunks s)

/-- `strings.TrimSpace`: the string without the white-space runes at either end.  Go reads
the end backwards; a white-space rune it meets so is a well-formed encoding, which the
forward decoding meets as one chunk, so both remove the same bytes. -/
def trimSpace (s : GoString) : GoString :=
  (((runeChunks s).dropWhile (isSpace ·.1)).rdropWhile (isSpace ·.1)).flatMap Prod.snd

theorem fieldsFrom_append {cs : List (Nat × GoString)} (hcs : ∀ c ∈ cs, isSpace c.1 = false)
    (field : GoString) (rest : List (Nat × GoString)) :
    fieldsFrom field (cs ++ rest) = fieldsFrom (field ++ cs.flatMap Prod.snd) rest := by
  induction cs generalizing field with
  | nil => simp
  | cons c cs ih =>
    rw [List.forall_mem_cons] at hcs
    rw [List.cons_append, List.flatMap_cons, ← List.append_assoc, ← ih hcs.2]
    simp only [fieldsFrom, hcs.1, Bool.false_eq_true, if_false]

theorem fieldsFrom_head {field : GoString} (hf : field ≠ []) (cs : List (Nat × GoString)) :
    ∃ y rest, fieldsFrom field cs = (field ++ y) :: rest := by
  induction cs generalizing field with
  | nil => exact ⟨[], [], by simp [fieldsFrom, hf]⟩
  | cons c cs ih =>
    obtain ⟨r, bs⟩ := c
    by_cases hr : isSpace r
    · exact ⟨[], fieldsFrom [] cs, by simp [fieldsFrom, hr, hf]⟩
    · obtain ⟨y, rest, h⟩ := ih (show field ++ bs ≠ [] by simp [hf])
      exact ⟨bs ++ y, rest, by simp [fieldsFrom, hr, h]⟩

/-! ## Lower case: `strings.ToLower` compared with ASCII text -/

/-- `unicode.ToLower(r) == c` for an ASCII byte `c`: `c` itself; for a lower-case letter its
upper case too, and for `i` and `k` also U+0130 and the Kelvin sign U+212A, the only other
runes Unicode lowers to an ASCII letter. -/
def lowersTo (r : Nat) (c : UInt8) : Bool :=
  r = c.toNat || (97 ≤ c.toNat && c.toNat ≤ 122 && r + 32 = c.toNat) ||
    (c = 105 && r = 0x130) || (c = 107 && r = 0x212A)

def lowerPrefix : List Nat → GoString → Bool
  | _, [] => true
  | [], _ :: _ => false
  | r :: rs, c :: w => lowersTo r c && lowerPrefix rs w

/-- `strings.ToLower(s) == w` for an ASCII `w`.  An ASCII byte of the lowered text is a rune
of its own, and a byte of `s` that is not UTF-8 lowers to U+FFFD, which is not ASCII, so the
comparison goes rune by rune. -/
def lowerIs (s w : GoString) : Bool := (runes s).length = w.length && lowerPrefix (runes s) w

def lowerContains (s w : GoString) : Bool := (runes s).tails.any (lowerPrefix · w)

theorem flatMap_ascii (a : GoString) : (a.map fun b => (b.toNat, [b])).flatMap Prod.snd = a := by
  induction a <;> simp_all

theorem fieldsFrom_ascii_append {a : GoString} (ha : ∀ b ∈ a, isSpace b.toNat = false)
    (field : GoString) (rest : List (Nat × GoString)) :
    fieldsFrom field (a.map (fun b => (b.toNat, [b])) ++ rest) = fieldsFrom (field ++ a) rest := by
  rw [fieldsFrom_append (by simpa using ha), flatMap_ascii]

theorem rdropWhile_append_cons {α : Type} (p : α → Bool) (a : List α) {x : α} (hx : p x = false)
    (b : List α) : (a ++ x :: b).rdropWhile p = a ++ x :: b.rdropWhile p := by
  induction b using List.reverseRecOn with
  | nil =>
    rw [List.rdropWhile_nil]
    exact List.rdropWhile_concat_neg p a x (by simp [hx])
  | append_singleton b y ih =>
    rw [← List.cons_append, ← List.append_assoc, List.rdropWhile_concat, List.rdropWhile_concat,
      List.append_assoc, List.cons_append, ih]
    split_ifs <;> rfl

theorem trimSpace_ascii_append {a : GoString} (ha : ∀ b ∈ a, b.toNat < 0x80) (hne : a ≠ [])
    (hfirst : isSpace (a.head hne).toNat = false) (hlast : isSpace (a.getLast hne).toNat = false)
    (t : GoString) :
    trimSpace (a ++ t) = a ++ ((runeChunks t).rdropWhile (isSpace ·.1)).flatMap Prod.snd := by
  have hc : a.map (fun b => (b.toNat, [b])) ≠ [] := by simpa using hne
  have hdrop : (a.map (fun b => (b.toNat, [b])) ++ runeChunks t).dropWhile (isSpace ·.1) =
      a.map (fun b => (b.toNat, [b])) ++ runeChunks t := by
    obtain ⟨a0, a', rfl⟩ := List.exists_cons_of_ne_nil hne
    exact List.dropWhile_cons_of_neg (by simpa using hfirst)
  have hlast' : isSpace ((a.map fun b => (b.toNat, [b])).getLast hc).1 = false := by
    rwa [List.getLast_map]
  unfold trimSpace
  rw [runeChunks_ascii_append ha, hdrop, ← List.dropLast_append_getLast hc, List.append_assoc,
    List.singleton_append, rdropWhile_append_cons (fun c : Nat × GoString => isSpace c.1) _ hlast',
    List.append_cons,
    List.dropLast_append_getLast hc, List.flatMap_append, flatMap_ascii]

end NomadDriverCh
