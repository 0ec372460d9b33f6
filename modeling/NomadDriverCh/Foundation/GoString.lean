import Mathlib.Algebra.Group.Int
import Mathlib.Algebra.Group.Nat.Basic
import Mathlib.Data.List.AList
import Mathlib.Data.List.Sort

/-!
# Go strings, maps and the runtime panics the driver can hit

A Go `string` is an immutable sequence of bytes, so it is modelled as a list of `UInt8`.
String literals of the source are ASCII and are written with `lit`.  Comparison, sorting,
`strings.Split` and `strings.Join` act on bytes, exactly as Go's do.  A Go map is an
association list with distinct keys; its iteration order is the list order, which is
arbitrary, as Go's is.
-/

namespace NomadDriverCh

/-- A Go `string`: a sequence of bytes. -/
abbrev GoString := List UInt8

/-- An ASCII string literal of the source, as the bytes Go stores for it. -/
def lit (s : String) : GoString := s.toList.map fun c => c.toNat.toUInt8

/-- A Go `map[string]V`; reading a missing key gives the zero value of `V`. -/
abbrev GoMap (V : Type) := AList fun _ : GoString => V

/-- The Go expression `m[k]`, with `zero` the zero value of the map's value type. -/
def GoMap.get {V : Type} (m : GoMap V) (zero : V) (k : GoString) : V :=
  (m.lookup k).getD zero

theorem byte_toNat_lt (b : UInt8) : b.toNat < 256 := b.toBitVec.isLt

/-- Go's conversion `byte(n)` keeps the low eight bits. -/
theorem toNat_ofNat_byte (n : Nat) : (UInt8.ofNat n).toNat = n % 256 := rfl

/-- Results compare by their constructor and contents, so that `decide` evaluates them. -/
instance exceptDecidableEq {ε α : Type} [DecidableEq ε] [DecidableEq α] :
    DecidableEq (Except ε α)
  | .error a, .error b => decidable_of_iff (a = b) (by rw [Except.error.injEq])
  | .ok a, .ok b => decidable_of_iff (a = b) (by rw [Except.ok.injEq])
  | .error _, .ok _ => isFalse Except.noConfusion
  | .ok _, .error _ => isFalse Except.noConfusion

def GoMap.set {V : Type} (m : GoMap V) (k : GoString) (v : V) : GoMap V := m.insert k v

def GoMap.delete {V : Type} (m : GoMap V) (k : GoString) : GoMap V := m.erase k

@[simp] theorem GoMap.get_set {V : Type} (m : GoMap V) (zero v : V) (k k' : GoString) :
    (m.set k v).get zero k' = if k' = k then v else m.get zero k' := by
  by_cases h : k' = k
  · subst h; simp [GoMap.get, GoMap.set]
  · simp [GoMap.get, GoMap.set, h, AList.lookup_insert_ne h]

@[simp] theorem GoMap.get_delete {V : Type} (m : GoMap V) (zero : V) (k k' : GoString) :
    (m.delete k).get zero k' = if k' = k then zero else m.get zero k' := by
  by_cases h : k' = k
  · subst h; simp [GoMap.get, GoMap.delete]
  · simp [GoMap.get, GoMap.delete, h, AList.lookup_erase_ne h]

@[simp] theorem GoMap.lookup_set {V : Type} (m : GoMap V) (v : V) (k k' : GoString) :
    (m.set k v).lookup k' = if k' = k then some v else m.lookup k' := by
  by_cases h : k' = k
  · subst h; simp [GoMap.set]
  · simp [GoMap.set, h, AList.lookup_insert_ne h]

@[simp] theorem GoMap.lookup_delete {V : Type} (m : GoMap V) (k k' : GoString) :
    (m.delete k).lookup k' = if k' = k then none else m.lookup k' := by
  by_cases h : k' = k
  · subst h; simp [GoMap.delete]
  · simp [GoMap.delete, h, AList.lookup_erase_ne h]

@[simp] theorem GoMap.mem_set {V : Type} (m : GoMap V) (v : V) (k k' : GoString) :
    k' ∈ m.set k v ↔ k' = k ∨ k' ∈ m := AList.mem_insert m

@[simp] theorem GoMap.mem_delete {V : Type} (m : GoMap V) (k k' : GoString) :
    k' ∈ m.delete k ↔ k' ≠ k ∧ k' ∈ m := AList.mem_erase

theorem GoMap.mem_of_get_ne {V : Type} {m : GoMap V} {zero : V} {k : GoString}
    (h : m.get zero k ≠ zero) : k ∈ m := by
  rw [← AList.lookup_isSome]
  cases hl : m.lookup k
  · simp [GoMap.get, hl] at h
  · rfl

theorem GoMap.entries_ne_nil_of_mem {V : Type} {m : GoMap V} {k : GoString} (h : k ∈ m) :
    m.entries ≠ [] := fun he => by
  simp [AList.mem_keys, AList.keys, he] at h

theorem GoMap.delete_set_of_not_mem {V : Type} {m : GoMap V} {k : GoString} (h : k ∉ m)
    (v : V) : (m.set k v).delete k = m :=
  AList.ext <| by
    show (m.insert k v).entries.kerase k = m.entries
    rw [AList.insert_entries, List.kerase_cons_eq (a := k) rfl, List.kerase_of_not_mem_keys h]

theorem GoMap.entries_set {V : Type} (m : GoMap V) (k : GoString) (v : V) :
    (m.set k v).entries = ⟨k, v⟩ :: m.entries.kerase k := AList.insert_entries

theorem GoMap.entries_delete {V : Type} (m : GoMap V) (k : GoString) :
    (m.delete k).entries = m.entries.kerase k := rfl

theorem kerase_kerase_self {V : Type} {l : List (Sigma fun _ : GoString => V)} (k : GoString)
    (h : l.NodupKeys) : (l.kerase k).kerase k = l.kerase k :=
  List.kerase_of_not_mem_keys (List.not_mem_keys_kerase k h)

/-- A Go `error`, as the text its `Error` method returns. -/
abbrev GoError := GoString

/-- The ways a call of Go code can stop the process instead of returning. -/
inductive Panic where
  | nilDereference
  | indexOutOfRange
  deriving DecidableEq, Repr

/-! ## Go's string order -/

/-- Go's `<` on strings: bytewise lexicographic, a proper prefix being smaller. -/
def goLess : GoString → GoString → Bool
  | [], [] => false
  | [], _ :: _ => true
  | _ :: _, [] => false
  | a :: s, b :: t => a < b || (a = b && goLess s t)

@[simp] theorem goLess_self (s : GoString) : goLess s s = false := by
  induction s with
  | nil => rfl
  | cons a s ih => simp [goLess, ih]

theorem goLess_trans {s t u : GoString} (hst : goLess s t) (htu : goLess t u) :
    goLess s u := by
  induction s generalizing t u with
  | nil => cases t <;> cases u <;> simp_all [goLess]
  | cons a s ih =>
      cases t with
      | nil => simp [goLess] at hst
      | cons b t =>
          cases u with
          | nil => simp [goLess] at htu
          | cons c u =>
              simp only [goLess, Bool.or_eq_true, decide_eq_true_eq, Bool.and_eq_true] at *
              rcases hst with hab | ⟨rfl, hst⟩ <;> rcases htu with hbc | ⟨rfl, htu⟩
              · exact .inl (UInt8.lt_trans hab hbc)
              · exact .inl hab
              · exact .inl hbc
              · exact .inr ⟨rfl, ih hst htu⟩

theorem goLess_trichotomy (s t : GoString) : goLess s t ∨ s = t ∨ goLess t s := by
  induction s generalizing t with
  | nil => cases t <;> simp [goLess]
  | cons a s ih =>
      cases t with
      | nil => simp [goLess]
      | cons b t =>
          simp only [goLess, Bool.or_eq_true, decide_eq_true_eq, Bool.and_eq_true,
            List.cons.injEq]
          rcases Nat.lt_trichotomy a.toNat b.toNat with hab | hab | hab
          · exact .inl (.inl hab)
          · obtain rfl : a = b := UInt8.toNat.inj hab
            rcases ih t with h | h | h <;> simp [h]
          · exact .inr (.inr (.inl hab))

theorem goLess_asymm {s t : GoString} (h : goLess s t) : goLess t s = false := by
  cases hts : goLess t s
  · rfl
  · simpa using goLess_trans h hts

def GoString.Le (s t : GoString) : Prop := goLess t s = false

instance : DecidableRel GoString.Le := fun _ _ => inferInstanceAs (Decidable (_ = _))

instance : IsTotal GoString GoString.Le where
  total s t := by
    unfold GoString.Le
    rcases goLess_trichotomy s t with h | rfl | h
    · exact .inl (goLess_asymm h)
    · simp
    · exact .inr (goLess_asymm h)

instance : IsTrans GoString GoString.Le where
  trans s t u hst htu := by
    unfold GoString.Le at *
    cases hus : goLess u s
    · rfl
    · rcases goLess_trichotomy s t with h | rfl | h
      · simpa [htu] using goLess_trans hus h
      · simp [htu] at hus
      · simp [h] at hst

/-- `sort.Strings`: Go's string sort.  Every correct sort agrees on lists of distinct
strings, which is all the driver sorts. -/
def sortStrings (keys : List GoString) : List GoString :=
  keys.insertionSort GoString.Le

theorem sortStrings_perm (keys : List GoString) : (sortStrings keys).Perm keys :=
  List.perm_insertionSort _ _

theorem sortStrings_increasing {keys : List GoString} (h : keys.Nodup) :
    (sortStrings keys).Pairwise fun s t => goLess s t := by
  have hs := List.sorted_insertionSort GoString.Le keys
  have hd : (sortStrings keys).Nodup := (sortStrings_perm keys).nodup_iff.mpr h
  refine (hs.and hd).imp ?_
  rintro s t ⟨hst, hne⟩
  rcases goLess_trichotomy s t with h | h | h
  · exact h
  · exact absurd h hne
  · simp [GoString.Le, h] at hst

/-! ## `strings.Split`, `strings.Join` and `strconv` -/

def joinWith (sep : UInt8) (lines : List GoString) : GoString := [sep].intercalate lines

theorem joinWith_cons_cons (sep : UInt8) (a b : GoString) (l : List GoString) :
    joinWith sep (a :: b :: l) = a ++ sep :: joinWith sep (b :: l) := by
  simp [joinWith, List.intercalate]

def splitAt (sep : UInt8) (s : GoString) : List GoString := s.splitOn sep

theorem splitAt_joinWith {sep : UInt8} {lines : List GoString}
    (hsep : ∀ l ∈ lines, sep ∉ l) (hne : lines ≠ []) :
    splitAt sep (joinWith sep lines) = lines :=
  List.splitOn_intercalate lines sep hsep hne

theorem mapM_map_of_forall {α β γ : Type} {f : β → Option γ} {h : α → β} {g : α → γ}
    {l : List α} (hfg : ∀ x ∈ l, f (h x) = some (g x)) :
    (l.map h).mapM f = some (l.map g) := by
  induction l with
  | nil => rfl
  | cons x l ih =>
      simp only [List.map_cons, List.mapM_cons, hfg x (List.mem_cons_self x l),
        ih fun y hy => hfg y (List.mem_cons_of_mem x hy)]
      rfl

def splitFirst (sep : UInt8) : GoString → Option (GoString × GoString)
  | [] => none
  | b :: s => if b = sep then some ([], s) else (splitFirst sep s).map fun kv => (b :: kv.1, kv.2)

theorem splitFirst_append {sep : UInt8} {k : GoString} (hk : sep ∉ k) (v : GoString) :
    splitFirst sep (k ++ sep :: v) = some (k, v) := by
  induction k with
  | nil => simp [splitFirst]
  | cons b k ih =>
      simp only [List.mem_cons, not_or] at hk
      simp [splitFirst, Ne.symm hk.1, ih hk.2]

/-- The verb %q of package fmt on a string of printable characters: the text in double
quotes, with quotes and backslashes escaped. -/
def quote (s : GoString) : GoString :=
  34 :: (s.flatMap fun c => if c = 34 ∨ c = 92 then [92, c] else [c]) ++ [34]

def decimalDigits (n : Nat) : GoString := (Nat.toDigits 10 n).map fun c => c.toNat.toUInt8

def itoa : Int → GoString
  | .ofNat n => decimalDigits n
  | .negSucc n => lit "-" ++ decimalDigits (n + 1)

/-- The value of a run of ASCII decimal digits, or `none` if a byte is not a digit. -/
def digitsValue : GoString → Nat → Option Nat
  | [], acc => some acc
  | b :: s, acc =>
      if 48 ≤ b.toNat ∧ b.toNat ≤ 57 then digitsValue s (10 * acc + (b.toNat - 48)) else none

/-- `strconv.Atoi`: an optional sign, then at least one decimal digit, within the range of
a 64-bit `int`. -/
def atoi (s : GoString) : Option Int :=
  let (negative, digits) :=
    match s with
    | 45 :: rest => (true, rest)
    | 43 :: rest => (false, rest)
    | _ => (false, s)
  if digits = [] then none
  else
    (digitsValue digits 0).bind fun n =>
      let v : Int := if negative then -n else n
      if -2 ^ 63 ≤ v ∧ v < 2 ^ 63 then some v else none

/-- `strconv.ParseUint(s, 10, bitSize)`: one decimal digit or more and nothing else, with a
value below `2 ^ bitSize`. -/
def parseUint (s : GoString) (bitSize : Nat) : Option Nat :=
  if s = [] then none
  else (digitsValue s 0).bind fun v => if v < 2 ^ bitSize then some v else none

def trimPrefix (s pre : GoString) : GoString :=
  if s.take pre.length = pre then s.drop pre.length else s

def indexByte : GoString → UInt8 → Option Nat
  | [], _ => none
  | b :: s, c => if b = c then some 0 else (indexByte s c).map (· + 1)

def containsBytes (s sub : GoString) : Bool := s.tails.any (sub.isPrefixOf ·)

def GoMap.pairs {V : Type} (m : GoMap V) : List (GoString × V) := m.entries.map fun s => (s.1, s.2)

theorem digit_of_mem_digitsValue {s : GoString} {acc v : Nat} (h : digitsValue s acc = some v) :
    ∀ b ∈ s, 48 ≤ b.toNat ∧ b.toNat ≤ 57 := by
  induction s generalizing acc with
  | nil => simp
  | cons b s ih =>
    rw [digitsValue] at h
    split_ifs at h with hb
    exact List.forall_mem_cons.2 ⟨hb, ih h⟩

private theorem digitChar_toNat :
    ∀ d : Fin 10, ((Nat.digitChar d).toNat.toUInt8).toNat = d + 48 := by
  decide

private theorem digitsValue_toDigitsCore {f n : Nat} (hn : n < f) (ds : List Char) :
    digitsValue ((Nat.toDigitsCore 10 f n ds).map fun c => c.toNat.toUInt8) 0 =
      digitsValue (ds.map fun c => c.toNat.toUInt8) n := by
  induction f generalizing n ds with
  | zero => omega
  | succ f ih =>
    have hd : ((Nat.digitChar (n % 10)).toNat.toUInt8).toNat = n % 10 + 48 :=
      digitChar_toNat ⟨n % 10, Nat.mod_lt _ (by decide)⟩
    have hstep : digitsValue ((Nat.digitChar (n % 10) :: ds).map fun c => c.toNat.toUInt8)
        (n / 10) = digitsValue (ds.map fun c => c.toNat.toUInt8) n := by
      rw [List.map_cons, digitsValue, if_pos (by omega), hd]
      congr 1
      omega
    show digitsValue (List.map (fun c => c.toNat.toUInt8) (if n / 10 = 0 then
      Nat.digitChar (n % 10) :: ds
      else Nat.toDigitsCore 10 f (n / 10) (Nat.digitChar (n % 10) :: ds))) 0 = _
    split_ifs with h
    · rw [h] at hstep
      exact hstep
    · rw [ih (by omega), hstep]

theorem digitsValue_decimalDigits (n : Nat) : digitsValue (decimalDigits n) 0 = some n :=
  digitsValue_toDigitsCore (Nat.lt_succ_self n) []

theorem decimalDigits_ne_nil (n : Nat) : decimalDigits n ≠ [] := by
  intro h
  have hv := digitsValue_decimalDigits n
  rw [h] at hv
  cases hv
  exact absurd h (by decide)

end NomadDriverCh
