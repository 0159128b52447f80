import Mathlib.Data.Rat.Floor
import Mathlib.Data.List.Nodup

/-!
# Go runtime values

The three schedulers are Go programs. A `float64` is modelled by an exact rational: every
finite double is one, and the arithmetic of the code is read without rounding, so a result
that divides assumes the divisor is nonzero (Go would give an infinity or NaN there). An
`int64` is an integer with two's-complement wrap, a `map[string]V` is the list of its
entries in the order a `range` loop visits them, and a string is read through its characters.
-/

namespace MultiResource

/-! ## `int64` and the float-to-int conversion -/

/-- The values of Go's `int64`. -/
def InInt64 (x : ℤ) : Prop := -9223372036854775808 ≤ x ∧ x < 9223372036854775808

/-- Whether a value fits `int64` is decidable. -/
instance : DecidablePred InInt64 := fun _ => inferInstanceAs (Decidable (_ ∧ _))

/-- Two's-complement wrap of an exact integer result onto `int64`. -/
def wrap64 (x : ℤ) : ℤ := (x + 9223372036854775808) % 18446744073709551616 - 9223372036854775808

/-- A result that fits is left alone by the wrap: no overflow, no change. -/
theorem wrap64_of_inInt64 {x : ℤ} (h : InInt64 x) : wrap64 x = x := by
  unfold InInt64 at h
  unfold wrap64
  omega

/-- Go's `int(x)` on a finite `float64`: truncation toward zero. -/
def truncToInt (x : ℚ) : ℤ := if 0 ≤ x then ⌊x⌋ else ⌈x⌉

/-- On non-negative values the conversion is the floor. -/
theorem truncToInt_of_nonneg {x : ℚ} (h : 0 ≤ x) : truncToInt x = ⌊x⌋ := if_pos h

/-- A non-negative value converts to a non-negative integer. -/
theorem truncToInt_nonneg {x : ℚ} (h : 0 ≤ x) : 0 ≤ truncToInt x := by
  rw [truncToInt_of_nonneg h]
  exact Int.floor_nonneg.mpr h

/-- A non-negative value below an integer bound converts into `[0, bound]`. -/
theorem truncToInt_mem_Icc {x : ℚ} {n : ℤ} (h0 : 0 ≤ x) (hn : x ≤ n) :
    0 ≤ truncToInt x ∧ truncToInt x ≤ n := by
  rw [truncToInt_of_nonneg h0]
  exact ⟨Int.floor_nonneg.mpr h0, Int.floor_le_iff.mpr (by linarith)⟩

/-- On non-negative values the conversion is monotone. -/
theorem truncToInt_mono {x y : ℚ} (h0 : 0 ≤ x) (h : x ≤ y) : truncToInt x ≤ truncToInt y := by
  rw [truncToInt_of_nonneg h0, truncToInt_of_nonneg (h0.trans h)]
  exact Int.floor_mono h

/-- Only a positive value converts to a positive integer. -/
theorem pos_of_truncToInt_pos {x : ℚ} (h : 0 < truncToInt x) : 0 < x := by
  unfold truncToInt at h
  split_ifs at h with hx
  · exact one_pos.trans_le (Int.floor_pos.mp h)
  · exact absurd h (not_lt.mpr (Int.ceil_le.mpr (by exact_mod_cast (not_le.mp hx).le)))

/-! ## `map[string]V` -/

/-- Lookup `m[k]` in a list of entries. -/
def lookupEntry {α : Type} (k : String) : List (String × α) → Option α
  | [] => none
  | e :: es => if e.1 = k then some e.2 else lookupEntry k es

/-- Assignment `m[k] = v`: an existing key keeps its place, a new key is visited last. -/
def insertEntry {α : Type} (k : String) (v : α) : List (String × α) → List (String × α)
  | [] => [(k, v)]
  | e :: es => if e.1 = k then (k, v) :: es else e :: insertEntry k v es

/-- Inserting keeps the keys in place and appends a new key at the end. -/
theorem map_fst_insertEntry {α : Type} (k : String) (v : α) (es : List (String × α)) :
    (insertEntry k v es).map Prod.fst =
      if k ∈ es.map Prod.fst then es.map Prod.fst else es.map Prod.fst ++ [k] := by
  induction es with
  | nil => rfl
  | cons e es ih =>
    by_cases he : e.1 = k
    · simp [insertEntry, he]
    · by_cases hk : k ∈ es.map Prod.fst <;> simp [insertEntry, he, ih, hk, Ne.symm he]

/-- An entry after an insert is the inserted one or an old one. -/
theorem mem_insertEntry {α : Type} {k : String} {v : α} {es : List (String × α)}
    {e : String × α} (h : e ∈ insertEntry k v es) : e = (k, v) ∨ e ∈ es := by
  induction es with
  | nil => simpa [insertEntry] using h
  | cons x es ih =>
    unfold insertEntry at h
    split at h
    · rcases List.mem_cons.mp h with rfl | h
      · exact .inl rfl
      · exact .inr (List.mem_cons_of_mem _ h)
    · rcases List.mem_cons.mp h with rfl | h
      · exact .inr (List.mem_cons_self _ _)
      · exact (ih h).imp_right (List.mem_cons_of_mem _)

/-- A Go `map[string]V`: its entries in `range` order, each key once. -/
structure GoMap (α : Type) where
  /-- The entries in the order a `range` loop visits them. -/
  entries : List (String × α)
  /-- A Go map holds each key once. -/
  keys_nodup : (entries.map Prod.fst).Nodup

namespace GoMap

variable {α : Type}

/-- `make(map[string]V)`. -/
def empty : GoMap α := ⟨[], List.nodup_nil⟩

/-- `m[k]` with its `ok` flag. -/
def lookup (m : GoMap α) (k : String) : Option α := lookupEntry k m.entries

/-- `m[k] = v`. -/
def insert (m : GoMap α) (k : String) (v : α) : GoMap α where
  entries := insertEntry k v m.entries
  keys_nodup := by
    rw [map_fst_insertEntry]
    split
    · exact m.keys_nodup
    · exact m.keys_nodup.append (List.nodup_singleton k)
        (List.disjoint_singleton.mpr ‹_›)

/-- `len(m)`. -/
def size (m : GoMap α) : ℕ := m.entries.length

/-- Every value stored in the map satisfies `P`. -/
def All (P : α → Prop) (m : GoMap α) : Prop := ∀ e ∈ m.entries, P e.2

/-- The empty map has no entries. -/
@[simp] theorem lookup_empty (k : String) : (empty : GoMap α).lookup k = none := rfl

/-- The empty map's entry list is empty. -/
@[simp] theorem entries_empty : (empty : GoMap α).entries = [] := rfl

/-- Every property holds of all of the empty map's values. -/
theorem all_empty (P : α → Prop) : (empty : GoMap α).All P := fun _ h => nomatch h

/-- An insert of a value with the property keeps it for every value. -/
theorem All.insert {P : α → Prop} {m : GoMap α} (hm : m.All P) {k : String} {v : α}
    (hv : P v) : (m.insert k v).All P := by
  intro e he
  rcases mem_insertEntry he with rfl | he
  · exact hv
  · exact hm e he

/-- A lookup after an insert finds the inserted value under its key and the old one elsewhere. -/
theorem lookupEntry_insertEntry {k k' : String} {v : α} (es : List (String × α)) :
    lookupEntry k' (insertEntry k v es) = if k = k' then some v else lookupEntry k' es := by
  induction es with
  | nil => simp [insertEntry, lookupEntry]
  | cons e es ih =>
    obtain ⟨k₀, v₀⟩ := e
    by_cases h0 : k₀ = k
    · subst h0
      by_cases hk : k₀ = k' <;> simp [insertEntry, lookupEntry, hk]
    · by_cases hk : k₀ = k'
      · subst hk
        simp [insertEntry, lookupEntry, h0, Ne.symm h0]
      · simp [insertEntry, lookupEntry, h0, hk, ih]

/-- A lookup after an insert finds the inserted value under its key and the old one elsewhere. -/
@[simp] theorem lookup_insert (m : GoMap α) (k k' : String) (v : α) :
    (m.insert k v).lookup k' = if k = k' then some v else m.lookup k' :=
  lookupEntry_insertEntry m.entries

/-- A value a lookup finds is in the entries. -/
theorem mem_of_lookupEntry {k : String} {v : α} {es : List (String × α)}
    (h : lookupEntry k es = some v) : (k, v) ∈ es := by
  induction es with
  | nil => cases h
  | cons e es ih =>
    unfold lookupEntry at h
    split at h
    · rename_i hk
      cases h
      exact List.mem_cons.mpr (.inl (Prod.ext hk.symm rfl))
    · exact List.mem_cons_of_mem _ (ih h)

/-- A value a lookup finds has every property all values have. -/
theorem All.lookup {P : α → Prop} {m : GoMap α} (hm : m.All P) {k : String} {v : α}
    (h : m.lookup k = some v) : P v :=
  hm _ (mem_of_lookupEntry h)

end GoMap

/-! ## Strings -/

/-- `strings.Contains` on character lists: `p` occurs in the list at some position. -/
def infixOf (p : List Char) : List Char → Bool
  | [] => p.isEmpty
  | c :: cs => p.isPrefixOf (c :: cs) || infixOf p cs

/-- `strings.Contains(s, substr)`. -/
def contains (s substr : String) : Bool := infixOf substr.data s.data

/-- `strings.Split(s, ":")[0]`: the host part of an `instance` label. -/
def hostPart (s : String) : String := ⟨s.data.takeWhile (· ≠ ':')⟩

/-- Go's slice expression `s[lo:hi]` on a string: the elements from `lo` up to `hi`, or the
run-time panic when `0 ≤ lo ≤ hi ≤ len(s)` fails. -/
def slice {α : Type} (s : List α) (lo hi : ℤ) : Except String (List α) :=
  if 0 ≤ lo ∧ lo ≤ hi ∧ hi ≤ s.length then .ok ((s.drop lo.toNat).take (hi - lo).toNat)
  else .error "slice bounds out of range"

/-- `strings.Split(s, sep)[0]` for the non-empty separator the code passes: `s` up to the first
occurrence of `sep`, all of `s` when there is none. -/
def splitFirst (sep : List Char) : List Char → List Char
  | [] => []
  | c :: cs => if sep.isPrefixOf (c :: cs) then [] else c :: splitFirst sep cs

/-- The first field of a split is a prefix of the string. -/
theorem splitFirst_prefix (sep s : List Char) : splitFirst sep s <+: s := by
  induction s with
  | nil => exact List.prefix_refl _
  | cons c cs ih =>
    unfold splitFirst
    split_ifs
    · exact List.nil_prefix
    · exact List.cons_prefix_cons.mpr ⟨rfl, ih⟩

/-- The first field of a split on a non-empty separator does not contain it. -/
theorem infixOf_splitFirst {sep : List Char} (hsep : sep ≠ []) (s : List Char) :
    infixOf sep (splitFirst sep s) = false := by
  have hnil : infixOf sep [] = false := by simpa [infixOf] using hsep
  induction s with
  | nil => exact hnil
  | cons c cs ih =>
    unfold splitFirst
    split_ifs with h
    · exact hnil
    · have hnot : sep.isPrefixOf (c :: splitFirst sep cs) = false := by
        refine Bool.eq_false_iff.mpr fun hp => h ?_
        exact List.isPrefixOf_iff_prefix.mpr ((List.isPrefixOf_iff_prefix.mp hp).trans
          (List.cons_prefix_cons.mpr ⟨rfl, splitFirst_prefix sep cs⟩))
      simp [infixOf, hnot, ih]

/-- `strings.ToUpper` on the ASCII letters, the only ones the unit suffixes compare against. -/
def toUpper (s : String) : String := ⟨s.data.map Char.toUpper⟩

/-- `strings.ToLower` on the ASCII letters. -/
def toLower (s : String) : String := ⟨s.data.map Char.toLower⟩

end MultiResource
