import MultiResource.Core.Go

/-!
# `strconv.ParseFloat`

The annotation parsers and the preemptive scheduler's metrics reader call
`strconv.ParseFloat(s, 64)`. The model follows the library's stages. `special` reads an
infinity or NaN spelled out. Otherwise `readFloat` reads a literal: an optional sign, then a
mantissa in base 16 after a `0x` prefix and in base 10 otherwise, with `_` separators and at
most one point, then an exponent, optional (`e`) in base 10 and required (`p`, a power of two)
in base 16. `underscoreOK` checks that every `_` stands between digits. The text must be read
to its end, and a value that rounds past the largest `float64` is an `ErrRange`.

A finite result is the literal's exact value: this development reads `float64` values as
rationals and leaves rounding out. Infinities and NaN are the other constructors of
`GoFloat`, and `InRange` is the overflow threshold. Every text `readFloat` accepts is made of
digits, signs, points, `_` and the letters of a hexadecimal literal (`readFloat_consumes`), so
a text that ends in any other letter is rejected unless it spells an infinity or NaN.
-/

namespace MultiResource

/-! ## Values and errors -/

/-- A `float64` as the code can observe it: a finite value, an infinity, or NaN. -/
inductive GoFloat
  | finite (x : ℚ)
  | inf (neg : Bool)
  | nan
  deriving DecidableEq, Repr

namespace GoFloat

/-- Neither an infinity nor NaN. -/
def isFinite : GoFloat → Bool
  | .finite _ => true
  | _ => false

/-- The value of a finite float. The model meets infinities and NaN only where it parses
text, and the inputs it covers never produce one there; they read as zero. -/
def toRat : GoFloat → ℚ
  | .finite x => x
  | _ => 0

/-- A finite float's value is its number. -/
@[simp] theorem toRat_finite (x : ℚ) : (finite x).toRat = x := rfl

/-- A finite float is the float of its value. -/
theorem eq_finite_of_isFinite {v : GoFloat} (h : v.isFinite) : v = .finite v.toRat := by
  cases v <;> simp_all [isFinite, toRat]

end GoFloat

/-- The magnitudes that stay finite: a value of magnitude at least `2^1024 - 2^970`, half
way from `MaxFloat64 = (2^53 - 1) * 2^971` to `2^1024`, rounds to an infinity (the tie goes
to the even `2^1024`). -/
def InRange (x : ℚ) : Prop := |x| < 2 ^ 1024 - 2 ^ 970

/-- Whether a value is in the `float64` range is decidable. -/
instance : DecidablePred InRange := fun x => inferInstanceAs (Decidable (|x| < _))

/-- `v * m` in `float64` for a power of two `m ≥ 1`, as the unit suffixes multiply: exact
while the product stays in range, an infinity of `v`'s sign past it. Infinities and NaN stay
as they are. -/
def GoFloat.mulPos (v : GoFloat) (m : ℚ) : GoFloat :=
  match v with
  | .finite x => if InRange (x * m) then .finite (x * m) else .inf (decide (x < 0))
  | .inf neg => .inf neg
  | .nan => .nan

namespace Strconv

/-- The `Err` of a `*NumError`: `ErrSyntax` for a malformed text, `ErrRange` for a value past
the `float64` range. -/
inductive NumError
  | invalid
  | outOfRange
  deriving DecidableEq, Repr

/-! ## Spelled-out values -/

/-- The spellings of an infinity, lower-cased. -/
def infWords : List (List Char) := [['i', 'n', 'f'], ['i', 'n', 'f', 'i', 'n', 'i', 't', 'y']]

/-- `special(s)` over the whole text: `inf` or `infinity` in any case with an optional sign,
or `nan` in any case without one. `special` reads the longest such word at the front of the
text and `ParseFloat` rejects the text when anything follows it; no literal starts with a
letter, so that is matching the whole text. -/
def special : List Char → Option GoFloat
  | '+' :: s => if s.map Char.toLower ∈ infWords then some (.inf false) else none
  | '-' :: s => if s.map Char.toLower ∈ infWords then some (.inf true) else none
  | s =>
    if s.map Char.toLower ∈ infWords then some (.inf false)
    else if s.map Char.toLower = ['n', 'a', 'n'] then some .nan else none

/-! ## Literals -/

/-- A digit in base 16 (`hex`) or 10: `0`–`9`, and `a`–`f` in either case in base 16. -/
def isBaseDigit (hex : Bool) (c : Char) : Bool :=
  c.isDigit || (hex && decide ('a' ≤ c.toLower) && decide (c.toLower ≤ 'f'))

/-- An optional sign: whether it is `-`, and the rest. -/
def readSign : List Char → Bool × List Char
  | '+' :: s => (false, s)
  | '-' :: s => (true, s)
  | s => (false, s)

/-- The base prefix: `0x` or `0X` followed by at least one character selects base 16. -/
def readBasePrefix : List Char → Bool × List Char
  | '0' :: x :: c :: s => if x = 'x' ∨ x = 'X' then (true, c :: s) else (false, '0' :: x :: c :: s)
  | s => (false, s)

/-- A run of digits with `_` separators: the digits, and the text from the first character
that is neither. -/
def scanDigits (digit : Char → Bool) : List Char → List Char × List Char
  | [] => ([], [])
  | c :: s =>
    if c = '_' then scanDigits digit s
    else if digit c then (c :: (scanDigits digit s).1, (scanDigits digit s).2)
    else ([], c :: s)

/-- The digits after a point, if there is one; a second point ends the mantissa. -/
def readFraction (digit : Char → Bool) : List Char → List Char × List Char
  | '.' :: s => scanDigits digit s
  | s => ([], s)

/-- The value of a digit, `a`–`f` counting 10–15. -/
def digitValue (c : Char) : ℕ :=
  if c.isDigit then c.toNat - '0'.toNat else c.toLower.toNat - 'a'.toNat + 10

/-- The value of a run of digits in a base, most significant first. -/
def digitsValue (base : ℕ) (ds : List Char) : ℕ :=
  ds.foldl (fun n c => base * n + digitValue c) 0

/-- The exponent's digits; as in `readFloat`, the value stops growing once it reaches 10000. -/
def exponentValue (ds : List Char) : ℕ :=
  ds.foldl (fun e c => if e < 10000 then e * 10 + digitValue c else e) 0

/-- `-x` after a minus sign. -/
def applySign {α : Type} [Neg α] (neg : Bool) (x : α) : α := if neg then -x else x

/-- The exponent after `e` or `p`: an optional sign, a digit, then digits and `_`. -/
def readExponent (s : List Char) : Option (ℤ × List Char) :=
  match (readSign s).2 with
  | c :: r =>
    if c.isDigit then
      some (applySign (readSign s).1 (exponentValue (scanDigits Char.isDigit (c :: r)).1 : ℤ),
        (scanDigits Char.isDigit (c :: r)).2)
    else none
  | [] => none

/-- The exponent part: `e` in base 10, where it may be absent, `p` in base 16, where it is
required, either in either case. -/
def readExponentPart (hex : Bool) : List Char → Option (ℤ × List Char)
  | c :: s =>
    if c.toLower = (if hex then 'p' else 'e') then readExponent s
    else if hex then none else some (0, c :: s)
  | [] => if hex then none else some (0, [])

/-- What `readFloat` returns: the sign, the base, the mantissa's digits before and after the
point, the exponent, and the text after the literal. -/
structure Literal where
  neg : Bool
  hex : Bool
  intDigits : List Char
  fracDigits : List Char
  exp : ℤ
  rest : List Char
  deriving DecidableEq, Repr

/-- The literal's exact value. In base 16 a digit is four bits and the exponent is a power of
two. -/
def Literal.value (l : Literal) : ℚ :=
  let radix : ℕ := if l.hex then 16 else 10
  applySign l.neg ((digitsValue radix (l.intDigits ++ l.fracDigits) : ℚ) /
    (radix : ℚ) ^ l.fracDigits.length * (if l.hex then 2 else 10 : ℚ) ^ l.exp)

/-- `readFloat(s)`: the literal at the front of `s`. At least one mantissa digit is
required. -/
def readFloat (s : List Char) : Option Literal :=
  let sign := readSign s
  let base := readBasePrefix sign.2
  let int := scanDigits (isBaseDigit base.1) base.2
  let frac := readFraction (isBaseDigit base.1) int.2
  if int.1 ++ frac.1 = [] then none
  else (readExponentPart base.1 frac.2).map fun e => ⟨sign.1, base.1, int.1, frac.1, e.1, e.2⟩

/-! ## Underscores -/

/-- What `underscoreOK` saw last: the start, a digit or base prefix, an `_`, or another
character. -/
inductive Saw
  | start
  | digit
  | underscore
  | other
  deriving DecidableEq

/-- The scan of `underscoreOK` over the number proper. -/
def underscoreScan (hex : Bool) : Saw → List Char → Bool
  | saw, [] => saw != .underscore
  | saw, c :: s =>
    if isBaseDigit hex c then underscoreScan hex .digit s
    else if c = '_' then saw == .digit && underscoreScan hex .underscore s
    else saw != .underscore && underscoreScan hex .other s

/-- `underscoreOK(s)`: after an optional sign and base prefix, every `_` follows a digit or
the prefix and is followed by a digit. -/
def underscoreOK (s : List Char) : Bool :=
  match (readSign s).2 with
  | '0' :: b :: r =>
    if b.toLower = 'b' ∨ b.toLower = 'o' ∨ b.toLower = 'x' then
      underscoreScan (decide (b.toLower = 'x')) .digit r
    else underscoreScan false .start ('0' :: b :: r)
  | r => underscoreScan false .start r

/-! ## `ParseFloat` -/

/-- `strconv.ParseFloat(s, 64)`. -/
def parseFloat (s : String) : Except NumError GoFloat :=
  match special s.data with
  | some v => .ok v
  | none =>
    match readFloat s.data with
    | some l =>
      if l.rest = [] ∧ underscoreOK s.data then
        if InRange l.value then .ok (.finite l.value) else .error .outOfRange
      else .error .invalid
    | none => .error .invalid

/-- A text that spells no infinity or NaN is accepted exactly as a finite literal in range. -/
theorem parseFloat_eq_ok_finite {s : String} {l : Literal} {x : ℚ} (hs : special s.data = none)
    (hr : readFloat s.data = some l) (hl : l.rest = []) (hu : underscoreOK s.data)
    (hv : l.value = x) (hx : InRange x) : parseFloat s = .ok (.finite x) := by
  subst hv
  simp [parseFloat, hs, hr, hl, hu, hx]

/-- The empty text is malformed. -/
theorem parseFloat_empty : parseFloat ⟨[]⟩ = .error .invalid := rfl

/-- Past `special`, every value `ParseFloat` returns is finite. -/
theorem parseFloat_isFinite {s : String} {v : GoFloat} (hs : special s.data = none)
    (h : parseFloat s = .ok v) : v.isFinite := by
  simp only [parseFloat, hs] at h
  split at h
  · split_ifs at h
    cases h
    rfl
  · cases h

/-! ## What a literal is made of -/

/-- The characters a literal can hold: digits in base 16, signs, a point, `_`, the `x` of
the prefix and the `p` of a binary exponent (the `e` of a decimal one is a hex digit). -/
def floatChar (c : Char) : Bool :=
  isBaseDigit true c || decide (c.toLower ∈ ['_', '.', '+', '-', 'x', 'p'])

/-- `s` is some characters satisfying `ok` followed by `rest`. -/
def Consumes (ok : Char → Bool) (s rest : List Char) : Prop :=
  ∃ p, s = p ++ rest ∧ ∀ c ∈ p, ok c

namespace Consumes

variable {ok : Char → Bool} {s t u : List Char}

/-- Reading nothing consumes nothing. -/
theorem refl (ok : Char → Bool) (s : List Char) : Consumes ok s s := ⟨[], rfl, by simp⟩

/-- Two readings in a row consume what each consumes. -/
theorem trans : Consumes ok s t → Consumes ok t u → Consumes ok s u
  | ⟨p, hs, hp⟩, ⟨q, ht, hq⟩ =>
    ⟨p ++ q, by rw [hs, ht, List.append_assoc], fun c hc => (List.mem_append.mp hc).elim (hp c) (hq c)⟩

/-- An accepted character in front extends what is consumed. -/
theorem cons {c : Char} (hc : ok c) : Consumes ok s t → Consumes ok (c :: s) t
  | ⟨p, hs, hp⟩ => ⟨c :: p, by rw [hs, List.cons_append], List.forall_mem_cons.mpr ⟨hc, hp⟩⟩

/-- Reading everything of `l ++ [c]` consumes `c`. -/
theorem last_of_nil {l : List Char} {c : Char} (h : Consumes ok (l ++ [c]) []) : ok c := by
  obtain ⟨p, hp, hall⟩ := h
  exact hall c (by rw [← List.append_nil p, ← hp]; simp)

end Consumes

/-- The sign reader consumes float characters only. -/
theorem readSign_consumes (s : List Char) : Consumes floatChar s (readSign s).2 := by
  unfold readSign
  split
  · exact (Consumes.refl _ _).cons (by decide)
  · exact (Consumes.refl _ _).cons (by decide)
  · exact Consumes.refl _ _

/-- The base-prefix reader consumes float characters only. -/
theorem readBasePrefix_consumes (s : List Char) : Consumes floatChar s (readBasePrefix s).2 := by
  unfold readBasePrefix
  split
  · split_ifs with hx
    · rename_i x c r
      exact ((Consumes.refl _ _).cons (by rcases hx with rfl | rfl <;> decide)).cons (by decide)
    · exact Consumes.refl _ _
  · exact Consumes.refl _ _

/-- The digit scanner consumes digits and underscores only. -/
theorem scanDigits_consumes {digit : Char → Bool} (hd : ∀ c, digit c → floatChar c)
    (s : List Char) : Consumes floatChar s (scanDigits digit s).2 := by
  induction s with
  | nil => exact Consumes.refl _ _
  | cons c s ih =>
    unfold scanDigits
    split_ifs with hu hc
    · exact ih.cons (by subst hu; decide)
    · exact ih.cons (hd c hc)
    · exact Consumes.refl _ _

/-- Every digit of either base is a float character. -/
theorem isBaseDigit_floatChar (hex : Bool) (c : Char) (h : isBaseDigit hex c) : floatChar c := by
  cases hex <;> simp_all [isBaseDigit, floatChar]

/-- The fraction reader consumes float characters only. -/
theorem readFraction_consumes (hex : Bool) (s : List Char) :
    Consumes floatChar s (readFraction (isBaseDigit hex) s).2 := by
  unfold readFraction
  split
  · exact (scanDigits_consumes (isBaseDigit_floatChar hex) _).cons (by decide)
  · exact Consumes.refl _ _

/-- The exponent reader consumes float characters only. -/
theorem readExponent_consumes {s r : List Char} {e : ℤ} (h : readExponent s = some (e, r)) :
    Consumes floatChar s r := by
  have hdigit : ∀ c, c.isDigit → floatChar c := fun c hc => by simp [floatChar, isBaseDigit, hc]
  unfold readExponent at h
  split at h
  · rename_i c r' hsign
    split_ifs at h
    obtain ⟨-, rfl⟩ := Prod.mk.inj (Option.some.inj h)
    exact (readSign_consumes s).trans (hsign ▸ scanDigits_consumes hdigit _)
  · exact absurd h (by simp)

/-- The exponent part consumes float characters only. -/
theorem readExponentPart_consumes {hex : Bool} {s r : List Char} {e : ℤ}
    (h : readExponentPart hex s = some (e, r)) : Consumes floatChar s r := by
  cases s with
  | nil =>
    cases hex <;> simp [readExponentPart] at h
    exact h.2 ▸ Consumes.refl _ _
  | cons c s =>
    simp only [readExponentPart] at h
    by_cases hc : c.toLower = (if hex then 'p' else 'e')
    · rw [if_pos hc] at h
      have hfc : floatChar c := by cases hex <;> simp_all [floatChar, isBaseDigit]
      exact (readExponent_consumes h).cons hfc
    · rw [if_neg hc] at h
      cases hex <;> simp at h
      exact h.2 ▸ Consumes.refl _ _

/-- A literal is made of `floatChar`s. -/
theorem readFloat_consumes {s : List Char} {l : Literal} (h : readFloat s = some l) :
    Consumes floatChar s l.rest := by
  unfold readFloat at h
  dsimp only at h
  split at h
  · cases h
  obtain ⟨⟨e, r⟩, he, rfl⟩ := Option.map_eq_some'.mp h
  exact (readSign_consumes s).trans <| (readBasePrefix_consumes _).trans <|
    (scanDigits_consumes (isBaseDigit_floatChar _) _).trans <|
    (readFraction_consumes _ _).trans (readExponentPart_consumes he)

/-- Only a word ending in `f`, `y` or `n` is special. -/
theorem special_append {l : List Char} {c : Char}
    (hc : c.toLower ≠ 'f' ∧ c.toLower ≠ 'y' ∧ c.toLower ≠ 'n') : special (l ++ [c]) = none := by
  have hword : ∀ w : List Char, w.getLast? = some c →
      w.map Char.toLower ∉ infWords ∧ w.map Char.toLower ≠ ['n', 'a', 'n'] := fun w hw => by
    have hlast : (w.map Char.toLower).getLast? = some c.toLower := by
      rw [List.getLast?_map, hw]; rfl
    refine ⟨fun hmem => ?_, fun heq => ?_⟩
    · simp only [infWords, List.mem_cons, List.not_mem_nil, or_false] at hmem
      rcases hmem with h | h <;> rw [h] at hlast <;> simp only [List.getLast?_cons_cons,
        List.getLast?_singleton, Option.some.injEq] at hlast
      · exact hc.1 hlast.symm
      · exact hc.2.1 hlast.symm
    · rw [heq] at hlast
      simp only [List.getLast?_cons_cons, List.getLast?_singleton, Option.some.injEq] at hlast
      exact hc.2.2 hlast.symm
  have hl : (l ++ [c]).getLast? = some c := by simp
  have hsigned : ∀ a s, l ++ [c] = a :: s → s.map Char.toLower ∉ infWords := fun a s hs => by
    cases s with
    | nil => decide
    | cons b s =>
      have hlast := congrArg List.getLast? hs
      rw [hl, List.getLast?_cons_cons] at hlast
      exact (hword _ hlast.symm).1
  unfold special
  split
  · rename_i s hs
    rw [if_neg (hsigned _ _ hs)]
  · rename_i s hs
    rw [if_neg (hsigned _ _ hs)]
  · rw [if_neg (hword _ hl).1, if_neg (hword _ hl).2]

/-- A text ending in a character no literal holds, and that ends no spelling of an infinity
or NaN, is malformed. -/
theorem parseFloat_append_invalid {l : List Char} {c : Char} (hc : floatChar c = false)
    (hw : c.toLower ≠ 'f' ∧ c.toLower ≠ 'y' ∧ c.toLower ≠ 'n') :
    parseFloat ⟨l ++ [c]⟩ = .error .invalid := by
  simp only [parseFloat, special_append hw]
  split
  · rename_i lit hr
    have hrest : ¬(lit.rest = [] ∧ underscoreOK (l ++ [c])) := fun h =>
      absurd (h.1 ▸ readFloat_consumes hr).last_of_nil (by simp [hc])
    rw [if_neg hrest]
  · rfl

end Strconv

end MultiResource
