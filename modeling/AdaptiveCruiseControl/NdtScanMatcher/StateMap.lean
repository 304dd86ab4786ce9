import Mathlib.Data.Rat.Floor
import Mathlib.Data.List.Basic
import Mathlib.Data.Nat.Digits
import Mathlib.Data.String.Basic
import Mathlib.Tactic.IntervalCases
import Mathlib.Tactic.Linarith

/-!
# The state map of the NDT scan matcher

`NDTScanMatcher` reports its state to the diagnostics through `state_ptr_`, a
`std::map<std::string, std::string>`.  The scan callback writes numbers into it with
`std::to_string`, and the diagnostic thread reads them back with `std::stod` and `std::stoi`
before it compares them with the node's limits.

This module models the map, the writers and the readers, and proves the round trips the
diagnostics rely on.  `std::stoi` reads back every counter below `2 ^ 31` that `std::to_string`
wrote, and throws `std::out_of_range` from `2 ^ 31` on.  `std::stod` reads back a double written
by `std::to_string` as the decimal of the `%f` format, the double rounded half to even to six
decimals.

`std::stod` returns the double nearest that decimal; the model keeps the decimal itself.  The
two differ by less than an ulp, which changes a comparison of the value read only where the
bound compared with lies between them.
-/

namespace AdaptiveCruiseControl
namespace NdtScanMatcher

/-! ## The map -/

/-- A `std::map<std::string, std::string>`, as its entries in key order. -/
abbrev StateMap := List (String × String)

/-- `(*state_ptr_)[key] = value`: the entry of `key` is replaced, or inserted in key order. -/
def StateMap.set (key value : String) : StateMap → StateMap
  | [] => [(key, value)]
  | (k, v) :: rest =>
    if key < k then (key, value) :: (k, v) :: rest
    else if key = k then (key, value) :: rest
    else (k, v) :: StateMap.set key value rest

/-- `state_ptr_->count(key)` followed by `(*state_ptr_)[key]`: the value of `key`, if any. -/
def StateMap.find? (m : StateMap) (key : String) : Option String := m.lookup key

@[simp] theorem StateMap.find?_nil (key : String) : StateMap.find? [] key = none := rfl

theorem StateMap.find?_cons (k v : String) (rest : StateMap) (key : String) :
    StateMap.find? ((k, v) :: rest) key = if key = k then some v else StateMap.find? rest key := by
  by_cases h : key = k
  · simp [StateMap.find?, List.lookup_cons, h]
  · simp [StateMap.find?, List.lookup_cons, h, beq_false_of_ne h]

@[simp] theorem StateMap.find?_set_self (key value : String) (m : StateMap) :
    StateMap.find? (StateMap.set key value m) key = some value := by
  induction m with
  | nil => simp [StateMap.set, StateMap.find?]
  | cons e rest ih =>
    obtain ⟨k, v⟩ := e
    unfold StateMap.set
    split_ifs with hlt heq
    · simp [StateMap.find?_cons]
    · simp [StateMap.find?_cons]
    · simpa [StateMap.find?_cons, heq] using ih

@[simp] theorem StateMap.find?_set_of_ne {key key' : String} (h : key' ≠ key) (value : String)
    (m : StateMap) : StateMap.find? (StateMap.set key value m) key' = StateMap.find? m key' := by
  induction m with
  | nil => simp [StateMap.set, StateMap.find?_cons, h, StateMap.find?]
  | cons e rest ih =>
    obtain ⟨k, v⟩ := e
    unfold StateMap.set
    split_ifs with hlt heq
    · simp [StateMap.find?_cons, h]
    · subst heq
      simp [StateMap.find?_cons, h]
    · simp [StateMap.find?_cons, ih]

/-- The entry of a key after a write, as one case split on the key written. -/
theorem StateMap.find?_set (key value : String) (m : StateMap) (key' : String) :
    StateMap.find? (StateMap.set key value m) key' =
      if key' = key then some value else StateMap.find? m key' := by
  split_ifs with h
  · rw [h, StateMap.find?_set_self]
  · exact StateMap.find?_set_of_ne h value m

/-! ## Writing numbers -/

/-- `std::to_string` of a `size_t`: its decimal digits. -/
def toStringSizeT (n : Nat) : String := Nat.repr n

/-- `std::to_string` of an `int`. -/
def toStringInt (i : Int) : String := toString i

/-- Rounding of a non-negative rational to a natural number, half to even: how `printf` rounds
the exact value of a double in the default rounding mode. -/
def roundHalfEven (q : ℚ) : Nat :=
  let n := ⌊q⌋₊
  if q - n < 1 / 2 then n
  else if 1 / 2 < q - n then n + 1
  else if n % 2 = 0 then n else n + 1

/-- The last `width` decimal digits of `n`, most significant first, as `%0*d` prints them. -/
def paddedDigits : Nat → Nat → List Char
  | 0, _ => []
  | width + 1, n => paddedDigits width (n / 10) ++ [Nat.digitChar (n % 10)]

/-- `std::to_string` of a `double`, or of a `float` promoted to one, which prints `%f`: a minus
sign for a negative value, the integer digits, a point and six decimals, rounded half to
even. -/
def toStringDouble (x : ℚ) : String :=
  let scaled := roundHalfEven (|x| * 10 ^ 6)
  ⟨(if x < 0 then ['-'] else []) ++ Nat.toDigits 10 (scaled / 10 ^ 6) ++
    '.' :: paddedDigits 6 (scaled % 10 ^ 6)⟩

/-- What `std::to_string` keeps of a double: the double rounded half to even to six
decimals. -/
def roundSixDecimals (x : ℚ) : ℚ :=
  (if x < 0 then -1 else 1) * (roundHalfEven (|x| * 10 ^ 6) : ℚ) / 10 ^ 6

/-! ## Reading numbers -/

/-- `isspace` in the C locale. -/
def isSpace (c : Char) : Bool :=
  c = ' ' || c = '\t' || c = '\n' || c = '\x0b' || c = '\x0c' || c = '\r'

/-- An optional sign: whether it is a minus, and the characters after it. -/
def readSign : List Char → Bool × List Char
  | '-' :: cs => (true, cs)
  | '+' :: cs => (false, cs)
  | cs => (false, cs)

/-- The value of the decimal digit characters `cs` read after the value `acc`. -/
def digitsValue (acc : Nat) (cs : List Char) : Nat :=
  cs.foldl (fun n c => 10 * n + (c.toNat - 48)) acc

/-- The exponent of a decimal floating constant: `e` or `E` and an optionally signed digit
sequence.  Without one the exponent is `0`. -/
def readExponent : List Char → Int
  | c :: cs =>
    if c = 'e' ∨ c = 'E' then
      let (negative, rest) := readSign cs
      let digits := rest.takeWhile Char.isDigit
      if digits.isEmpty then 0
      else if negative then -(digitsValue 0 digits : Int) else digitsValue 0 digits
    else 0
  | [] => 0

/-- `std::stod` on the decimal forms of `strtod`: white space, an optional sign, digits with an
optional point and fraction, and an optional exponent; the rest of the string is not read.
Without a digit it throws `std::invalid_argument`.  The value is the decimal read, not rounded to
the nearest double (see the module note).  The hexadecimal, infinity and NaN forms and the range
errors of `strtod` are left out: the state map never holds them. -/
def stod (s : String) : Option ℚ :=
  let (negative, cs) := readSign (s.toList.dropWhile isSpace)
  let intDigits := cs.takeWhile Char.isDigit
  let (fracDigits, afterFrac) := match cs.dropWhile Char.isDigit with
    | '.' :: rest => (rest.takeWhile Char.isDigit, rest.dropWhile Char.isDigit)
    | rest => ([], rest)
  if intDigits.isEmpty && fracDigits.isEmpty then none
  else
    let mantissa : ℚ :=
      digitsValue 0 intDigits + (digitsValue 0 fracDigits : ℚ) / 10 ^ fracDigits.length
    let value := mantissa * 10 ^ readExponent afterFrac
    some (if negative then -value else value)

/-- `std::stoi`: white space, an optional sign and decimal digits, read as an `int`; the rest of
the string is not read.  Without a digit it throws `std::invalid_argument`, and outside the
range of `int` `std::out_of_range`. -/
def stoi (s : String) : Option Int :=
  let (negative, cs) := readSign (s.toList.dropWhile isSpace)
  let digits := cs.takeWhile Char.isDigit
  if digits.isEmpty then none
  else
    let value : Int := if negative then -(digitsValue 0 digits : Int) else digitsValue 0 digits
    if -2 ^ 31 ≤ value ∧ value < 2 ^ 31 then some value else none

/-! ## Digits -/

theorem digitsValue_cons (acc : Nat) (c : Char) (cs : List Char) :
    digitsValue acc (c :: cs) = digitsValue (10 * acc + (c.toNat - 48)) cs := rfl

theorem digitsValue_append_singleton (acc : Nat) (cs : List Char) (c : Char) :
    digitsValue acc (cs ++ [c]) = 10 * digitsValue acc cs + (c.toNat - 48) := by
  simp [digitsValue]

theorem digitChar_of_lt {d : Nat} (h : d < 10) :
    (Nat.digitChar d).isDigit ∧ (Nat.digitChar d).toNat - 48 = d := by
  interval_cases d <;> decide

theorem isDigit_of_mem_toDigitsCore :
    ∀ (fuel n : Nat) (ds : List Char) (c : Char), c ∈ Nat.toDigitsCore 10 fuel n ds →
      c.isDigit ∨ c ∈ ds
  | 0, _, _, _, h => .inr h
  | fuel + 1, n, ds, c, h => by
    have hd := (digitChar_of_lt (Nat.mod_lt n (by decide : 10 > 0))).1
    simp only [Nat.toDigitsCore] at h
    split_ifs at h
    · rcases List.mem_cons.mp h with rfl | h
      · exact .inl hd
      · exact .inr h
    · rcases isDigit_of_mem_toDigitsCore fuel (n / 10) _ c h with h | h
      · exact .inl h
      · rcases List.mem_cons.mp h with rfl | h
        · exact .inl hd
        · exact .inr h

/-- `Nat.toDigitsCore` puts the digits of `n` before `ds`: reading them continues from `n`. -/
theorem digitsValue_toDigitsCore :
    ∀ (fuel n : Nat) (ds : List Char), n < fuel →
      digitsValue 0 (Nat.toDigitsCore 10 fuel n ds) = digitsValue n ds
  | 0, _, _, h => absurd h (Nat.not_lt_zero _)
  | fuel + 1, n, ds, h => by
    have hd := (digitChar_of_lt (Nat.mod_lt n (by decide : 10 > 0))).2
    simp only [Nat.toDigitsCore]
    split_ifs with hzero
    · rw [digitsValue_cons, hd]
      congr 1
      omega
    · rw [digitsValue_toDigitsCore fuel (n / 10) _ (by omega), digitsValue_cons, hd,
        Nat.div_add_mod]

theorem isDigit_of_mem_toDigits {n : Nat} {c : Char} (h : c ∈ Nat.toDigits 10 n) : c.isDigit :=
  (isDigit_of_mem_toDigitsCore _ n [] c h).resolve_right (List.not_mem_nil c)

theorem digitsValue_toDigits (n : Nat) : digitsValue 0 (Nat.toDigits 10 n) = n :=
  digitsValue_toDigitsCore (n + 1) n [] (Nat.lt_succ_self n)

theorem toDigits_ne_nil (n : Nat) : Nat.toDigits 10 n ≠ [] := by
  intro h
  have hzero : n = 0 := by simpa [h, digitsValue] using (digitsValue_toDigits n).symm
  subst hzero
  exact absurd h (by decide)

theorem isDigit_of_mem_paddedDigits :
    ∀ {width n : Nat} {c : Char}, c ∈ paddedDigits width n → c.isDigit
  | 0, _, _, h => absurd h (List.not_mem_nil _)
  | width + 1, n, c, h => by
    rcases List.mem_append.mp h with h | h
    · exact isDigit_of_mem_paddedDigits h
    · rw [List.mem_singleton.mp h]
      exact (digitChar_of_lt (Nat.mod_lt n (by decide : 10 > 0))).1

theorem digitsValue_paddedDigits : ∀ (width n : Nat),
    digitsValue 0 (paddedDigits width n) = n % 10 ^ width
  | 0, n => by simp [paddedDigits, digitsValue, Nat.mod_one]
  | width + 1, n => by
    rw [paddedDigits, digitsValue_append_singleton, digitsValue_paddedDigits width,
      (digitChar_of_lt (Nat.mod_lt n (by decide : 10 > 0))).2, pow_succ', Nat.mod_mul]
    ring

theorem length_paddedDigits : ∀ (width n : Nat), (paddedDigits width n).length = width
  | 0, _ => rfl
  | width + 1, n => by simp [paddedDigits, length_paddedDigits width]

/-! ## Reading what was written -/

theorem isSpace_of_isDigit {c : Char} (h : c.isDigit) : isSpace c = false := by
  cases hspace : isSpace c
  · rfl
  · simp only [isSpace, Bool.or_eq_true, decide_eq_true_eq] at hspace
    rcases hspace with (((((rfl | rfl) | rfl) | rfl) | rfl) | rfl) <;> exact absurd h (by decide)

theorem readSign_of_isDigit {c : Char} (h : c.isDigit) (cs : List Char) :
    readSign (c :: cs) = (false, c :: cs) := by
  have hminus : c ≠ '-' := by
    rintro rfl
    exact absurd h (by decide)
  have hplus : c ≠ '+' := by
    rintro rfl
    exact absurd h (by decide)
  unfold readSign
  split <;> simp_all

/-- The characters of a printed number, when they start with a digit, are read from that digit
on. -/
theorem readSign_dropWhile_of_isDigit {c : Char} (h : c.isDigit) (cs : List Char) :
    readSign ((c :: cs).dropWhile isSpace) = (false, c :: cs) := by
  rw [List.dropWhile_cons, if_neg (by simp [isSpace_of_isDigit h]), readSign_of_isDigit h]

/-- `std::stoi` reads back a counter written by `std::to_string`, below `2 ^ 31`, and throws
`std::out_of_range` from `2 ^ 31` on. -/
theorem stoi_toStringSizeT (n : Nat) :
    stoi (toStringSizeT n) = if n < 2 ^ 31 then some (n : Int) else none := by
  obtain ⟨c, cs, hcs⟩ := List.exists_cons_of_ne_nil (toDigits_ne_nil n)
  have hdigits : ∀ d ∈ c :: cs, d.isDigit := fun d hd => isDigit_of_mem_toDigits (hcs ▸ hd)
  have hvalue : digitsValue 0 (c :: cs) = n := hcs ▸ digitsValue_toDigits n
  have hread : readSign ((c :: cs).dropWhile isSpace) = (false, c :: cs) :=
    readSign_dropWhile_of_isDigit (hdigits c (List.mem_cons_self c cs)) cs
  have htake : (c :: cs).takeWhile Char.isDigit = c :: cs :=
    List.takeWhile_eq_self_iff.mpr hdigits
  simp only [stoi, toStringSizeT, Nat.repr, List.asString, String.toList, hcs, hread, htake,
    hvalue, List.isEmpty_cons, Bool.false_eq_true, if_false, if_true]
  by_cases hn : n < 2 ^ 31
  · rw [if_pos hn, if_pos ⟨by omega, by omega⟩]
  · rw [if_neg hn, if_neg (by omega)]

/-- `std::stod` of a printed number: an optional minus sign, integer digits, a point and
decimals. -/
theorem stod_printed (negative : Prop) [Decidable negative] {intDigits decimals : List Char}
    (hne : intDigits ≠ []) (hint : ∀ d ∈ intDigits, d.isDigit)
    (hdecimals : ∀ d ∈ decimals, d.isDigit) :
    stod ⟨(if negative then ['-'] else []) ++ intDigits ++ '.' :: decimals⟩ =
      some ((if negative then -1 else 1) * ((digitsValue 0 intDigits : ℚ) +
        (digitsValue 0 decimals : ℚ) / 10 ^ decimals.length)) := by
  obtain ⟨c, cs, rfl⟩ := List.exists_cons_of_ne_nil hne
  -- after the sign the integer digits stop at the point, and the decimals run to the end
  have hsign : readSign (((if negative then ['-'] else []) ++ c :: cs ++ '.' :: decimals).dropWhile
      isSpace) = (decide negative, c :: cs ++ '.' :: decimals) := by
    by_cases hneg : negative
    · simp [hneg, readSign, isSpace]
    · simpa [hneg] using readSign_dropWhile_of_isDigit (hint c (List.mem_cons_self c cs))
        (cs ++ '.' :: decimals)
  have htake : (c :: cs ++ '.' :: decimals).takeWhile Char.isDigit = c :: cs := by
    rw [List.takeWhile_append_of_pos hint]
    simp
  have hdrop : (c :: cs ++ '.' :: decimals).dropWhile Char.isDigit = '.' :: decimals := by
    rw [List.dropWhile_append_of_pos hint]
    simp
  simp only [stod, String.toList, hsign, htake, hdrop, List.takeWhile_eq_self_iff.mpr hdecimals,
    List.dropWhile_eq_nil_iff.mpr hdecimals, List.isEmpty_cons, Bool.false_and,
    Bool.false_eq_true, if_false, readExponent, zpow_zero, mul_one]
  by_cases hneg : negative <;> simp [hneg]

/-- `std::stod` reads back a double written by `std::to_string` as the double rounded half to
even to six decimals. -/
theorem stod_toStringDouble (x : ℚ) : stod (toStringDouble x) = some (roundSixDecimals x) := by
  unfold toStringDouble
  rw [stod_printed (x < 0) (toDigits_ne_nil _) (fun _ => isDigit_of_mem_toDigits)
    (fun _ => isDigit_of_mem_paddedDigits), digitsValue_toDigits, digitsValue_paddedDigits,
    length_paddedDigits, Nat.mod_mod, roundSixDecimals, mul_div_assoc]
  congr 2
  rw [eq_div_iff (by norm_num), add_mul, div_mul_cancel₀ _ (by norm_num)]
  exact_mod_cast Nat.div_add_mod' _ _

end NdtScanMatcher
end AdaptiveCruiseControl
