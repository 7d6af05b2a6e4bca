import Mathlib

/-!
# Floating-point text

Configuration values are text; a number in it is read by trimming white space and parsing a
floating-point literal. This module gives both reads on lists of characters, as the Go library
does them: `trimSpace` drops the characters of `isSpace` at both ends, and `parseFloat` reads
the special values `inf`, `infinity` (either with a sign) and `nan`, in any case, and the
literals of `readFloat`: an optional sign, digits with an optional fraction, and an exponent,
decimal (`2.5e1`, exponent optional) or after `0x` hexadecimal (`0x1.8p4`, a binary exponent
required). A `_` may separate digits (`underscoreOK`), and the exponent stops growing at 10000.

A literal's value is kept exactly, as `Decimal` (`mantissa * 10 ^ exponent`, its meaning
`Decimal.toRat`), which holds every hexadecimal value too since `2⁻¹ = 5 / 10`
(`toRat_literalValue`). Rounding to the nearest binary64 value is monotone, so it keeps every
order the exact values have but can make two close values equal. A literal whose value rounds
beyond the largest binary64 value is refused, as the Go parser refuses it with a range error.
-/

namespace FloatText

/-- A white space character: the ASCII ones, NEL, NBSP, and the Unicode space separators, line
separator and paragraph separator. -/
def isSpace (c : Char) : Bool :=
  match c.toNat with
  | 0x09 | 0x0A | 0x0B | 0x0C | 0x0D | 0x20 | 0x85 | 0xA0 | 0x1680 | 0x2028 | 0x2029
  | 0x202F | 0x205F | 0x3000 => true
  | code => decide (0x2000 ≤ code ∧ code ≤ 0x200A)

/-- The text without the white space at both ends. -/
def trimSpace (text : List Char) : List Char :=
  ((text.dropWhile isSpace).reverse.dropWhile isSpace).reverse

/-- A finite decimal value `mantissa * 10 ^ exponent`. -/
structure Decimal where
  mantissa : Int
  exponent : Int
  deriving DecidableEq, Repr

/-- A parsed floating-point value. -/
inductive FloatValue where
  | finite (value : Decimal)
  | infinity (negative : Bool)
  | nan
  deriving DecidableEq, Repr

namespace Decimal

/-- The value. -/
def toRat (value : Decimal) : ℚ := value.mantissa * (10 : ℚ) ^ value.exponent

/-- The two mantissas scaled to the smaller exponent. -/
def scaled (first second : Decimal) : Int × Int :=
  let exponent := min first.exponent second.exponent
  (first.mantissa * 10 ^ (first.exponent - exponent).toNat,
    second.mantissa * 10 ^ (second.exponent - exponent).toNat)

/-- The value is below the other's. -/
def lt (first second : Decimal) : Bool :=
  decide ((scaled first second).1 < (scaled first second).2)

/-- A mantissa scaled to a smaller exponent keeps its value. -/
theorem toRat_scaled (mantissa : Int) {exponent low : Int} (below : low ≤ exponent) :
    ((mantissa * 10 ^ (exponent - low).toNat : Int) : ℚ) * (10 : ℚ) ^ low =
      mantissa * (10 : ℚ) ^ exponent := by
  have power : (10 : ℚ) ^ (exponent - low).toNat * (10 : ℚ) ^ low = (10 : ℚ) ^ exponent := by
    rw [← zpow_natCast, Int.toNat_of_nonneg (by omega), ← zpow_add₀ (by norm_num)]
    congr 1
    omega
  push_cast
  rw [mul_assoc, power]

/-- `lt` is the order of the values. -/
theorem lt_iff_toRat_lt (first second : Decimal) :
    first.lt second = true ↔ first.toRat < second.toRat := by
  have positive : (0 : ℚ) < (10 : ℚ) ^ min first.exponent second.exponent := by positivity
  rw [lt, decide_eq_true_iff, toRat, toRat, ← toRat_scaled first.mantissa (min_le_left _ _),
    ← toRat_scaled second.mantissa (min_le_right _ _), mul_lt_mul_iff_of_pos_right positive,
    Int.cast_lt]
  rfl

/-- The value rounds beyond the largest binary64 value, `2^1024 - 2^971`: it is at least half
a unit of the last place above it. -/
def overflows (value : Decimal) : Bool :=
  let magnitude := value.mantissa.natAbs
  if 0 ≤ value.exponent then decide (2 ^ 1024 - 2 ^ 970 ≤ magnitude * 10 ^ value.exponent.toNat)
  else decide ((2 ^ 1024 - 2 ^ 970) * 10 ^ (-value.exponent).toNat ≤ magnitude)

end Decimal

/-- The order of the values, with NaN unordered. -/
def FloatValue.lt : FloatValue → FloatValue → Bool
  | .finite first, .finite second => first.lt second
  | .finite _, .infinity negative => !negative
  | .infinity true, .finite _ => true
  | .infinity true, .infinity false => true
  | _, _ => false

/-- The value divided by `10 ^ places`. -/
def FloatValue.shift (places : Nat) : FloatValue → FloatValue
  | .finite value => .finite ⟨value.mantissa, value.exponent - places⟩
  | value => value

/-- Each value is below the next. -/
def strictlyIncreasing : List FloatValue → Bool
  | first :: second :: rest => first.lt second && strictlyIncreasing (second :: rest)
  | _ => true

/-- An optional sign: whether it is a minus, and the rest. -/
def splitSign : List Char → Bool × List Char
  | '+' :: rest => (false, rest)
  | '-' :: rest => (true, rest)
  | rest => (false, rest)

/-- A digit of the base: a decimal digit, or in base 16 also `a` to `f` in either case. -/
def isBaseDigit (hex : Bool) (c : Char) : Bool :=
  c.isDigit || (hex && 'a' ≤ c.toLower && c.toLower ≤ 'f')

/-- The value of a digit of base 16 or less. -/
def digitValue (c : Char) : Nat :=
  if c.isDigit then c.toNat - '0'.toNat else c.toLower.toNat - 'a'.toNat + 10

/-- The value of a run of digits in a base. -/
def digitsValue (base : Nat) (digits : List Char) : Nat :=
  digits.foldl (fun value digit => base * value + digitValue digit) 0

/-- The value of the exponent's digits, which stops growing once it reaches 10000. -/
def cappedValue (digits : List Char) : Nat :=
  digits.foldl (fun value digit => if value < 10000 then 10 * value + digitValue digit else value) 0

/-- The special values: `inf` or `infinity` with an optional sign, or `nan`, in any case. -/
def special (text : List Char) : Option FloatValue :=
  let (negative, body) := splitSign text
  if body.map Char.toLower = "inf".toList ∨ body.map Char.toLower = "infinity".toList then
    some (.infinity negative)
  else if text.map Char.toLower = "nan".toList then some .nan
  else none

/-- A run of digits of the base with `_` anywhere among them, as the loops of `readFloat` read
it: the digits, and the text after the run. -/
def readDigits (hex : Bool) : List Char → List Char × List Char
  | [] => ([], [])
  | c :: rest =>
      if c = '_' then readDigits hex rest
      else if isBaseDigit hex c then
        let (digits, after) := readDigits hex rest
        (c :: digits, after)
      else ([], c :: rest)

/-- The exponent of `readFloat` and the text after it: `e` (in base 16 `p`) in either case, an
optional sign, a digit, then digits and `_`. Without the marker the exponent is zero, except in
base 16, which requires one. -/
def readExponent (hex : Bool) : List Char → Option (Int × List Char)
  | [] => if hex then none else some (0, [])
  | marker :: rest =>
      if marker.toLower = (if hex then 'p' else 'e') then
        let (negative, unsigned) := splitSign rest
        match unsigned with
        | first :: _ =>
            if first.isDigit then
              let (digits, after) := readDigits false unsigned
              some (if negative then -(cappedValue digits : Int) else cappedValue digits, after)
            else none
        | [] => none
      else if hex then none
      else some (0, marker :: rest)

/-- What `underscoreOK` last saw: the start of the number, a digit or the base prefix, an
underscore, or something else. -/
inductive Seen where
  | start | digit | underscore | other
  deriving DecidableEq, Repr

/-- The scan of `underscoreOK`: an underscore must follow a digit and be followed by one. -/
def underscoreScan (hex : Bool) : Seen → List Char → Bool
  | saw, [] => saw != .underscore
  | saw, c :: rest =>
      if isBaseDigit hex c then underscoreScan hex .digit rest
      else if c = '_' then saw == .digit && underscoreScan hex .underscore rest
      else if saw = .underscore then false
      else underscoreScan hex .other rest

/-- `underscoreOK`: every `_` stands between two digits, or between the base prefix and a
digit. -/
def underscoreOK (text : List Char) : Bool :=
  match (splitSign text).2 with
  | '0' :: base :: rest =>
      if base.toLower = 'b' ∨ base.toLower = 'o' ∨ base.toLower = 'x' then
        underscoreScan (base.toLower = 'x') .digit rest
      else underscoreScan false .start ('0' :: base :: rest)
  | unsigned => underscoreScan false .start unsigned

/-- The exact value of a literal: its digits, of which `fractionLength` follow the point, times
ten to the exponent, or in base 16 two to it. -/
def literalValue (hex negative : Bool) (digits : List Char) (fractionLength : Nat)
    (exponent : Int) : Decimal :=
  let sign : Int := if negative then -1 else 1
  if hex then
    let binary := exponent - 4 * fractionLength
    if 0 ≤ binary then ⟨sign * digitsValue 16 digits * 2 ^ binary.toNat, 0⟩
    else ⟨sign * digitsValue 16 digits * 5 ^ (-binary).toNat, binary⟩
  else ⟨sign * digitsValue 10 digits, exponent - fractionLength⟩

/-- A hexadecimal literal's value is its digits times two to its exponent less four per
fraction digit: a negative power of two is a power of five over the same power of ten. -/
theorem toRat_literalValue_hex (negative : Bool) (digits : List Char) (fractionLength : Nat)
    (exponent : Int) :
    (literalValue true negative digits fractionLength exponent).toRat =
      (if negative then -1 else 1) * digitsValue 16 digits *
        (2 : ℚ) ^ (exponent - 4 * fractionLength) := by
  by_cases nonnegative : 0 ≤ exponent - 4 * fractionLength
  · simp only [literalValue, if_true, nonnegative, Decimal.toRat, zpow_zero, mul_one]
    rw [← Int.toNat_of_nonneg nonnegative, zpow_natCast, Int.toNat_of_nonneg nonnegative]
    split <;> push_cast <;> ring
  · have negativePower : (-(exponent - 4 * fractionLength)).toNat =
        (-(exponent - 4 * fractionLength) : Int) := Int.toNat_of_nonneg (by omega)
    -- ten to a negative power is five to it times two to it
    have split : (10 : ℚ) ^ (exponent - 4 * fractionLength) *
        (5 : ℚ) ^ (-(exponent - 4 * fractionLength)).toNat =
          (2 : ℚ) ^ (exponent - 4 * fractionLength) := by
      rw [← zpow_natCast, negativePower, show (10 : ℚ) = 2 * 5 by norm_num, mul_zpow, mul_assoc,
        ← zpow_add₀ (by norm_num), add_neg_cancel, zpow_zero, mul_one]
    simp only [literalValue, if_true, nonnegative, if_false, Decimal.toRat]
    rw [← split]
    split <;> push_cast <;> ring

/-- A floating-point literal's value (`ParseFloat` to 64 bits), or `none` when the text is not
one whole literal or its value overflows. -/
def parseFloat (text : List Char) : Option FloatValue :=
  match special text with
  | some value => some value
  | none =>
      let (negative, unsigned) := splitSign text
      -- `0x` makes the literal hexadecimal when a character follows it
      let (hex, body) := match unsigned with
        | '0' :: x :: next :: rest =>
            if x.toLower = 'x' then (true, next :: rest) else (false, unsigned)
        | _ => (false, unsigned)
      let (integerDigits, afterInteger) := readDigits hex body
      let (fractionDigits, afterFraction) := match afterInteger with
        | '.' :: rest => readDigits hex rest
        | rest => ([], rest)
      if integerDigits = [] ∧ fractionDigits = [] then none
      else
        match readExponent hex afterFraction with
        -- the literal must be the whole text, and its underscores well placed
        | some (exponent, []) =>
            if text.contains '_' && !underscoreOK text then none
            else
              let value := literalValue hex negative (integerDigits ++ fractionDigits)
                fractionDigits.length exponent
              if value.overflows then none else some (.finite value)
        | _ => none

example : parseFloat " 2.5e1 ".toList = none ∧ parseFloat (trimSpace " 2.5e1 ".toList) =
    some (.finite ⟨25, 0⟩) ∧ parseFloat "0x1.8p-1".toList = some (.finite ⟨75000, -5⟩) ∧
    parseFloat "1_000".toList = some (.finite ⟨1000, 0⟩) ∧ parseFloat "1__0".toList = none ∧
    parseFloat "0x10".toList = none := by
  decide +kernel

end FloatText
