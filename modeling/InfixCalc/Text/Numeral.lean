import InfixCalc.Text

/-!
# Numerals

Natural numbers as runs of digits.  `numeral` writes the shortest decimal run
of a number and `numeralValue` reads any run, leading zeros included; reading
what was written gives the number back.
-/

namespace InfixCalc

/-- The value of a digit in bases up to sixteen, letters in either case. -/
def CodeUnit.digitIn?
    (base : Nat)
    (unit : CodeUnit) :
    Option Nat :=
  let value? : Option Nat :=
    if unit.isDigit then some unit.digit
    else if 0x41 ≤ unit && unit ≤ 0x46 then some (unit.toNat - 0x41 + 10)
    else if 0x61 ≤ unit && unit ≤ 0x66 then some (unit.toNat - 0x61 + 10)
    else none
  value?.filter (· < base)

namespace Text

/-- The digits of a number, least significant first, and none for zero. -/
def reversedDigits (number : Nat) : List Nat :=
  if number = 0 then [] else number % 10 :: reversedDigits (number / 10)
termination_by number
decreasing_by omega

/-- How many decimal digits a number has; zero has none. -/
def digitCount (number : Nat) : Nat :=
  (reversedDigits number).length

/-- The code unit of a decimal digit. -/
def digitUnit (digit : Nat) : CodeUnit :=
  (0x30 + digit).toUInt16

/-- The shortest decimal numeral of a number. -/
def numeral (number : Nat) : Text :=
  if number = 0 then [0x30] else ((reversedDigits number).map digitUnit).reverse

/-- The number that a run of digits stands for. -/
def numeralValue (digits : Text) : Nat :=
  digits.foldl (fun value unit => value * 10 + unit.digit) 0

/-- The number that a non-empty run of digits in a base stands for. -/
def readDigits?
    (base : Nat)
    (digits : Text) :
    Option Nat :=
  if digits.isEmpty then none
  else
    digits.foldlM (fun value unit => (unit.digitIn? base).map (value * base + ·)) 0

theorem digit_digitUnit
    {digit : Nat}
    (small : digit < 10) :
    (digitUnit digit).digit = digit := by
  simp only [digitUnit, CodeUnit.digit, Nat.toUInt16, UInt16.toNat_ofNat']
  omega

theorem lt_of_mem_reversedDigits
    {number digit : Nat}
    (member : digit ∈ reversedDigits number) :
    digit < 10 := by
  fun_induction reversedDigits number with
  | case1 => simp at member
  | case2 number _ inner =>
    rcases List.mem_cons.mp member with equal | later
    · omega
    · exact inner later

theorem foldr_reversedDigits (number : Nat) :
    (reversedDigits number).foldr (fun digit value => value * 10 + digit) 0 = number := by
  fun_induction reversedDigits number with
  | case1 => rfl
  | case2 number _ inner =>
    rw [List.foldr_cons, inner]
    omega

theorem foldr_digitUnit
    {digits : List Nat}
    (small : ∀ digit ∈ digits, digit < 10) :
    (digits.map digitUnit).foldr (fun unit value => value * 10 + unit.digit) 0
      = digits.foldr (fun digit value => value * 10 + digit) 0 := by
  induction digits with
  | nil => rfl
  | cons digit rest inner =>
    rw [List.map_cons, List.foldr_cons, List.foldr_cons,
      inner fun _ member => small _ (List.mem_cons_of_mem _ member),
      digit_digitUnit (small _ List.mem_cons_self)]

/-- Reading what was written gives the number back. -/
theorem numeralValue_numeral (number : Nat) :
    numeralValue (numeral number) = number := by
  rw [numeral]
  split
  · simp_all [numeralValue, CodeUnit.digit]
  · rw [numeralValue, List.foldl_reverse,
      foldr_digitUnit fun _ => lt_of_mem_reversedDigits, foldr_reversedDigits]

end Text

end InfixCalc
