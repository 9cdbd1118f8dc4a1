import InfixCalc.Decimal.BinaryPower
import InfixCalc.Double.Reader

/-!
# Reading decimals

A decimal is read as it stands, whatever its length.  One sign may stand in front of
it, the point may be its first or last unit, and a power of ten may follow.
Integers and fractions in base 16, 8 and 2 carry a prefix, and a power of two may
follow them.  A low line may stand between two digits.  Only a large power of two
makes reading inexact, and so it takes a context.
-/

namespace InfixCalc

/-- An argument that is not a decimal, or not a number of digits. -/
inductive ArgumentError where
  | numeral (shown : Text)
  | precision (shown : Text)
  | rounding (shown : Text)
  deriving DecidableEq, Repr

/-- The message of an argument error. -/
def ArgumentError.message : ArgumentError → Text
  | numeral shown => text "[DecimalError] Invalid argument: " ++ shown
  | precision shown => text "[DecimalError] Invalid argument: precision: " ++ shown
  | rounding shown => text "[DecimalError] Invalid argument: rounding: " ++ shown

namespace Decimal

/-- The low lines that stand between two digits taken out. -/
def dropLowLines (text : Text) : Text :=
  match text with
  | before :: line :: after :: rest =>
    if before.isDigit && line == 0x5F && after.isDigit then
      before :: dropLowLines (after :: rest)
    else
      before :: dropLowLines (line :: after :: rest)
  | short => short
termination_by text.length

/-- The decimal of an unsigned numeral with digits around an optional point. -/
def ofUnsigned?
    (negative : Bool)
    (text : Text) :
    Option Decimal :=
  match Scientific.ofText? text with
  | some parts =>
    if parts.sign == none && parts.hasDigits then
      some (finite negative parts.coefficient parts.scale)
    else none
  | none => none

/--
The decimal of digits in a base that is a power of two, with a point or without:
each binary place after the point is one decimal place of a power of five.
-/
def ofRadixDigits?
    (negative : Bool)
    (base : Nat)
    (digits : Text) :
    Option Decimal :=
  let whole := digits.takeWhile (· != 0x2E)
  let fraction := (digits.dropWhile (· != 0x2E)).drop 1
  (Text.readDigits? base (whole ++ fraction)).map fun value =>
    let places := base.log2 * fraction.length
    finite negative (value * Nat.pow 5 places) (-places)

/-- The mark in front of a power of two. -/
def isPowerMark (unit : CodeUnit) : Bool :=
  unit == 0x70 || unit == 0x50

/-- The decimal of a numeral with a radix prefix, a power of two after it or not. -/
def ofRadixText?
    (context : Context)
    (negative : Bool)
    (text : Text) :
    Option Decimal :=
  match text with
  | zero :: letter :: rest =>
    if zero == 0x30 then
      let digits := rest.takeWhile (!isPowerMark ·)
      let value? := (Double.radix? letter).bind fun base => ofRadixDigits? negative base digits
      match rest.dropWhile (!isPowerMark ·) with
      | [] => value?
      | _ :: power =>
        match value?, Scientific.readExponent? power with
        | some value, some power => some (timesPowerOfTwo context value power)
        | _, _ => none
    else none
  | _ => none

/-- A spelled-out value that is not finite. -/
def ofWord?
    (negative : Bool)
    (word : Text) :
    Option Decimal :=
  if word == text "Infinity" then some (infinite negative)
  else if word == text "NaN" then some nan
  else none

/-- The decimal of a text, read exactly but for large powers of two. -/
def ofText?
    (context : Context)
    (written : Text) :
    Except ArgumentError Decimal :=
  let (sign, body) := Scientific.splitSign written
  let negative := sign == some true
  match ofUnsigned? negative body with
  | some value => .ok value.bounded
  | none =>
    let joined := dropLowLines body
    match ofUnsigned? negative joined, ofWord? negative joined,
        ofRadixText? context negative joined with
    | some value, _, _ => .ok value.bounded
    | none, some value, _ => .ok value
    | none, none, some value => .ok value
    | none, none, none => .error (.numeral joined)

end Decimal

end InfixCalc
