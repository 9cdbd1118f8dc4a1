import InfixCalc.Decimal.Basic
import InfixCalc.Text.Numeral

/-!
# Rounding to significant digits

A finite decimal with more digits than the precision allows loses the last of
them.  What is dropped is compared with half a unit of the last digit kept, and
the mode says whether the kept digits go up by one.
-/

namespace InfixCalc

/-- The direction in which a result that has too many digits is rounded. -/
inductive RoundingMode where
  | up
  | down
  | ceil
  | floor
  | halfUp
  | halfDown
  | halfEven
  | halfCeil
  | halfFloor
  deriving DecidableEq, Repr, Inhabited

namespace RoundingMode

/-- All modes, in the order of their numbers. -/
def all : List RoundingMode :=
  [up, down, ceil, floor, halfUp, halfDown, halfEven, halfCeil, halfFloor]

/-- The name of a mode in options and flags. -/
def name : RoundingMode → Text
  | up => text "up"
  | down => text "down"
  | ceil => text "ceil"
  | floor => text "floor"
  | halfUp => text "half-up"
  | halfDown => text "half-down"
  | halfEven => text "half-even"
  | halfCeil => text "half-ceil"
  | halfFloor => text "half-floor"

/-- The mode of a name. -/
def ofName? (name : Text) : Option RoundingMode :=
  all.find? fun mode => mode.name == name

/-- The number of a mode: its place in `all`. -/
def number (mode : RoundingMode) : Nat :=
  all.idxOf mode

/-- The mode where none is asked for. -/
def standard : RoundingMode := halfEven

end RoundingMode

/-- The dropped digits, measured against half a unit of the last digit kept. -/
inductive Dropped where
  | nothing
  | belowHalf
  | half
  | aboveHalf
  deriving DecidableEq, Repr

/-- Compare a remainder with half of the unit that it is a remainder of. -/
def Dropped.ofRemainder (remainder unit : Nat) : Dropped :=
  if remainder = 0 then nothing
  else if 2 * remainder < unit then belowHalf
  else if 2 * remainder = unit then half
  else aboveHalf

/--
Whether the kept digits of a magnitude go up by one.  Nothing dropped never
raises; the directed modes look at the sign alone, the other five at the nearer
neighbour and, from the middle, at what their name says.
-/
def RoundingMode.raises
    (mode : RoundingMode)
    (negative : Bool)
    (kept : Nat)
    (dropped : Dropped) :
    Bool :=
  match dropped with
  | .nothing => false
  | .belowHalf =>
    match mode with
    | up => true
    | ceil => !negative
    | floor => negative
    | down | halfUp | halfDown | halfEven | halfCeil | halfFloor => false
  | .half =>
    match mode with
    | up | halfUp => true
    | down | halfDown => false
    | ceil | halfCeil => !negative
    | floor | halfFloor => negative
    | halfEven => kept % 2 == 1
  | .aboveHalf =>
    match mode with
    | down => false
    | ceil => !negative
    | floor => negative
    | up | halfUp | halfDown | halfEven | halfCeil | halfFloor => true

/-- How results are rounded: to so many significant digits, in one mode. -/
structure Context where
  precision : Nat
  mode : RoundingMode
  precision_pos : 0 < precision
  precision_le : precision ≤ 1000000000

namespace Context

/-- Significant digits where no number is asked for. -/
def standardPrecision : Nat := 20

/-- Twenty digits, ties to even. -/
def standard : Context :=
  ⟨standardPrecision, .standard, by decide, by decide⟩

end Context

namespace Decimal

/-- The coefficient without its last `excess` digits, raised by one if the mode says so. -/
def roundedCoefficient
    (mode : RoundingMode)
    (negative : Bool)
    (coefficient excess : Nat) :
    Nat :=
  let unit := Nat.pow 10 excess
  let kept := coefficient / unit
  if mode.raises negative kept (Dropped.ofRemainder (coefficient % unit) unit) then
    kept + 1
  else
    kept

/-- The decimal itself if it has no more digits than the precision, else the rounded one. -/
def round
    (context : Context)
    (value : Decimal) :
    Decimal :=
  match value with
  | finite negative coefficient exponent =>
    let excess := Text.digitCount coefficient - context.precision
    finite negative
      (roundedCoefficient context.mode negative coefficient excess)
      (exponent + excess)
  | infinite negative => infinite negative
  | nan => nan

/-- The greatest distance of a first digit from the point, in either direction. -/
def greatestReach : Nat := 9000000000000000

/--
The decimal within the range of exponents: a first digit too far to the left of
the point makes it infinite, one too far to the right makes it zero.
-/
def bounded (value : Decimal) : Decimal :=
  match value with
  | finite negative coefficient exponent =>
    let reach := exponent + Text.digitCount coefficient - 1
    if coefficient = 0 then finite negative coefficient exponent
    else if reach > greatestReach then infinite negative
    else if reach < -greatestReach then zero negative
    else finite negative coefficient exponent
  | infinite negative => infinite negative
  | nan => nan

end Decimal

end InfixCalc
