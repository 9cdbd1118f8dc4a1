/-!
# Punycode

A label that is not ASCII is written as its ASCII characters, a hyphen, and the
other ones as a series of steps.  A step is a number in base 36, least digit
first, and says how far to go on from the last character that was put in: through
all places where the next character could go, and through all characters.

Numbers of more than 31 bits are refused.
-/

namespace InfixCalc.Url.Punycode

/-- The greatest number that is worked with. -/
def greatest : Nat := 0x7FFFFFFF

/-- The value of a digit: letters count up from zero, the digits from 26. -/
def digit? (point : Nat) : Option Nat :=
  if 0x61 ≤ point ∧ point ≤ 0x7A then some (point - 0x61)
  else if 0x30 ≤ point ∧ point ≤ 0x39 then some (point - 0x30 + 26)
  else none

/-- The least digit at a place that does not end a number. -/
def threshold (place bias : Nat) : Nat :=
  if place ≤ bias then 1
  else if bias + 26 ≤ place then 26
  else place - bias

/-- Read one number off the front, and what follows it. -/
def step?
    (bias place weight total : Nat) :
    List Nat → Option (Nat × List Nat)
  | [] => none
  | point :: rest =>
    match digit? point with
    | none => none
    | some digit =>
      if (greatest - total) / weight < digit then
        none
      else if digit < threshold place bias then
        some (total + digit * weight, rest)
      else if greatest / (36 - threshold place bias) < weight then
        none
      else
        step? bias (place + 36) (weight * (36 - threshold place bias)) (total + digit * weight) rest

theorem length_lt_of_step?
    {bias place weight total : Nat}
    {points : List Nat}
    {result : Nat × List Nat}
    (read : step? bias place weight total points = some result) :
    result.2.length < points.length := by
  induction points generalizing place weight total with
  | nil => simp [step?] at read
  | cons point rest inner =>
    rw [step?] at read
    split at read
    · simp at read
    · split at read
      · simp at read
      · split at read
        · rw [← Option.some.inj read]
          exact Nat.lt_succ_self _
        · split at read
          · simp at read
          · exact Nat.lt_succ_of_lt (inner read)

/-- Shrink a step until it is small, counting places. -/
def shrink (delta places : Nat) : Nat × Nat :=
  if 455 < delta then shrink (delta / 35) (places + 36) else (delta, places)
termination_by delta
decreasing_by omega

/-- The bias after a step, which keeps the numbers that are to come short. -/
def adapt
    (delta count : Nat)
    (first : Bool) :
    Nat :=
  let halved := if first then delta / 700 else delta / 2
  let (small, places) := shrink (halved + halved / count) 0
  places + 36 * small / (small + 38)

/-- Put in the characters of the steps that are left. -/
def insertAll?
    (character index bias : Nat)
    (output : List Nat)
    (points : List Nat) :
    Option (List Nat) :=
  match points with
  | [] => some output
  | point :: rest =>
    match _read : step? bias 36 1 index (point :: rest) with
    | none => none
    | some (total, others) =>
      let count := output.length + 1
      let next := character + total / count
      if greatest < next ∨ next < 0x80 then
        none
      else
        insertAll? next (total % count + 1) (adapt (total - index) count (index == 0))
          (output.insertIdx (total % count) next) others
termination_by points.length
decreasing_by exact length_lt_of_step? _read

/-- The characters before the last hyphen, and what follows it. -/
def splitLastHyphen (points : List Nat) : List Nat × List Nat :=
  let reversedTail := points.reverse.takeWhile (· != 0x2D)
  match points.reverse.dropWhile (· != 0x2D) with
  | [] => ([], points)
  | _ :: reversedHead => (reversedHead.reverse, reversedTail.reverse)

/-- The characters of a label that was written with ASCII characters. -/
def decode? (points : List Nat) : Option (List Nat) :=
  let (characters, steps) := splitLastHyphen points
  insertAll? 0x80 0 72 characters steps

end InfixCalc.Url.Punycode
