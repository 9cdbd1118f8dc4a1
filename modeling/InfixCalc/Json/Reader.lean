import InfixCalc.Double.Reader
import InfixCalc.Json.Basic

/-!
# Reading JSON

Two machines read a text, one unit and one lexeme at a time.  The first groups
units into lexemes: brackets, separators, strings and words.  The second builds
the value; what is still open stands on a stack of frames, so nesting of any
depth is read alike.  Both stop at the first thing that the grammar does not
allow.
-/

namespace InfixCalc.Json

/-- A lexeme of JSON. -/
inductive Lexeme where
  | openArray
  | closeArray
  | openObject
  | closeObject
  | comma
  | colon
  | string (value : Text)
  | scalar (value : Json)

/-- Where the grouping of units stands; the units of a lexeme so far are in reverse. -/
inductive Mode where
  | between
  | word (reversed : Text)
  | quoted (reversed : Text)
  | escape (reversed : Text)
  | unicode (reversed : Text) (count value : Nat)

/-- The lexemes so far, in reverse, and where the grouping stands. -/
structure Grouping where
  lexemes : List Lexeme
  mode : Mode

/-- The four units that may stand between lexemes. -/
def isSpace (unit : CodeUnit) : Bool :=
  unit == 0x20 || unit == 0x09 || unit == 0x0A || unit == 0x0D

/-- A bracket or a separator. -/
def mark? (unit : CodeUnit) : Option Lexeme :=
  if unit == 0x5B then some .openArray
  else if unit == 0x5D then some .closeArray
  else if unit == 0x7B then some .openObject
  else if unit == 0x7D then some .closeObject
  else if unit == 0x2C then some .comma
  else if unit == 0x3A then some .colon
  else none

/-- The value of a word: one of three names, or a number. -/
def ofWord? (word : Text) : Option Json :=
  if word == text "null" then some .null
  else if word == text "true" then some (.bool true)
  else if word == text "false" then some (.bool false)
  else (Double.ofJsonText? word).map .number

/-- The unit that a single letter after a backslash stands for. -/
def ofEscape? (letter : CodeUnit) : Option CodeUnit :=
  if letter == 0x22 then some 0x22
  else if letter == 0x5C then some 0x5C
  else if letter == 0x2F then some 0x2F
  else if letter == 0x62 then some 0x08
  else if letter == 0x66 then some 0x0C
  else if letter == 0x6E then some 0x0A
  else if letter == 0x72 then some 0x0D
  else if letter == 0x74 then some 0x09
  else none

namespace Grouping

/-- No unit read yet. -/
def start : Grouping := ⟨[], .between⟩

/-- Take a unit that does not belong to a word. -/
def stepBetween
    (lexemes : List Lexeme)
    (unit : CodeUnit) :
    Grouping :=
  if isSpace unit then ⟨lexemes, .between⟩
  else if unit == 0x22 then ⟨lexemes, .quoted []⟩
  else
    match mark? unit with
    | some mark => ⟨mark :: lexemes, .between⟩
    | none => ⟨lexemes, .word [unit]⟩

/-- Take one unit. -/
def step
    (grouping : Grouping)
    (unit : CodeUnit) :
    Option Grouping :=
  match grouping.mode with
  | .between => some (stepBetween grouping.lexemes unit)
  | .word reversed =>
    if isSpace unit || unit == 0x22 || (mark? unit).isSome then
      (ofWord? reversed.reverse).map fun value =>
        stepBetween (.scalar value :: grouping.lexemes) unit
    else
      some ⟨grouping.lexemes, .word (unit :: reversed)⟩
  | .quoted reversed =>
    if unit == 0x22 then some ⟨.string reversed.reverse :: grouping.lexemes, .between⟩
    else if unit == 0x5C then some ⟨grouping.lexemes, .escape reversed⟩
    else if unit < 0x20 then none
    else some ⟨grouping.lexemes, .quoted (unit :: reversed)⟩
  | .escape reversed =>
    if unit == 0x75 then
      some ⟨grouping.lexemes, .unicode reversed 0 0⟩
    else
      (ofEscape? unit).map fun meant => ⟨grouping.lexemes, .quoted (meant :: reversed)⟩
  | .unicode reversed count value =>
    (unit.digitIn? 16).map fun digit =>
      let joined := value * 16 + digit
      if count = 3 then ⟨grouping.lexemes, .quoted (joined.toUInt16 :: reversed)⟩
      else ⟨grouping.lexemes, .unicode reversed (count + 1) joined⟩

/-- The lexemes in order, if the text may end here. -/
def finish? (grouping : Grouping) : Option (List Lexeme) :=
  match grouping.mode with
  | .between => some grouping.lexemes.reverse
  | .word reversed =>
    (ofWord? reversed.reverse).map fun value => (.scalar value :: grouping.lexemes).reverse
  | .quoted _ => none
  | .escape _ => none
  | .unicode .. => none

end Grouping

/-- The lexemes of a text. -/
def lexemes? (written : Text) : Option (List Lexeme) :=
  (written.foldlM Grouping.step .start).bind Grouping.finish?

/-- An array or an object that is still open; its parts so far are in reverse. -/
inductive Frame where
  | array (before : List Json)
  | object (before : List (Text × Json)) (name : Text)

/-- What may come next. -/
inductive Expectation where
  /-- A value, or the end of an array that has no item yet. -/
  | value (closable : Bool)
  /-- A name, or the end of an object that has no member yet. -/
  | name (before : List (Text × Json)) (closable : Bool)
  /-- The colon after a name. -/
  | colon (before : List (Text × Json)) (name : Text)
  /-- What follows a value that is complete. -/
  | after (complete : Json)

/-- The open arrays and objects, the innermost first, and what may come next. -/
structure Building where
  frames : List Frame
  expectation : Expectation

namespace Building

/-- No lexeme read yet. -/
def start : Building := ⟨[], .value false⟩

/-- Take one lexeme. -/
def step
    (building : Building)
    (lexeme : Lexeme) :
    Option Building :=
  match building.expectation, lexeme with
  | .value _, .scalar value => some ⟨building.frames, .after value⟩
  | .value _, .string value => some ⟨building.frames, .after (.string value)⟩
  | .value _, .openArray => some ⟨.array [] :: building.frames, .value true⟩
  | .value _, .openObject => some ⟨building.frames, .name [] true⟩
  | .value true, .closeArray =>
    match building.frames with
    | .array _ :: outer => some ⟨outer, .after (.array [])⟩
    | _ => none
  | .name before _, .string name => some ⟨building.frames, .colon before name⟩
  | .name _ true, .closeObject => some ⟨building.frames, .after (.object [])⟩
  | .colon before name, .colon => some ⟨.object before name :: building.frames, .value false⟩
  | .after value, .comma =>
    match building.frames with
    | .array before :: outer => some ⟨.array (value :: before) :: outer, .value false⟩
    | .object before name :: outer => some ⟨outer, .name ((name, value) :: before) false⟩
    | [] => none
  | .after value, .closeArray =>
    match building.frames with
    | .array before :: outer => some ⟨outer, .after (.array (value :: before).reverse)⟩
    | _ => none
  | .after value, .closeObject =>
    match building.frames with
    | .object before name :: outer =>
      some ⟨outer, .after (.object ((name, value) :: before).reverse)⟩
    | _ => none
  | _, _ => none

/-- The value, if it is complete. -/
def finish? (building : Building) : Option Json :=
  match building.frames, building.expectation with
  | [], .after value => some value
  | _, _ => none

end Building

/-- The value of a text that is JSON from end to end. -/
def parse? (written : Text) : Option Json :=
  (lexemes? written).bind fun lexemes =>
    (lexemes.foldlM Building.step .start).bind Building.finish?

/--
What is said about each text that is no JSON.  The words are those of the system that reads
it, and not the program's.
-/
abbrev Complaint := Text → Text

/-- The value of a text, or what is said about the text if it is no JSON. -/
def parse
    (complaint : Complaint)
    (written : Text) :
    Except Text Json :=
  match parse? written with
  | some value => .ok value
  | none => .error (complaint written)

end InfixCalc.Json
