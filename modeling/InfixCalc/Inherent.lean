import InfixCalc.Text

/-!
# Names that every record answers to

A table that is kept as a record answers not only to the names that were put into
it.  Under `__proto__` it has what all records have in common, and under the names
listed here the functions that come with it.
-/

namespace InfixCalc.Inherent

/-- The name of what all records have in common. -/
def commonName : Text := text "__proto__"

/-- The name of the function that makes records. -/
def makerName : Text := text "constructor"

/-- The names of the other functions that every record has. -/
def functionNames : List Text :=
  [text "toString", text "toLocaleString", text "valueOf", text "hasOwnProperty",
    text "isPrototypeOf", text "propertyIsEnumerable", text "__defineGetter__",
    text "__defineSetter__", text "__lookupGetter__", text "__lookupSetter__"]

/-- The text of a function that cannot be shown. -/
def functionText (name : Text) : Text :=
  text "function " ++ name ++ text "() \x7b [native code] \x7d"

/-- The text of what a record has under a name from the start, if that is a function. -/
def textOf? (name : Text) : Option Text :=
  if name == makerName then some (functionText (text "Object"))
  else if functionNames.contains name then some (functionText name)
  else none

/-- The text of whatever a record has under a name from the start. -/
def shown? (name : Text) : Option Text :=
  if name == commonName then some (text "[object Object]") else textOf? name

end InfixCalc.Inherent
