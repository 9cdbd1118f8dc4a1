import InfixCalc.Text.Utf8
import InfixCalc.Url.Host
import InfixCalc.Url.Path

/-!
# Addresses of requests

The address of a request is resolved as a link on `http://localhost/` would be,
and what counts of it is its path.  An address may bring a scheme or a host of
its own; one whose host or port is malformed has no path at all.
-/

namespace InfixCalc.Url

/-- The text without blanks and controls at its ends, and without line breaks and tabulators. -/
def clean (address : Text) : Text :=
  let isEdge (unit : CodeUnit) : Bool := unit ≤ 0x20
  (((address.dropWhile isEdge).reverse.dropWhile isEdge).reverse).filter fun unit =>
    unit != 0x09 && unit != 0x0A && unit != 0x0D

/-- A Latin letter. -/
def isLetter (unit : CodeUnit) : Bool :=
  (0x41 ≤ unit && unit ≤ 0x5A) || (0x61 ≤ unit && unit ≤ 0x7A)

/-- A unit that a scheme may hold after its first letter. -/
def isSchemeUnit (unit : CodeUnit) : Bool :=
  isLetter unit || unit.isDigit || unit == 0x2B || unit == 0x2D || unit == 0x2E

/-- The scheme in lower case and what follows its colon, if the address begins with one. -/
def splitScheme? (address : Text) : Option (Text × Text) :=
  let scheme := address.takeWhile isSchemeUnit
  match scheme.head?, address.dropWhile isSchemeUnit with
  | some first, colon :: rest =>
    if isLetter first && colon == 0x3A then some (scheme.map lowerCase, rest) else none
  | _, _ => none

/-- The schemes that have a host and the default port of each is known, `file` apart. -/
def hostSchemes : List Text :=
  [text "http", text "https", text "ws", text "wss", text "ftp"]

/-- The address up to its query or fragment. -/
def beforeQuery (address : Text) : Text :=
  address.takeWhile fun unit => unit != 0x3F && unit != 0x23

/-- The path after a host and port, if these are well-formed. -/
def afterAuthority?
    (kind : Kind)
    (address : Text) :
    Option Text :=
  let ends (unit : CodeUnit) : Bool := isSlash kind unit || unit == 0x3F || unit == 0x23
  let authority := address.takeWhile (!ends ·)
  let rest := beforeQuery (address.dropWhile (!ends ·))
  if isAuthority kind authority then some (absolutePath kind rest) else none

/-- The path of an address whose scheme, if any, is that of the base. -/
def relative? (address : Text) : Option Text :=
  match address with
  | first :: second :: rest =>
    if isSlash .web first && isSlash .web second then
      afterAuthority? .web (rest.dropWhile (isSlash .web))
    else
      some (absolutePath .web (beforeQuery address))
  | _ => some (absolutePath .web (beforeQuery address))

/-- The path of an address with the scheme `file`, whose host matters only for being well-formed. -/
def file? (address : Text) : Option Text :=
  match address with
  | first :: second :: rest =>
    if isSlash .file first && isSlash .file second then
      let ends (unit : CodeUnit) : Bool := isSlash .file unit || unit == 0x3F || unit == 0x23
      let host := rest.takeWhile (!ends ·)
      if isDriveLetter host then
        some (absolutePath .file (beforeQuery rest))
      else if host.isEmpty || isHost .file host then
        some (absolutePath .file (beforeQuery (rest.dropWhile (!ends ·))))
      else none
    else
      some (absolutePath .file (beforeQuery address))
  | _ => some (absolutePath .file (beforeQuery address))

/-- The path of an address with a scheme that knows no host by itself. -/
def other? (address : Text) : Option Text :=
  match address with
  | first :: second :: rest =>
    if first == 0x2F && second == 0x2F then
      afterAuthority? .other rest
    else if first == 0x2F then
      some (absolutePath .other (beforeQuery address))
    else
      some (opaquePath (beforeQuery address))
  | _ =>
    if address.head? == some 0x2F then some (absolutePath .other (beforeQuery address))
    else some (opaquePath (beforeQuery address))

/-- The path of an address, none if the address is malformed. -/
def path? (address : Text) : Option Text :=
  let address := clean address
  match splitScheme? address with
  | none => relative? address
  | some (scheme, rest) =>
    if scheme == text "http" then
      relative? rest
    else if hostSchemes.contains scheme then
      afterAuthority? .web (rest.dropWhile (isSlash .web))
    else if scheme == text "file" then
      file? rest
    else
      other? rest

end InfixCalc.Url
