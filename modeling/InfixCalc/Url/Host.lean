import InfixCalc.Url.Domain
import InfixCalc.Url.Path

/-!
# Hosts and ports

Only the form of a host matters here: a name free of certain units, a number
address that fits its bits, or an address of eight groups in brackets.
-/

namespace InfixCalc.Url

/-- The number of a part of a dotted address: octal after a zero, hexadecimal after `0x`. -/
def partNumber? (part : Text) : Option Nat :=
  match part with
  | [] => none
  | first :: rest =>
    if first != 0x30 || rest.isEmpty then
      Text.readDigits? 10 part
    else if (rest.head?.map lowerCase) == some 0x78 then
      if rest.length == 1 then some 0 else Text.readDigits? 16 (rest.drop 1)
    else
      Text.readDigits? 8 rest

/-- The parts of a dotted address, an empty last one left out. -/
def dottedParts (host : Text) : List Text :=
  let parts := pieces (· == 0x2E) host
  if parts.length > 1 && parts.getLast? == some [] then parts.dropLast else parts

/-- Whether the last part of a host is written as a number. -/
def endsInNumber (host : Text) : Bool :=
  match (dottedParts host).getLast? with
  | none => false
  | some last =>
    (!last.isEmpty && last.all CodeUnit.isDigit) || (partNumber? last).isSome

/-- Whether a dotted address has at most four parts that fit its 32 bits. -/
def isDottedAddress (host : Text) : Bool :=
  let parts := dottedParts host
  match parts.mapM partNumber? with
  | none => false
  | some numbers =>
    numbers.length ≤ 4
      && numbers.dropLast.all (· ≤ 255)
      && decide (numbers.getLast?.getD 0 < Nat.pow 256 (5 - numbers.length))

/-- A group of one to four hexadecimal digits. -/
def isGroup (group : Text) : Bool :=
  group.length ≤ 4 && (Text.readDigits? 16 group).isSome

/-- One of the four decimal numbers that may end an address of groups. -/
def isOctet (part : Text) : Bool :=
  part.all CodeUnit.isDigit
    && (part.length == 1 || part.head? != some 0x30)
    && match Text.readDigits? 10 part with
      | some number => number ≤ 255
      | none => false

/-- How many groups the pieces between colons make; the last piece may be a dotted address. -/
def groupCount? (groups : List Text) : Option Nat :=
  match groups with
  | [] => some 0
  | [last] =>
    if isGroup last then some 1
    else
      let parts := pieces (· == 0x2E) last
      if parts.length == 4 && parts.all isOctet then some 2 else none
  | group :: rest =>
    if isGroup group then (groupCount? rest).map (· + 1) else none

/-- The texts before and after the first double colon. -/
def splitDoubleColon? : Text → Option (Text × Text)
  | first :: second :: rest =>
    if first == 0x3A && second == 0x3A then some ([], rest)
    else (splitDoubleColon? (second :: rest)).map fun (before, after) => (first :: before, after)
  | _ => none

/-- The groups of a piece of an address; an empty piece has none. -/
def groupsOf (piece : Text) : List Text :=
  if piece.isEmpty then [] else pieces (· == 0x3A) piece

/-- Whether a text is an address of eight groups, some of which a double colon may leave out. -/
def isGroupedAddress (address : Text) : Bool :=
  match splitDoubleColon? address with
  | none => groupCount? (groupsOf address) == some 8
  | some (before, after) =>
    (groupsOf before).all isGroup
      && match groupCount? (groupsOf after) with
        | some count => (groupsOf before).length + count ≤ 7
        | none => false

/-- The bytes of a text whose percent escapes are resolved. -/
def unescape : List UInt8 → List UInt8
  | [] => []
  | [first] => [first]
  | [first, second] => [first, second]
  | first :: second :: third :: rest =>
    match CodeUnit.digitIn? 16 second.toUInt16, CodeUnit.digitIn? 16 third.toUInt16 with
    | some high, some low =>
      if first == 0x25 then (high * 16 + low).toUInt8 :: unescape rest
      else first :: unescape (second :: third :: rest)
    | _, _ => first :: unescape (second :: third :: rest)

/-- Units that no host may hold. -/
def isForbidden (unit : CodeUnit) : Bool :=
  [0x00, 0x09, 0x0A, 0x0D, 0x20, 0x23, 0x2F, 0x3A, 0x3C, 0x3E, 0x3F, 0x40, 0x5B, 0x5C, 0x5D,
    0x5E, 0x7C].contains unit

/-- Units that no host of the web may hold. -/
def isForbiddenInDomain (unit : CodeUnit) : Bool :=
  isForbidden unit || unit ≤ 0x1F || unit == 0x25 || unit == 0x7F

/-- Whether a host without a port is well-formed. -/
def isHost
    (kind : Kind)
    (host : Text) :
    Bool :=
  if host.head? == some 0x5B then
    host.getLast? == some 0x5D && isGroupedAddress ((host.drop 1).dropLast)
  else if kind == .other then
    !host.any isForbidden
  else
    match Domain.fold? (Text.Utf8.decode (unescape (Text.Utf8.encode host))).codePoints with
    | none => false
    | some points =>
      let domain := points.flatMap Text.ofCodePoint
      !domain.isEmpty && !domain.any isForbiddenInDomain
        && (!endsInNumber domain || isDottedAddress domain)

/-- The host and, after the first colon outside brackets, the port. -/
def splitPort
    (inBrackets : Bool) :
    Text → Text × Option Text
  | [] => ([], none)
  | unit :: rest =>
    if unit == 0x3A && !inBrackets then
      ([], some rest)
    else
      let inBrackets :=
        if unit == 0x5B then true else if unit == 0x5D then false else inBrackets
      let (host, port) := splitPort inBrackets rest
      (unit :: host, port)

/-- Whether a port is a number of 16 bits; it may be left out after the colon. -/
def isPort (port : Text) : Bool :=
  port.all CodeUnit.isDigit && Text.numeralValue port ≤ 65535

/--
Whether the part of an address between the slashes is well-formed: what stands
before the last `@` does not matter, but a host has to follow it, as on the web
anyway.
-/
def isAuthority
    (kind : Kind)
    (authority : Text) :
    Bool :=
  let hasUser := authority.any (· == 0x40)
  let host := ((pieces (· == 0x40) authority).getLast?).getD []
  let (name, port) := splitPort false host
  if name.isEmpty then
    kind == .other && !hasUser && port.isNone
  else
    isHost kind name && isPort (port.getD [])

end InfixCalc.Url
