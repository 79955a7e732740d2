import ChatProbe.Number.Digits
import ChatProbe.Text.Case
import ChatProbe.Text.Percent
import ChatProbe.Url.Basic
import ChatProbe.Url.DomainChar
import ChatProbe.Url.Punycode
/-!
# Hosts

A host is an IPv4 address, an IPv6 address in brackets, or a name. A name in ASCII is put in lower
case; any other name is written label by label in Punycode (`domain?`). `shownHost` goes the other
way, for a name that starts with such a label.
-/

namespace ChatProbe.Url

/-- The parts between separators. -/
def splitChars (p : Char → Bool) : List Char → List (List Char)
  | [] => [[]]
  | c :: cs =>
    if p c then [] :: splitChars p cs
    else match splitChars p cs with
    | part :: parts => (c :: part) :: parts
    | [] => [[c]]

/-- Whether characters are digits cut into pieces by single characters of any kind, of which
`cuts` are still to come; `started` says whether the present piece has a digit. -/
def isCutDigits : Nat → Bool → List Char → Bool
  | cuts, started, [] => cuts == 0 && started
  | 0, _, c :: cs => c.isDigit && isCutDigits 0 true cs
  | cuts + 1, started, c :: cs =>
    (c.isDigit && isCutDigits (cuts + 1) true cs) || (started && isCutDigits cuts false cs)

/-- One number of an IPv4 address: up to three digits, no leading zero, at most 255. -/
def isOctet (ds : List Char) : Bool :=
  !ds.isEmpty && ds.length ≤ 3 && ds.all Char.isDigit && Digits.value ds ≤ 255
    && (ds.length == 1 || ds.head? != some '0')

/-- An IPv4 address. -/
def isIPv4 (cs : List Char) : Bool :=
  let parts := splitChars (· == '.') cs
  parts.length == 4 && parts.all isOctet

/-- Whether a character is a hexadecimal digit. -/
def isHexDigit (c : Char) : Bool := (Digits.hex? c).isSome

/-- One group of an IPv6 address. -/
def isGroup (cs : List Char) : Bool := !cs.isEmpty && cs.length ≤ 4 && cs.all isHexDigit

/-- The groups of an IPv6 address, where an IPv4 address at the end counts as two. -/
def groupsOf? (cs : List Char) : Option (List (List Char)) :=
  let parts := splitChars (· == ':') cs
  if parts.length < 3 then none
  else
    let last := parts.getLastD []
    if last.contains '.' then
      if isIPv4 last then some (parts.dropLast ++ [['0'], ['0']]) else none
    else some parts

/-- The positions of empty groups that are neither first nor last. -/
def innerGaps (parts : List (List Char)) : List Nat :=
  (List.range parts.length).filter fun i =>
    i != 0 && i + 1 != parts.length && (parts.getD i []).isEmpty

/-- Whether groups make an address: eight of them, or fewer around a single gap. -/
def isAddress (parts : List (List Char)) : Bool :=
  if 9 < parts.length then false
  else match innerGaps parts with
  | [] => parts.length == 8 && parts.all isGroup
  | [gap] =>
    let high := parts.take gap
    let low := parts.drop (gap + 1)
    -- Next to a gap at the very front or the very end stands one more empty group.
    let headGroups := if high == [[]] then [] else high
    let tailGroups := if low == [[]] then [] else low
    headGroups.all isGroup && tailGroups.all isGroup
      && headGroups.length + tailGroups.length ≤ 7
  | _ => false

/-- An IPv6 address, possibly with a zone behind a percent sign. -/
def isIPv6 (cs : List Char) : Bool :=
  let (address, zone) := cs.span (· != '%')
  -- A zone has a name without another percent sign.
  let zoneOk := match zone with
    | [] => true
    | _ :: name => !name.isEmpty && !name.contains '%'
  zoneOk && !address.contains '/' && ((groupsOf? address).any isAddress)

/-- The characters that part the labels of a domain name. -/
def isDot (c : Char) : Bool := c == '.' || c == '\u3002' || c == '\uff0e' || c == '\uff61'

/-- How a label in Punycode begins. -/
def encodedMark : List Char := ['x', 'n', '-', '-']

/-- Whether a label is well formed: allowed characters, and hyphens neither at an end nor at the
third and fourth place together. -/
def isLabel (cs : List Char) : Bool :=
  !cs.isEmpty && cs.all isDomainChar && cs.head? != some '-' && cs.getLast? != some '-'
    && !((cs.drop 2).take 2 == ['-', '-'])

/-- A label of a domain name as it is looked up. -/
def label? (cs : List Char) : Option (List Char) :=
  if cs.all fun c => c.toNat < 0x80 then
    -- A label that is encoded already has to decode to a good one.
    if encodedMark.isPrefixOf cs then
      match Punycode.decode? (cs.drop 4) with
      | some text => if isLabel text && cs.length ≤ 63 then some cs else none
      | none => none
    else if isLabel cs && cs.length ≤ 63 then some cs else none
  else
    let encoded := encodedMark ++ Punycode.encode cs
    if isLabel cs && encoded.length ≤ 63 then some encoded else none

/-- A domain name as it is looked up; an empty label is allowed at the end only. -/
def domain? (cs : List Char) : Option (List Char) := do
  let labels := splitChars isDot cs
  -- A point at the end makes the name absolute and counts towards its length.
  let trailing := labels.getLast? == some []
  let labels := if trailing then labels.dropLast else labels
  let encoded ← labels.mapM label?
  let whole := List.intercalate ['.'] (if trailing then encoded ++ [[]] else encoded)
  if encoded.isEmpty || (if trailing then 254 else 253) < whole.length then none else some whole

/-- Characters that stand for themselves in every part of an address. -/
def isUnreserved (c : Char) : Bool := c.isAlphanum || c == '-' || c == '.' || c == '_' || c == '~'

/-- Characters that stand for themselves in a host name. -/
def isHostChar (c : Char) : Bool := isUnreserved c || "!$&'()*+,;=\"`\x7b\x7d%|\\".toList.contains c

/-- The host that characters name, as it is looked up. -/
def hostOf (cs : List Char) : Except Problem String :=
  if cs.isEmpty then .ok ""
  -- What looks like an IPv4 address has to be one.
  else if isCutDigits 3 false cs then
    if isIPv4 cs then .ok (String.ofList cs) else .error (.ipv4 (String.ofList cs))
  else if cs.head? == some '[' && 2 ≤ cs.length && cs.getLast? == some ']' then
    let inner := (cs.drop 1).dropLast
    if isIPv6 inner then .ok (String.ofList inner) else .error (.ipv6 (String.ofList cs))
  else if cs.all fun c => c.toNat < 0x80 then
    .ok (String.ofList (Text.Percent.encodeList isHostChar (cs.map Char.toLower)))
  else match domain? (Text.lower (String.ofList cs)).toList with
    | some name => .ok (String.ofList name)
    | none => .error (.host (String.ofList cs))

/-- The text of a label, Punycode resolved. -/
def shownLabel (cs : List Char) : List Char :=
  if encodedMark.isPrefixOf cs then (Punycode.decode? (cs.drop 4)).getD cs else cs

/-- A host for the eye: a name that starts with a label in Punycode is shown in its own script. -/
def shownHost (host : String) : String :=
  if host.startsWith "xn--" then
    String.ofList (List.intercalate ['.'] ((splitChars (· == '.') host.toList).map shownLabel))
  else host

end ChatProbe.Url
