import ChatProbe.Url.Host
/-!
# Reading addresses

An address is cut into raw parts (`Parts.ofChars`), which always succeeds, and the parts are then
checked and put in normal form (`Url.ofParts`). `Url.withRawPath` puts another path and query into
an address, and `Url.asBase` ends a base address with a slash.
-/

namespace ChatProbe
namespace Url

/-- The raw parts of an address. -/
structure Parts where
  scheme : List Char
  authority : List Char
  path : List Char
  query : Option (List Char)
  fragment : Option (List Char)
deriving Repr

/-- Characters of a scheme behind its first letter. -/
def isSchemeChar (c : Char) : Bool := c.isAlphanum || c == '+' || c == '.' || c == '-'

/-- The scheme in front of a colon, and what follows; the scheme may be empty. -/
def splitScheme (cs : List Char) : List Char × List Char :=
  match cs with
  | ':' :: rest => ([], rest)
  | c :: _ =>
    if c.isAlpha then
      match cs.span isSchemeChar with
      | (scheme, ':' :: rest) => (scheme, rest)
      | _ => ([], cs)
    else ([], cs)
  | [] => ([], [])

/-- The authority behind two slashes, and what follows. -/
def splitAuthority (cs : List Char) : List Char × List Char :=
  match cs with
  | '/' :: '/' :: rest => rest.span fun c => c != '/' && c != '?' && c != '#'
  | _ => ([], cs)

/-- A part behind a mark that may be missing, up to the next mark. -/
def splitMarked (mark : Char) (stop : Char → Bool) (cs : List Char) :
    Option (List Char) × List Char :=
  match cs with
  | c :: rest =>
    if c = mark then
      let (part, rest) := rest.span fun c => !stop c
      (some part, rest)
    else (none, cs)
  | [] => (none, [])

/-- Cut an address into its parts. -/
def Parts.ofChars (cs : List Char) : Parts :=
  let (scheme, rest) := splitScheme cs
  let (authority, rest) := splitAuthority rest
  let (path, rest) := rest.span fun c => c != '?' && c != '#'
  let (query, rest) := splitMarked '?' (· == '#') rest
  let (fragment, _) := splitMarked '#' (fun _ => false) rest
  ⟨scheme, authority, path, query, fragment⟩

/-- User information in front of the last `@`, and the rest of an authority. -/
def splitUser (cs : List Char) : List Char × List Char :=
  match cs.reverse.span (· != '@') with
  | (_, []) => ([], cs)
  | (rest, _ :: user) => (user.reverse, rest.reverse)

/-- The host, in brackets or up to a colon, and the text of the port behind it. -/
def splitHost (cs : List Char) : List Char × List Char :=
  let (host, rest) :=
    match cs with
    -- Colons inside brackets belong to the host.
    | '[' :: _ =>
      match cs.reverse.span (· != ']') with
      | (_, []) => cs.span fun c => c != ':' && c != '@'
      | (rest, host) => (host.reverse, rest.reverse)
    | _ => cs.span fun c => c != ':' && c != '@'
  match rest with
  | ':' :: port => (host, port)
  | port => (host, port)

/-- The ports that need not be said. -/
def usualPorts : List (String × Int) :=
  [("ftp", 21), ("http", 80), ("https", 443), ("ws", 80), ("wss", 443)]

/-- The port that characters name, unless it is the usual one of the scheme as written. -/
def portOf (scheme : String) (cs : List Char) : Except Problem (Option Int) :=
  if cs.isEmpty then .ok none
  else match Digits.int? cs with
  | none => .error (.port (String.ofList cs))
  | some p => .ok (if usualPorts.lookup scheme = some p then none else some p)

/-- Leave out the segments `.` and go back for the segments `..`. -/
def resolveDots : List (List Char) → List (List Char) → List (List Char)
  | done, [] => done.reverse
  | done, segment :: segments =>
    if segment = ['.'] then resolveDots done segments
    else if segment = ['.', '.'] then
      resolveDots (if done = [] ∨ done = [[]] then done else done.drop 1) segments
    else resolveDots (segment :: done) segments

/-- A path without dot segments. -/
def normalPath (cs : List Char) : List Char :=
  List.intercalate ['/'] (resolveDots [] (splitChars (· == '/') cs))

/-- Whether an ASCII character with a picture stands for itself in a part with the given
exceptions. -/
def isPlainIn (exceptions : String) (c : Char) : Bool :=
  0x20 ≤ c.toNat && c.toNat < 0x7f && !exceptions.toList.contains c

/-- Characters that stand for themselves in a fragment. -/
def isFragmentChar (c : Char) : Bool := isPlainIn " \"<>`" c

/-- Characters that stand for themselves in a query. -/
def isQueryChar (c : Char) : Bool := isPlainIn " \"#<>" c

/-- Characters that stand for themselves in a path. -/
def isPathChar (c : Char) : Bool := isPlainIn " \"#<>?`\x7b\x7d" c

/-- Characters that stand for themselves in user information. -/
def isUserChar (c : Char) : Bool := isPlainIn " \"#<>?`\x7b\x7d/;=@[\\]^|" c

/-- Characters with escapes for those outside a class. -/
def escaped (plain : Char → Bool) (cs : List Char) : String :=
  String.ofList (Text.Percent.encodeList plain cs)

/-- Check that a path fits the parts in front of it. -/
def checkPath (hasScheme hasAuthority : Bool) (path : List Char) : Except Problem Unit :=
  if hasAuthority && !path.isEmpty && path.head? != some '/' then .error .relativePath
  else if hasScheme || hasAuthority then .ok ()
  else match path with
  | '/' :: '/' :: _ => .error .doubleSlashPath
  | ':' :: _ => .error .colonPath
  | _ => .ok ()

/-- The address that raw parts make. -/
def ofParts (p : Parts) : Except Problem Url := do
  let (user, rest) := splitUser p.authority
  let (hostChars, portChars) := splitHost rest
  let host ← hostOf hostChars
  let port ← portOf (String.ofList p.scheme) portChars
  let hasScheme := !p.scheme.isEmpty
  let hasAuthority := !user.isEmpty || !host.isEmpty || port.isSome
  -- The path is checked as written, before its dots are resolved.
  checkPath hasScheme hasAuthority p.path
  let path := if hasScheme || hasAuthority then normalPath p.path else p.path
  return {
    scheme := String.ofList (p.scheme.map Char.toLower)
    userInfo := escaped isUserChar user
    host, port
    path := escaped isPathChar path
    query := p.query.map (escaped isQueryChar)
    fragment := p.fragment.map (escaped isFragmentChar) }

/-- The first ASCII control character with its position. -/
def firstControl? : Nat → List Char → Option (Char × Nat)
  | _, [] => none
  | i, c :: cs =>
    if c.toNat < 0x20 ∨ c.toNat = 0x7f then some (c, i) else firstControl? (i + 1) cs

/-- How long an address may be. -/
def lengthLimit : Nat := 65536

/-- The address that a text writes. -/
def ofText (s : String) : Except Problem Url :=
  let cs := s.toList
  if lengthLimit < cs.length then .error .tooLong
  else match firstControl? 0 cs with
  | some (c, i) => .error (.control c i)
  | none => ofParts (.ofChars cs)

/-- An address with another path and query. -/
def withRawPath (u : Url) (raw : String) : Except Problem Url :=
  let (path, query) := raw.toList.span (· != '?')
  ofParts
    { scheme := u.scheme.toList, authority := u.authority.toList, path
      query := match query with
        | [] => none
        | _ :: q => some q
      fragment := u.fragment.map String.toList }

/-- An address under which others lie: path and query end with a slash. -/
def asBase (u : Url) : Except Problem Url :=
  if u.rawPath.endsWith "/" then .ok u else u.withRawPath (u.rawPath ++ "/")

end Url
end ChatProbe
