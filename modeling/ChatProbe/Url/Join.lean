import ChatProbe.Url.Parse
/-!
# Addresses relative to others

An address may leave out its scheme and its host, and its path may go on from that of another
address. `Url.join` completes such an address from the one that it is relative to. It works on the
texts of both and reads the outcome again.
-/

namespace ChatProbe
namespace Url

/-- Whether an address does not say by itself where to go. -/
def isRelative (u : Url) : Bool := u.scheme.isEmpty || u.host.isEmpty

/-- The schemes whose addresses can be relative to others. -/
def relativeSchemes : List String :=
  ["", "ftp", "http", "gopher", "nntp", "imap", "wais", "file", "https", "shttp", "mms", "prospero",
   "rtsp", "rtspu", "sftp", "svn", "svn+ssh", "ws", "wss"]

/-- The schemes whose paths can end with parameters. -/
def parameterSchemes : List String :=
  ["", "ftp", "hdl", "prospero", "http", "imap", "https", "shttp", "rtsp", "rtspu", "sip", "sips",
   "mms", "sftp", "tel"]

/-- A path without the parameters of its last segment, and these parameters. -/
def splitParameters (scheme : String) (path : List Char) : List Char × List Char :=
  if parameterSchemes.contains scheme then
    let last := (path.reverse.takeWhile (· != '/')).reverse
    let (name, parameters) := last.span (· != ';')
    (path.take (path.length - last.length) ++ name, parameters.drop 1)
  else (path, [])

/-- Leave out the segments `.` and go up for the segments `..`, as far as there is something above. -/
def climb : List (List Char) → List (List Char) → List (List Char)
  | done, [] => done.reverse
  | done, segment :: segments =>
    if segment = ['.'] then climb done segments
    else if segment = ['.', '.'] then climb (done.drop 1) segments
    else climb (segment :: done) segments

/-- Segments without the empty ones between the first and the last. -/
def withoutGaps : List (List Char) → List (List Char)
  | [] => []
  | first :: rest => first :: rest.dropLast.filter (fun s => !s.isEmpty) ++ rest.getLast?.toList

/-- The path that goes on from another one, or from the root. -/
def joinPath (base path : List Char) : List Char :=
  let own := splitChars (· == '/') path
  -- A path from the root replaces the other one; otherwise the last segment gives way.
  let segments :=
    if path.head? = some '/' then own
    else
      let above := splitChars (· == '/') base
      withoutGaps ((if above.getLast? = some [] then above else above.dropLast) ++ own)
  -- A path that ends in dots names a folder.
  let up := segments.getLast? = some ['.'] ∨ segments.getLast? = some ['.', '.']
  match List.intercalate ['/'] (climb [] segments ++ if up then [[]] else []) with
  | [] => ['/']
  | joined => joined

/-- A part with a mark in front, or nothing where the part is empty. -/
def markedPart (mark : Char) (part : List Char) : List Char :=
  if part.isEmpty then [] else mark :: part

/-- The text that raw parts write. -/
def Parts.chars (p : Parts) : List Char :=
  let usesAuthority := !p.authority.isEmpty
    || !p.scheme.isEmpty && relativeSchemes.contains (String.ofList p.scheme)
      && !"//".toList.isPrefixOf p.path
  (if p.scheme.isEmpty then [] else p.scheme ++ [':'])
    ++ (if usesAuthority then
          ['/', '/'] ++ p.authority
            ++ (if p.path.isEmpty || p.path.head? = some '/' then p.path else '/' :: p.path)
        else p.path)
    ++ markedPart '?' (p.query.getD []) ++ markedPart '#' (p.fragment.getD [])

/-- The parts of an address relative to another one. -/
def joinParts (base target : Parts) : Parts :=
  let scheme := String.ofList base.scheme
  let (basePath, baseParameters) := splitParameters scheme base.path
  let (path, parameters) := splitParameters scheme target.path
  let target := { target with scheme := base.scheme }
  -- From the host on the address speaks for itself.
  if !target.authority.isEmpty then { target with path := path ++ markedPart ';' parameters }
  -- Nothing but a query or a fragment: the path stays.
  else if path.isEmpty && parameters.isEmpty then
    { target with
      authority := base.authority
      path := basePath ++ markedPart ';' baseParameters
      query := if (target.query.getD []).isEmpty then base.query else target.query }
  else
    { target with
      authority := base.authority
      path := joinPath basePath path ++ markedPart ';' parameters }

/-- The text of an address, completed from the one that it is relative to. -/
def joinText (base target : String) : String :=
  if base.isEmpty then target
  else if target.isEmpty then base
  else
    let b := Parts.ofChars base.toList
    let t := Parts.ofChars target.toList
    -- Only an address of the same scheme can be completed.
    if (t.scheme.isEmpty || t.scheme = b.scheme)
        && relativeSchemes.contains (String.ofList b.scheme) then
      String.ofList (joinParts b t).chars
    else target

/-- An address, completed from the one that it is relative to. -/
def join (base target : Url) : Except Problem Url := ofText (joinText base.text target.text)

/-- An address with another host. -/
def withHost (u : Url) (host : String) : Except Problem Url :=
  ofParts
    { scheme := u.scheme.toList, authority := { u with host }.authority.toList
      path := u.path.toList, query := u.query.map String.toList
      fragment := u.fragment.map String.toList }

/-- The port at which an address is served. -/
def servedPort? (u : Url) : Option Int := u.port <|> [("http", 80), ("https", 443)].lookup u.scheme

/-- Whether two addresses belong to the same server. -/
def isSameOrigin (u v : Url) : Bool :=
  u.scheme == v.scheme && u.host == v.host && u.servedPort? == v.servedPort?

/-- Whether the second address is that of the same host behind a secure connection. -/
def isSecuredBy (u v : Url) : Bool :=
  u.host == v.host && u.scheme == "http" && u.servedPort? == some 80
    && v.scheme == "https" && v.servedPort? == some 443

end Url
end ChatProbe
