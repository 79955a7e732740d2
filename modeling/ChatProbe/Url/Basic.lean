import ChatProbe.Text.Quoted
/-!
# Addresses

An address in its parts, each in normal form: the scheme in lower case, the host as it is looked
up, a port only where it is not the usual one, and everything else with escapes for whatever may
not stand for itself. `Url.text` writes the address, and `Url.rawPath` is the part that a server
is asked for.
-/

namespace ChatProbe

/-- What is wrong with an address. -/
inductive Url.Problem where
  | tooLong
  | control (c : Char) (index : Nat)
  | port (text : String)
  | ipv4 (text : String)
  | ipv6 (text : String)
  | host (text : String)
  | relativePath
  | doubleSlashPath
  | colonPath
deriving DecidableEq, Repr

/-- The wording of an address problem. -/
def Url.Problem.message : Url.Problem → String
  | .tooLong => "URL too long"
  | .control c i =>
    "Invalid non-printable ASCII character in URL, " ++ Text.quoted c.toString ++ " at position "
      ++ toString i ++ "."
  | .port text => "Invalid port: " ++ Text.quoted text
  | .ipv4 text => "Invalid IPv4 address: " ++ Text.quoted text
  | .ipv6 text => "Invalid IPv6 address: " ++ Text.quoted text
  | .host text => "Invalid IDNA hostname: " ++ Text.quoted text
  | .relativePath => "For absolute URLs, path must be empty or begin with '/'"
  | .doubleSlashPath => "Relative URLs cannot have a path starting with '//'"
  | .colonPath => "Relative URLs cannot have a path starting with ':'"

/-- An address. -/
structure Url where
  scheme : String
  userInfo : String
  host : String
  port : Option Int
  path : String
  query : Option String
  fragment : Option String
deriving DecidableEq, Repr

namespace Url

/-- Host, port and user information together. -/
def authority (u : Url) : String :=
  (if u.userInfo.isEmpty then "" else u.userInfo ++ "@")
    ++ (if u.host.contains ':' then "[" ++ u.host ++ "]" else u.host)
    ++ (match u.port with
        | some p => ":" ++ toString p
        | none => "")

/-- A part with a mark in front, or nothing. -/
def marked (mark : String) : Option String → String
  | some s => mark ++ s
  | none => ""

/-- The text of an address. -/
def text (u : Url) : String :=
  (if u.scheme.isEmpty then "" else u.scheme ++ ":")
    ++ (if u.authority.isEmpty then "" else "//" ++ u.authority)
    ++ u.path ++ marked "?" u.query ++ marked "#" u.fragment

/-- Path and query; an empty path is the root. -/
def rawPath (u : Url) : String :=
  (if u.path.isEmpty then "/" else u.path) ++ marked "?" u.query

end Url
end ChatProbe
