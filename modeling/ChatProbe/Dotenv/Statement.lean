import ChatProbe.Text.Blank
/-!
# Statements of a `.env` file

A `.env` file is a list of statements, each a name with or without a value. A value is quoted in
one of two ways or runs to the end of its line; a comment starts with `#`. A statement that
cannot be read is skipped to the end of its line and reported by the line on which it starts.

`Dotenv.statements` reads a whole file. It works on a list of characters in which every line
ends with a line feed (`Dotenv.unifiedLines`).
-/

namespace ChatProbe
namespace Dotenv

/-- One statement of a file: a name and a value, nothing, or something unreadable that starts on
the given line. -/
inductive Statement where
  | binding (name : String) (value : Option String)
  | blank
  | unreadable (line : Nat)
deriving DecidableEq, Repr

/-- The characters with one kind of line end. -/
def unifiedLines : List Char → List Char
  | '\r' :: '\n' :: cs => '\n' :: unifiedLines cs
  | '\r' :: cs => '\n' :: unifiedLines cs
  | c :: cs => c :: unifiedLines cs
  | [] => []

/-- A blank that does not end a line. -/
def isInlineBlank (c : Char) : Bool := Text.isBlank c && c != '\n' && c != '\r'

/-- The characters behind blanks on the same line. -/
def skipInline (cs : List Char) : List Char := cs.dropWhile isInlineBlank

/-- The characters behind a leading word `export`. -/
def skipExport (cs : List Char) : List Char :=
  match cs with
  | 'e' :: 'x' :: 'p' :: 'o' :: 'r' :: 't' :: c :: rest =>
    if isInlineBlank c then skipInline rest else cs
  | _ => cs

/-- A character of a name without quotes. -/
def isNameChar (c : Char) : Bool := c != '=' && c != '#' && !Text.isBlank c

/-- The name of a statement; a comment has none. -/
def readName (cs : List Char) : Option (Option String × List Char) :=
  match cs with
  -- The comment itself is skipped with the rest of the line.
  | '#' :: _ => some (none, cs)
  | '\'' :: rest =>
    let (name, behind) := rest.span (· != '\'')
    match behind with
    | '\'' :: behind => if name.isEmpty then none else some (some (String.ofList name), behind)
    | _ => none
  | _ =>
    let (name, behind) := cs.span isNameChar
    if name.isEmpty then none else some (some (String.ofList name), behind)

/-- The inside of a quoted value and what follows it. A backslash takes the next character of its
line with it, so that a quote behind it does not end the value. -/
def quotedInside (quote : Char) : List Char → Option (List Char × List Char)
  | [] => none
  | c :: rest =>
    if c = quote then some ([], rest)
    else if c = '\\' then
      match rest with
      | [] => none
      | d :: rest =>
        -- The backslash does not reach over the end of a line.
        if d = '\n' then none
        else (quotedInside quote rest).map fun (inside, behind) => (c :: d :: inside, behind)
    else (quotedInside quote rest).map fun (inside, behind) => (c :: inside, behind)

/-- The character that an escape between double quotes stands for. -/
def doubleEscape? : Char → Option Char
  | '\\' => some '\\'
  | '\'' => some '\''
  | '"' => some '"'
  | 'a' => some '\x07'
  | 'b' => some '\x08'
  | 'f' => some '\x0c'
  | 'n' => some '\n'
  | 'r' => some '\r'
  | 't' => some '\t'
  | 'v' => some '\x0b'
  | _ => none

/-- The character that an escape between single quotes stands for. -/
def singleEscape? : Char → Option Char
  | '\\' => some '\\'
  | '\'' => some '\''
  | _ => none

/-- Characters with their escapes resolved. -/
def unescaped (escape? : Char → Option Char) : List Char → List Char
  | '\\' :: c :: rest =>
    match escape? c with
    | some x => x :: unescaped escape? rest
    -- An unknown escape stands for itself.
    | none => '\\' :: unescaped escape? (c :: rest)
  | c :: rest => c :: unescaped escape? rest
  | [] => []

/-- The characters before the first comment: blanks followed by `#`. -/
def beforeComment : List Char → List Char
  | [] => []
  | c :: cs =>
    if Text.isBlank c ∧ (cs.dropWhile Text.isBlank).head? = some '#' then []
    else c :: beforeComment cs

/-- A value that runs to the end of its line, without the blanks around it. -/
def plainValue (cs : List Char) : String :=
  String.ofList (Text.trimList Text.isBlank (beforeComment cs))

/-- The value behind an equals sign. -/
def readValue (cs : List Char) : Option (String × List Char) :=
  match skipInline cs with
  | '\'' :: rest =>
    (quotedInside '\'' rest).map fun (s, r) => (String.ofList (unescaped singleEscape? s), r)
  | '"' :: rest =>
    (quotedInside '"' rest).map fun (s, r) => (String.ofList (unescaped doubleEscape? s), r)
  | _ =>
    -- Blanks in front stay for now: a comment may begin with one.
    let (line, rest) := cs.span (· != '\n')
    some (plainValue line, rest)

/-- The characters behind a comment on the same line. -/
def skipComment (cs : List Char) : List Char :=
  match skipInline cs with
  | '#' :: rest => rest.dropWhile (· != '\n')
  | _ => cs

/-- The characters behind the end of a line, if nothing else stands before it. -/
def skipLineEnd (cs : List Char) : Option (List Char) :=
  match skipInline cs with
  | [] => some []
  | '\n' :: rest => some rest
  | _ => none

/-- The statement that starts behind leading blanks, and what follows it. -/
def readBinding (cs : List Char) : Option (Statement × List Char) := do
  let (name, rest) ← readName (skipExport cs)
  let rest := skipInline rest
  let (value, rest) ← match rest with
    | '=' :: rest => (readValue rest).map fun (v, r) => (some v, r)
    | _ => some (none, rest)
  let rest ← skipLineEnd (skipComment rest)
  return (match name with
    | some name => .binding name value
    | none => .blank, rest)

/-- The point up to which a reading attempt has come before it failed; the rest of that line is
skipped. -/
def stopOf (cs : List Char) : List Char :=
  let cs := skipExport cs
  match readName cs with
  | none => cs
  | some (_, rest) =>
    let rest := skipInline rest
    match rest with
    | '=' :: rest =>
      match readValue rest with
      | none => rest
      | some (_, rest) => skipComment rest
    | _ => skipComment rest

/-- The characters behind the current line. -/
def skipLine (cs : List Char) : List Char := (cs.dropWhile (· != '\n')).drop 1

/-- The statements from a given line on; `fuel` bounds their number. -/
def statementsFrom : Nat → Nat → List Char → List Statement
  | 0, _, _ | _ + 1, _, [] => []
  | fuel + 1, line, cs =>
    let start := cs.dropWhile Text.isBlank
    -- The line on which the rest begins.
    let after (rest : List Char) : Nat :=
      line + (cs.take (cs.length - rest.length)).count '\n'
    match start with
    | [] => []
    | _ =>
      match readBinding start with
      | some (s, rest) => s :: statementsFrom fuel (after rest) rest
      | none =>
        -- A line that cannot be read is reported and left out; reading goes on behind it.
        let rest := skipLine (stopOf start)
        .unreadable line :: statementsFrom fuel (after rest) rest

/-- The statements of a file. -/
def statements (text : String) : List Statement :=
  let cs := unifiedLines text.toList
  statementsFrom (cs.length + 1) 1 cs

end Dotenv
end ChatProbe
