import ChatProbe.Number.Digits
import ChatProbe.Number.Places
import ChatProbe.Value.Text
/-!
# Message templates

A template is text with directives: a `%`, an optional name in round brackets, flags, a least
width, a precision, and a letter that says how the next argument is written. `Template.fill`
replaces the directives by the arguments or reports the first `Template.Problem`.

Arguments come from a list, one per directive, or from a dictionary, by name
(`Template.Supply`); a list has to be used up exactly.
-/

namespace ChatProbe
namespace Template

/-- What can go wrong while a template is filled. -/
inductive Problem where
  | tooFewArguments
  | tooManyArguments
  | mappingNeeded
  | incomplete
  | incompleteName
  | unsupported (letter : CodePoint) (index : Nat)
  | numberNeeded (letter : Char) (type : String)
  | integerNeeded (letter : Char) (type : String)
  | realNeeded (type : String)
  | starNeedsInteger
  | characterNeeded
  | characterRange
  | infinityToInteger
  | nanToInteger
  | integerTooLarge
  | widthTooLarge
  | precisionTooLarge
  /-- An amount from the arguments that does not fit the named machine type. -/
  | amountTooLarge (machineType : String)
  | missingName (name : Str)
  /-- An argument that cannot be printed. -/
  | unprintable (complaint : Complaint)
deriving DecidableEq, Repr

/-- The arguments still to be used. -/
inductive Supply where
  /-- Arguments in order. -/
  | listed (args : List Value)
  /-- A dictionary; `pending` is what the next directive takes, if it is still there. -/
  | named (entries : List (Value × Value)) (pending : Option Value)
deriving Repr

/-- Take the next argument. -/
def Supply.take : Supply → Except Problem (Value × Supply)
  | .listed [] => .error .tooFewArguments
  | .listed (x :: xs) => .ok (x, .listed xs)
  | .named _ none => .error .tooFewArguments
  | .named es (some v) => .ok (v, .named es none)

/-- The dictionary that names refer to. -/
def Supply.entries : Supply → Except Problem (List (Value × Value))
  | .listed _ => .error .mappingNeeded
  | .named es _ => .ok es

/-- Make the entry of a name the next argument. -/
def Supply.select (es : List (Value × Value)) (name : Str) : Except Problem Supply :=
  match Value.lookupEntry (Value.sameKey (.str name)) es with
  | some v => .ok (.named es (some v))
  | none => .error (.missingName name)

/-- Refuse a dictionary whose selected entry a directive left unused. -/
def Supply.settled : Supply → Except Problem Unit
  | .named _ (some _) => .error .tooManyArguments
  | _ => .ok ()

/-- Refuse arguments of a list that no directive used. -/
def Supply.finished : Supply → Except Problem Unit
  | .listed (_ :: _) => .error .tooManyArguments
  | _ => .ok ()

/-- The flags of a directive. -/
structure Flags where
  left : Bool
  plus : Bool
  blank : Bool
  alternate : Bool
  zero : Bool
deriving Repr, Inhabited

/-- A directive between its name and its letter. -/
structure Layout where
  flags : Flags
  width : Nat
  precision : Option Nat
deriving Repr, Inhabited

/-- Text padded to a width: zeros stand behind the sign and the base mark, blanks before them. -/
def padded (layout : Layout) (numeric : Bool) (sign mark : List Char) (body : List CodePoint) :
    List CodePoint :=
  let missing := layout.width - (sign.length + mark.length + body.length)
  let head := (sign ++ mark).map .char
  -- At the left there is nothing to fill with zeros: blanks follow the number.
  if layout.flags.zero ∧ numeric then
    if layout.flags.left then head ++ body ++ List.replicate missing (.char ' ')
    else head ++ List.replicate missing (.char '0') ++ body
  else if layout.flags.left then head ++ body ++ List.replicate missing (.char ' ')
  else List.replicate missing (.char ' ') ++ head ++ body

/-- The sign in front of a number. -/
def signOf (flags : Flags) (negative : Bool) : List Char :=
  if negative then ['-'] else if flags.plus then ['+'] else if flags.blank then [' '] else []

/-- A text in a directive: cut to the precision, then padded. -/
def textPart (layout : Layout) (s : Str) : List CodePoint :=
  padded layout false [] [] (match layout.precision with
    | some p => s.points.take p
    | none => s.points)

/-- A single point in a directive, which has no precision. -/
def pointPart (layout : Layout) (p : CodePoint) : List CodePoint := padded layout false [] [] [p]

/-- The digits of an integer in a base, at least as many as the precision. -/
def integerPart (layout : Layout) (letter : Char) (i : Int) : List CodePoint :=
  -- Decimal directives come here under one letter.
  let base := if letter = 'o' then 8 else if letter = 'x' ∨ letter = 'X' then 16 else 10
  let ds := Nat.toDigits base i.natAbs
  let ds := if letter = 'X' then ds.map Char.toUpper else ds
  let ds := FloatLayout.zeros (layout.precision.getD 0 - ds.length) ++ ds
  let mark :=
    if layout.flags.alternate ∧ base ≠ 10 then ['0', letter] else []
  padded layout true (signOf layout.flags (decide (i < 0))) mark (ds.map .char)

/-- A float in a directive. -/
def floatPart (layout : Layout) (letter : Char) (x : Binary64) : List CodePoint :=
  let precision := layout.precision.getD 6
  let forced := layout.flags.alternate
  let body := match x with
    | .nan => ['n', 'a', 'n']
    | .infinite _ => ['i', 'n', 'f']
    | .finite _ m e =>
      if letter = 'f' ∨ letter = 'F' then Binary64.fixedText forced precision m e
      else if letter = 'e' ∨ letter = 'E' then Binary64.scientificText forced precision m e
      else Binary64.generalText forced precision m e
  let body := if letter.isUpper then body.map Char.toUpper else body
  padded layout true (signOf layout.flags x.isNegative) [] (body.map .char)

/-- The integer that a decimal directive writes for a value. -/
def wholeNumber (letter : Char) : Value → Except Problem Int
  | .float .nan => .error .nanToInteger
  | .float (.infinite _) => .error .infinityToInteger
  | .float x => .ok (x.truncated?.getD 0)
  | v =>
    match v.toInt? with
    | some i => if Digits.isLong i then .error (.unprintable Value.tooLong) else .ok i
    | none => .error (.numberNeeded letter v.typeName)

/-- The integer that an octal or hexadecimal directive writes for a value. -/
def integer (letter : Char) (v : Value) : Except Problem Int :=
  match v.toInt? with
  | some i => .ok i
  | none => .error (.integerNeeded letter v.typeName)

/-- The float that a directive for floats writes for a value. -/
def real (v : Value) : Except Problem Binary64 :=
  match v with
  | .float x => .ok x
  | _ => match v.toInt? with
    | some i => match Binary64.ofInt i with
      | .infinite _ => .error .integerTooLarge
      | x => .ok x
    | none => .error (.realNeeded v.typeName)

/-- The point that a directive for characters writes for a value. -/
def point (v : Value) : Except Problem CodePoint :=
  match v with
  | .str s => match s.points with
    | [p] => .ok p
    | _ => .error .characterNeeded
  | _ => match v.toInt? with
    | some i => if 0 ≤ i ∧ i < 0x110000 then .ok (.ofNat i.toNat) else .error .characterRange
    | none => .error .characterNeeded

/-- A text with every character outside ASCII escaped. -/
def escaped (s : String) : String :=
  String.ofList (s.toList.flatMap fun c => if c.toNat < 0x80 then [c] else Text.codePointEscape c)

/-- One argument as a directive's letter asks; `index` is the letter's place. -/
def part (layout : Layout) (letter : Char) (index : Nat) (v : Value) :
    Except Problem (List CodePoint) :=
  match letter with
  | 's' => (v.print.mapError .unprintable).map (textPart layout)
  | 'r' => (v.literal.mapError .unprintable).map fun t => textPart layout t
  | 'a' => (v.literal.mapError .unprintable).map fun t => textPart layout (escaped t)
  | 'd' | 'i' | 'u' => (wholeNumber letter v).map (integerPart layout 'd')
  | 'x' | 'X' | 'o' => (integer letter v).map (integerPart layout letter)
  | 'e' | 'E' | 'f' | 'F' | 'g' | 'G' => (real v).map (floatPart layout letter)
  | 'c' => (point v).map (pointPart layout)
  | _ => .error (.unsupported (.char letter) index)

/-- Read flags off the front. -/
def readFlags (flags : Flags) : List CodePoint → Flags × List CodePoint
  | .char '-' :: cs => readFlags { flags with left := true } cs
  | .char '+' :: cs => readFlags { flags with plus := true } cs
  | .char ' ' :: cs => readFlags { flags with blank := true } cs
  | .char '#' :: cs => readFlags { flags with alternate := true } cs
  | .char '0' :: cs => readFlags { flags with zero := true } cs
  | cs => (flags, cs)

/-- How large the widths and the precisions of directives may be. -/
structure Bound where
  limit : Nat
  machineType : String
  /-- What is wrong with digits that write a larger number. -/
  problem : Problem

namespace Bound

/-- The bound of widths. -/
def width : Bound := ⟨9223372036854775807, "ssize_t", .widthTooLarge⟩

/-- The bound of precisions. -/
def precision : Bound := ⟨2147483647, "int", .precisionTooLarge⟩

end Bound

/-- A width or a precision: digits, or a star that takes it from the arguments. -/
def readAmount (bound : Bound) (supply : Supply) (cs : List CodePoint) :
    Except Problem (Option Int × Supply × List CodePoint) :=
  match cs with
  | .char '*' :: rest => do
    let (v, supply) ← supply.take
    match v.toInt? with
    | some i =>
      if -(bound.limit : Int) - 1 ≤ i ∧ i ≤ bound.limit then return (some i, supply, rest)
      else throw (.amountTooLarge bound.machineType)
    | none => throw .starNeedsInteger
  | _ =>
    let (ds, rest) := Digits.span cs
    if bound.limit < Digits.value ds then .error bound.problem
    else .ok (if ds.isEmpty then none else some (Digits.value ds), supply, rest)

/-- A name in round brackets, which may nest; `depth` counts the open ones. -/
def readName : Nat → List CodePoint → Except Problem (List CodePoint × List CodePoint)
  | _, [] => .error .incompleteName
  | depth, .char '(' :: cs => (readName (depth + 1) cs).map fun (n, r) => (.char '(' :: n, r)
  | 0, .char ')' :: cs => .ok ([], cs)
  | depth + 1, .char ')' :: cs => (readName depth cs).map fun (n, r) => (.char ')' :: n, r)
  | depth, c :: cs => (readName depth cs).map fun (n, r) => (c :: n, r)

/-- One directive behind its `%`; `total` is the length of the template. -/
def directive (total : Nat) (supply : Supply) (cs : List CodePoint) :
    Except Problem (List CodePoint × Supply × List CodePoint) := do
  -- A name may stand before everything else.
  let (supply, cs) ← match cs with
    | .char '(' :: rest => do
      let entries ← supply.entries
      let (name, rest) ← readName 0 rest
      let supply ← Supply.select entries (.ofPoints name)
      pure (supply, rest)
    | _ => pure (supply, cs)
  let (flags, cs) := readFlags ⟨false, false, false, false, false⟩ cs
  let (width, supply, cs) ← readAmount .width supply cs
  -- A star may give a negative width, which moves the text to the left.
  let flags := if width.getD 0 < 0 then { flags with left := true } else flags
  -- A point without digits means no places; so does a negative star.
  let (precision, supply, cs) ← match cs with
    | .char '.' :: rest => do
      let (amount, supply, rest) ← readAmount .precision supply rest
      pure (some (amount.getD 0).toNat, supply, rest)
    | _ => pure (none, supply, cs)
  -- A size has no meaning here, and one is passed over.
  let cs := match cs with
    | .char 'h' :: rest | .char 'l' :: rest | .char 'L' :: rest => rest
    | _ => cs
  let layout : Layout := ⟨flags, (width.getD 0).natAbs, precision⟩
  match cs with
  | [] => throw .incomplete
  | .char '%' :: rest => do
    supply.settled
    return ([.char '%'], supply, rest)
  | letter :: rest => do
    let (v, supply) ← supply.take
    -- Counted from the front, the place of the letter in the template.
    let index := total - cs.length
    let out ← match letter with
      | .char c => part layout c index v
      | .half _ => throw (.unsupported letter index)
    supply.settled
    return (out, supply, rest)

/-- The template behind some point; `fuel` bounds the characters still to be read. -/
def fillFrom (total : Nat) : Nat → Supply → List CodePoint → Except Problem (List CodePoint)
  | 0, supply, _ | _ + 1, supply, [] => do
    supply.finished
    return []
  -- Two signs are one sign, and no directive.
  | fuel + 1, supply, .char '%' :: .char '%' :: rest => (fillFrom total fuel supply rest).map (.char '%' :: ·)
  | fuel + 1, supply, .char '%' :: rest => do
    let (out, supply, rest) ← directive total supply rest
    return out ++ (← fillFrom total fuel supply rest)
  | fuel + 1, supply, c :: rest => (fillFrom total fuel supply rest).map (c :: ·)

/-- The arguments of a log call: a single dictionary that is not empty serves by name. -/
def Supply.ofArguments : List Value → Supply
  | [.dict (e :: es)] => .named (e :: es) (some (.dict (e :: es)))
  | args => .listed args

/-- The template with its directives replaced. -/
def fill (template : Str) (args : List Value) : Except Problem Str :=
  let cs := template.points
  (fillFrom cs.length (cs.length + 1) (.ofArguments args) cs).map .ofPoints

end Template
end ChatProbe
