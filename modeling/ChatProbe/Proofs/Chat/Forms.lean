import ChatProbe.Chat.Message
import ChatProbe.Proofs.Outcome
import ChatProbe.Proofs.Value.Plain
/-!
# Dictionaries and objects as responses

A response, a choice and a message have named parts, and each of the three can be a dictionary or an
object. The form makes no difference to a part (`Value.field_recast`). A change that no reader of a part
can see may be made inside as well: in a part that is read further (`Value.field_changeField`), and in the
first of the choices (`firstElement_changeFirst`). So the forms of all three can be changed at once and
independently of each other, and the content that is read stays the same
(`firstChoiceContent_recastResponse`).
-/

namespace ChatProbe
namespace Value

/-! ### The two forms -/

/-- The forms in which named parts stand together. -/
inductive Form where
  | dict
  | object
deriving DecidableEq, Repr

/-- Named parts in a form. -/
def ofParts : Form → List (Str × Value) → Value
  | .dict, ps => dictOfFields ps
  | .object, ps => .object ps

/-- Entries as named parts, if every key is a text. -/
def namedParts? : List (Value × Value) → Option (List (Str × Value))
  | [] => some []
  | (.str name, v) :: es => (namedParts? es).map ((name, v) :: ·)
  | _ => none

/-- The named parts of a value that consists of them. -/
def parts? : Value → Option (List (Str × Value))
  | .dict es => namedParts? es
  | .object ps => some ps
  | _ => none

/-- A value with its named parts in another form. What does not consist of named parts stays as it
is. -/
def recast (form : Form) (v : Value) : Value :=
  match v.parts? with
  | some ps => ofParts form ps
  | none => v

variable {v : Value} {ps : List (Str × Value)}

theorem eq_map_entryOf {es : List (Value × Value)} (h : namedParts? es = some ps) :
    es = ps.map entryOf := by
  fun_induction namedParts? es generalizing ps with
  | case1 => cases h; rfl
  | case2 name v es ih =>
    obtain ⟨qs, hqs, rfl⟩ := Option.map_eq_some_iff.mp h
    rw [ih hqs]
    rfl
  | case3 => cases h

/-- What consists of named parts is one of the forms of these parts. -/
theorem exists_eq_ofParts (h : v.parts? = some ps) : ∃ form, v = ofParts form ps := by
  cases v with
  | dict es => exact ⟨.dict, congrArg Value.dict (eq_map_entryOf h)⟩
  | object qs =>
    cases h
    exact ⟨.object, rfl⟩
  | _ => cases h

theorem lookupEntry_map_entryOf (name : Str) (ps : List (Str × Value)) :
    lookupEntry (sameKey (.str name)) (ps.map entryOf) = ps.lookup name := by
  induction ps with
  | nil => rfl
  | cons p ps ih =>
    obtain ⟨key, v⟩ := p
    rw [List.map_cons, entryOf, lookupEntry, sameKey_str, ih, List.lookup_cons]
    cases name == key with
    | true => rfl
    | false => rfl

/-- A part is found under its name in either form. -/
theorem field_ofParts (form : Form) (ps : List (Str × Value)) (name : Str) :
    (ofParts form ps).field name = (ps.lookup name).getD .null := by
  cases form with
  | dict =>
    show (lookupEntry _ (ps.map entryOf)).getD .null = _
    rw [lookupEntry_map_entryOf]
  | object => rfl

/-- **The form makes no difference** to the parts of a value. -/
theorem field_recast (form : Form) (v : Value) (name : Str) :
    (v.recast form).field name = v.field name := by
  unfold recast
  split
  · next ps hparts =>
    obtain ⟨form', rfl⟩ := exists_eq_ofParts hparts
    rw [field_ofParts, field_ofParts]
  · rfl

/-! ### Changes inside -/

/-- Entries with the value under some key changed. -/
def changeEntries (p : Value → Bool) (f : Value → Value) (es : List (Value × Value)) :
    List (Value × Value) :=
  es.map fun e => if p e.1 then (e.1, f e.2) else e

/-- A value with one of its parts changed. -/
def changeField (name : Str) (f : Value → Value) : Value → Value
  | .dict es => .dict (changeEntries (sameKey (.str name)) f es)
  | .object ps => .object (ps.map fun p => if p.1 = name then (p.1, f p.2) else p)
  | v => v

/-- A value with its first element changed. -/
def changeFirst (f : Value → Value) : Value → Value
  | .list (x :: xs) => .list (f x :: xs)
  | .tuple (x :: xs) => .tuple (f x :: xs)
  | .dict es => .dict (changeEntries (sameKey (.int 0)) f es)
  | v => v

variable {f : Value → Value}

theorem lookupEntry_changeEntries (p : Value → Bool) (f : Value → Value) (es : List (Value × Value)) :
    lookupEntry p (changeEntries p f es) = (lookupEntry p es).map f := by
  induction es with
  | nil => rfl
  | cons e es ih =>
    obtain ⟨k, v⟩ := e
    rw [changeEntries, List.map_cons]
    -- The first entry that passes is found on both sides, since its key is not changed.
    by_cases hk : p k = true
    · rw [if_pos hk, lookupEntry, if_pos hk, lookupEntry, if_pos hk]
      rfl
    · rw [if_neg hk, lookupEntry, if_neg hk, lookupEntry, if_neg hk]
      exact ih

theorem lookup_changed (name : Str) (f : Value → Value) (ps : List (Str × Value)) :
    (ps.map fun p => if p.1 = name then (p.1, f p.2) else p).lookup name = (ps.lookup name).map f := by
  induction ps with
  | nil => rfl
  | cons p ps ih =>
    obtain ⟨key, v⟩ := p
    rw [List.map_cons]
    by_cases hkey : key = name
    · rw [if_pos hkey, Table.lookup_cons_eq_ite, if_pos hkey.symm, Table.lookup_cons_eq_ite, if_pos hkey.symm]
      rfl
    · rw [if_neg hkey, Table.lookup_cons_eq_ite, if_neg (Ne.symm hkey), Table.lookup_cons_eq_ite,
        if_neg (Ne.symm hkey), ih]

theorem getD_map_null (hf : f null = null) (v? : Option Value) :
    (v?.map f).getD null = f (v?.getD null) := by
  cases v? with
  | none => exact hf.symm
  | some v => rfl

/-- A changed part is the change of the part, as long as what is missing stays missing. -/
theorem field_changeField (hf : f null = null) (name : Str) (v : Value) :
    (v.changeField name f).field name = f (v.field name) := by
  cases v with
  | dict es =>
    show (lookupEntry _ (changeEntries _ f es)).getD .null = _
    rw [lookupEntry_changeEntries]
    exact getD_map_null hf _
  | object ps =>
    show (List.lookup name _).getD Value.null = _
    rw [lookup_changed]
    exact getD_map_null hf _
  -- Everything else has no fields, and nothing stands for what is missing.
  | _ => exact hf.symm

theorem truthy_changeFirst (f : Value → Value) (v : Value) : (v.changeFirst f).truthy = v.truthy := by
  cases v with
  | list xs => cases xs <;> rfl
  | tuple xs => cases xs <;> rfl
  | dict es => cases es <;> rfl
  | _ => rfl

end Value

namespace Chat

open Value (Form)

/-- A reader that does not see the change of a choice does not see it in the first of the choices. -/
theorem firstElement_changeFirst {f g : Value → Value} (hg : ∀ x, g (f x) = g x) (v : Value) :
    (firstElement (v.changeFirst f)).map g = (firstElement v).map g := by
  cases v with
  | list xs =>
    cases xs with
    | nil => rfl
    | cons x xs => exact congrArg Except.ok (hg x)
  | tuple xs =>
    cases xs with
    | nil => rfl
    | cons x xs => exact congrArg Except.ok (hg x)
  | dict es =>
    -- What stands under the key zero comes first in a dictionary.
    rw [Value.changeFirst, firstElement, firstElement, Value.lookupEntry_changeEntries]
    cases Value.lookupEntry (Value.sameKey (.int 0)) es with
    | none => rfl
    | some x => exact congrArg Except.ok (hg x)
  | _ => rfl

/-- A form for each level of a response. -/
structure Forms where
  response : Form
  choice : Form
  message : Form

/-- A choice with itself and its message in the given forms. -/
def recastChoice (forms : Forms) (choice : Value) : Value :=
  (choice.changeField "message" (.recast forms.message)).recast forms.choice

/-- A response with itself, its first choice and the message of this in the given forms. -/
def recastResponse (forms : Forms) (response : Value) : Value :=
  (response.changeField "choices" (.changeFirst (recastChoice forms))).recast forms.response

/-- The content of a choice does not depend on forms. -/
theorem content_recastChoice (forms : Forms) (choice : Value) :
    ((recastChoice forms choice).field "message").field "content"
      = (choice.field "message").field "content" := by
  rw [recastChoice, Value.field_recast, Value.field_changeField rfl, Value.field_recast]

/-- The elements of a list or a tuple. -/
def sequence? : Value → Option (List Value)
  | .list xs | .tuple xs => some xs
  | _ => none

theorem firstChoiceContent_of_falsy {response : Value}
    (h : (response.field "choices").truthy = false) : firstChoiceContent response = .ok .null := by
  rw [firstChoiceContent, h]
  rfl

theorem firstChoiceContent_of_cons {response x : Value} {xs : List Value}
    (h : sequence? (response.field "choices") = some (x :: xs)) :
    firstChoiceContent response = .ok ((x.field "message").field "content") := by
  rw [firstChoiceContent]
  generalize response.field "choices" = choices at h
  cases choices with
  | list ys =>
    cases h
    rfl
  | tuple ys =>
    cases h
    rfl
  -- Lists and tuples are all that have a first element here.
  | _ => cases h

/-- **Dictionaries and objects read alike.** Whatever the response is, a change between dictionary and
object at the response, at its first choice and at the message of this, each for itself, does not change
the outcome. There is no failure where the choices are missing or count as nothing, or are a list or a
tuple of anything; and of the elements of a list or a tuple only the first one matters. -/
theorem firstChoiceContent_recastResponse (response : Value) :
    (∀ forms, firstChoiceContent (recastResponse forms response) = firstChoiceContent response)
      ∧ ((response.field "choices").truthy = false
            ∨ (sequence? (response.field "choices")).isSome = true →
          ∃ content, firstChoiceContent response = .ok content)
      ∧ ∀ response' x xs xs', sequence? (response.field "choices") = some (x :: xs) →
          sequence? (response'.field "choices") = some (x :: xs') →
            firstChoiceContent response = firstChoiceContent response' := by
  refine ⟨fun forms => ?_, ?_, fun response' x xs xs' h h' => ?_⟩
  · have hchoices : (recastResponse forms response).field "choices"
        = (response.field "choices").changeFirst (recastChoice forms) := by
      rw [recastResponse, Value.field_recast, Value.field_changeField rfl]
    rw [firstChoiceContent, firstChoiceContent, hchoices, Value.truthy_changeFirst,
      firstElement_changeFirst (content_recastChoice forms)]
  · rintro (hfalsy | hsequence)
    · exact ⟨.null, firstChoiceContent_of_falsy hfalsy⟩
    · obtain ⟨xs, hxs⟩ := Option.isSome_iff_exists.mp hsequence
      cases xs with
      | nil =>
        -- An empty list or tuple counts as nothing.
        refine ⟨.null, firstChoiceContent_of_falsy ?_⟩
        generalize response.field "choices" = choices at hxs
        cases choices with
        | list ys => cases hxs; rfl
        | tuple ys => cases hxs; rfl
        | _ => cases hxs
      | cons x xs => exact ⟨_, firstChoiceContent_of_cons hxs⟩
  · rw [firstChoiceContent_of_cons h, firstChoiceContent_of_cons h']

/-- A tuple of choices in a dictionary, whose first choice is an object with a dictionary as its message:
every form can change, and the second choice can go. -/
theorem firstChoiceContent_recastResponse_tuple :
    let message := Value.dictOfFields [("role", .str "assistant"), ("content", .str "hi")]
    let choice := Value.object [("index", .int 0), ("message", message)]
    let response := Value.dictOfFields [("id", .str "x"), ("choices", .tuple [choice, .int 5])]
    let changed := recastResponse ⟨.object, .dict, .object⟩ response
    let shortened := Value.object [("choices", .list [choice])]
    changed = .object
        [("id", .str "x"),
         ("choices", .tuple
           [.dictOfFields [("index", .int 0), ("message", .object
              [("role", .str "assistant"), ("content", .str "hi")])],
            .int 5])]
      ∧ firstChoiceContent changed = firstChoiceContent response
      ∧ firstChoiceContent response = firstChoiceContent shortened
      ∧ firstChoiceContent shortened = .ok (.str "hi")
      ∧ ∃ content, firstChoiceContent changed = .ok content := by
  intro message choice response changed shortened
  obtain ⟨hforms, -, hfirst⟩ := firstChoiceContent_recastResponse response
  -- The last part is about the response after the change.
  obtain ⟨-, hfine, -⟩ := firstChoiceContent_recastResponse changed
  exact ⟨by rfl, hforms _, hfirst shortened choice [.int 5] [] (by rfl) (by rfl), by rfl,
    hfine (.inr (by rfl))⟩

end Chat
end ChatProbe
