import ChatProbe.Telemetry.Tracing
/-!
# The blocks that a traced program enters

What a traced program does to its blocks can be told without any span: which blocks it enters, inside
which other block, and which exception ends the body of each. `Action.visits` tells it as a forest of
`Visit`s, numbered in the order of their opening. Helper calls do not occur in it.

The state after a run is told by this forest, up to what the helpers are for (`Action.run_visits`,
`runAll_visits`): the spans are opened in the order of the forest in which a block stands in front of
those inside it (`Visit.preorder`), and they end in the order in which it stands behind them
(`Visit.postorder`). The part of a state that the forest tells is its `Skeleton`; attributes, statuses,
stand-ins and log are left out of it.

An exception leaves a block as `Tracer.leaving` says: as it is, unless it has no message to be recorded.
A program must write its attributes under keys with a text (`KeysHaveText`), since the warning about
an attribute that cannot be written tells its key.
-/

namespace ChatProbe
namespace Telemetry

/-- A block that was entered: the position of its span, the block around it, the exception that ended
its body, and the blocks entered inside it. -/
structure Visit where
  position : Nat
  /-- Position and name of the innermost block that was open. -/
  parent : Option (Nat × String)
  name : String
  flight : Option Raised
  inner : List Visit

namespace Visit

mutual

/-- A visit in front of those inside it. -/
def preorder : Visit → List Visit
  | ⟨position, parent, name, flight, inner⟩ =>
    ⟨position, parent, name, flight, inner⟩ :: preorderAll inner

/-- `preorder` one visit after the other. -/
def preorderAll : List Visit → List Visit
  | [] => []
  | v :: vs => preorder v ++ preorderAll vs

end

mutual

/-- A visit behind those inside it. -/
def postorder : Visit → List Visit
  | ⟨position, parent, name, flight, inner⟩ =>
    postorderAll inner ++ [⟨position, parent, name, flight, inner⟩]

/-- `postorder` one visit after the other. -/
def postorderAll : List Visit → List Visit
  | [] => []
  | v :: vs => postorder v ++ postorderAll vs

end

@[simp] theorem preorderAll_append (vs ws : List Visit) :
    preorderAll (vs ++ ws) = preorderAll vs ++ preorderAll ws := by
  induction vs with
  | nil => rfl
  | cons v vs ih => simp only [List.cons_append, preorderAll, ih, List.append_assoc]

@[simp] theorem postorderAll_append (vs ws : List Visit) :
    postorderAll (vs ++ ws) = postorderAll vs ++ postorderAll ws := by
  induction vs with
  | nil => rfl
  | cons v vs ih => simp only [List.cons_append, postorderAll, ih, List.append_assoc]

end Visit

/-! ### Walking a program -/

mutual

/-- The visits of an action inside the block `parent`, where `next` spans were opened before, and the
exception that comes out of it. `leaving` says how an exception leaves a block. -/
def Action.visits (leaving : Raised → Raised) (parent : Option (Nat × String)) (next : Nat) :
    Action → List Visit × Option Raised
  | .block name _ catches body =>
    let (inner, flight) := visitsAll leaving (some (next, name)) (next + 1) body
    ([⟨next, parent, name, flight, inner⟩], if catches then none else flight.map leaving)
  | .attribute .. | .status .. => ([], none)
  | .raise e => ([], some e)

/-- `Action.visits` one action after the other, up to an exception. -/
def visitsAll (leaving : Raised → Raised) (parent : Option (Nat × String)) (next : Nat) :
    List Action → List Visit × Option Raised
  | [] => ([], none)
  | a :: rest =>
    match Action.visits leaving parent next a with
    | (vs, some e) => (vs, some e)
    | (vs, none) =>
      let (more, flight) := visitsAll leaving parent (next + (Visit.preorderAll vs).length) rest
      (vs ++ more, flight)

end

mutual

/-- Whether all actions of an action pass a test, those inside blocks included. -/
def Action.every (p : Action → Bool) : Action → Bool
  | .block name attributes catches body => p (.block name attributes catches body) && everyAll p body
  | .attribute target key v => p (.attribute target key v)
  | .status target success message => p (.status target success message)
  | .raise e => p (.raise e)

/-- `Action.every` for each of several actions. -/
def everyAll (p : Action → Bool) : List Action → Bool
  | [] => true
  | a :: rest => Action.every p a && everyAll p rest

end

/-- Whether an action that writes an attribute writes it under a key with a text. -/
def Action.keyHasText : Action → Bool
  | .attribute _ key _ => key.text?.isSome
  | _ => true

/-- Whether every attribute of a program is written under a key with a text, as texts have it. -/
def KeysHaveText (program : List Action) : Bool := everyAll Action.keyHasText program

/-! ### What a tracer makes of an exception -/

namespace Tracer

/-- The exception that leaves a block for one that ended its body. One that cannot be recorded for want
of a message gives way to the failure to record it. -/
def leaving (tracer : Tracer) (e : Raised) : Raised :=
  if e.isOrdinary && tracer.recorded then
    match e.print with
    | .ok _ => e
    | .error c => .ofComplaint c
  else e

/-- The events of a span that an exception leaves: its record, as far as the limits let one be kept. -/
def eventsOf (tracer : Tracer) (e : Raised) : List Event :=
  match e.message? with
  | some message =>
    if e.isOrdinary && tracer.recorded then
      lastEvents tracer.limits.events [.ofException tracer.limits e.className message]
    else []
  | none => []

end Tracer

/-- The span of a visit, once it has ended, without attributes and status. -/
def Visit.span (tracer : Tracer) (v : Visit) : Span where
  name := v.name
  kind := .internal
  scope := Tracing.scope
  parent := v.parent.map (·.2)
  attributes := .empty
  status := .unset
  events := (v.flight.map tracer.eventsOf).getD []
  recorded := tracer.recorded
  ended := tracer.recorded

/-- The departure that a visit ends with, where an exception leaves the block. -/
def Visit.departure? (tracer : Tracer) (v : Visit) : Option (String × Raised) :=
  v.flight.map fun e => (v.name, tracer.leaving e)

/-! ### Skeletons -/

/-- A span without its attributes and its status. -/
def Span.bare (s : Span) : Span := { s with attributes := .empty, status := .unset }

/-- What a state tells about blocks: the bare spans in the order of opening, the span around each, the
positions in the order of ending, and the departures. -/
structure Skeleton where
  spans : List Span
  parents : List (Option Nat)
  ended : List Nat
  departures : List (String × Raised)

/-- The skeleton of a state. -/
def Tracing.skeleton (t : Tracing) : Skeleton :=
  ⟨t.spans.map Span.bare, t.parents, t.ended, t.departures⟩

/-- The skeleton behind some more visits. -/
def Skeleton.extend (tracer : Tracer) (k : Skeleton) (vs : List Visit) : Skeleton where
  spans := k.spans ++ (Visit.preorderAll vs).map (Visit.span tracer)
  parents := k.parents ++ (Visit.preorderAll vs).map fun v => v.parent.map (·.1)
  ended := k.ended ++ (Visit.postorderAll vs).map (·.position)
  departures := k.departures ++ (Visit.postorderAll vs).filterMap (Visit.departure? tracer)

namespace Span

/-! What the operations on spans do to bare ones. -/

@[simp] theorem bare_setAttribute (limits : Limits) (key v : Value) (s : Span) :
    (s.setAttribute limits key v).bare = s.bare := by
  unfold setAttribute update
  split
  · rfl
  · rfl

@[simp] theorem bare_setStatus (status : SpanStatus) (s : Span) :
    (s.setStatus status).bare = s.bare := by
  unfold setStatus update
  split
  · rfl
  · rfl

@[simp] theorem bare_addEvent (limits : Limits) (e : Event) (s : Span) :
    (s.addEvent limits e).bare = s.bare.addEvent limits e := by
  unfold addEvent update
  show _ = if s.recorded && !s.ended then _ else _
  split
  · rfl
  · rfl

@[simp] theorem bare_finish (s : Span) : s.finish.bare = s.bare.finish := by
  unfold finish update
  show _ = if s.recorded && !s.ended then _ else _
  split
  · rfl
  · rfl

theorem map_bare_modify {f g : Span → Span} (h : ∀ s, (f s).bare = g s.bare) (i : Nat)
    (spans : List Span) : (spans.modify i f).map bare = (spans.map bare).modify i g := by
  refine List.ext_getElem? fun j => ?_
  rw [List.getElem?_map, List.getElem?_modify, List.getElem?_modify, List.getElem?_map]
  cases spans[j]? with
  | none => rfl
  | some s =>
    -- Only the span at the position differs from what it was.
    by_cases hij : i = j
    · simp [hij, h]
    · simp [hij]

/-- What happens to the span of a block where an exception leaves it. -/
def note (tracer : Tracer) (e : Raised) (s : Span) : Span :=
  match e.message? with
  | some message =>
    if e.isOrdinary && tracer.recorded then
      s.addEvent tracer.limits (.ofException tracer.limits e.className message)
    else s
  | none => s

/-- `Span.note`, with the status that tells the exception. -/
def report (tracer : Tracer) (e : Raised) (s : Span) : Span :=
  match e.message? with
  | some message =>
    if e.isOrdinary && tracer.recorded then
      (s.addEvent tracer.limits (.ofException tracer.limits e.className message)).setStatus
        (.error (some (e.className ++ ": " ++ message)))
    else s
  | none => s

/-- What the end of a block does to its span, which an exception may leave. -/
def closed (tracer : Tracer) (flight : Option Raised) (s : Span) : Span :=
  ((flight.map fun e => s.report tracer e).getD s).finish

theorem bare_report (tracer : Tracer) (e : Raised) (s : Span) :
    (s.report tracer e).bare = s.bare.note tracer e := by
  unfold report note
  cases e.message? with
  | none => rfl
  | some message =>
    dsimp only
    -- The status is left out of a bare span, so the record is all that is left to compare.
    split
    · rw [bare_setStatus, bare_addEvent]
    · rfl

end Span

/-! ### Helpers keep the skeleton -/

/-- The second state comes behind the first one by some visits. -/
structure Follows (t t' : Tracing) (vs : List Visit) : Prop where
  tracer : t'.tracer = t.tracer
  skeleton : t'.skeleton = t.skeleton.extend t.tracer vs

namespace Follows

variable {t t' t'' : Tracing} {vs ws : List Visit}

/-- A state that shows the same in everything but attributes, statuses, stand-ins and log. -/
theorem of_skeleton (htracer : t'.tracer = t.tracer) (hskeleton : t'.skeleton = t.skeleton) :
    Follows t t' [] := by
  refine ⟨htracer, ?_⟩
  -- No visits extend a skeleton by nothing.
  simp [hskeleton, Skeleton.extend, Visit.preorderAll, Visit.postorderAll]

theorem refl (t : Tracing) : Follows t t [] := of_skeleton rfl rfl

theorem trans (h : Follows t t' vs) (h' : Follows t' t'' ws) : Follows t t'' (vs ++ ws) := by
  refine ⟨h'.tracer.trans h.tracer, ?_⟩
  rw [h'.skeleton, h.tracer, h.skeleton]
  simp [Skeleton.extend]

/-- As many spans were opened as there are visits. -/
theorem length_spans (h : Follows t t' vs) :
    t'.spans.length = t.spans.length + (Visit.preorderAll vs).length := by
  -- Every visit has one span, and opening is the only thing that adds one.
  have hspans := congrArg (fun k => k.spans.length) h.skeleton
  simpa [Tracing.skeleton, Skeleton.extend] using hspans

/-- A block that was open is still told by its position. -/
theorem name_eq (h : Follows t t' vs) {p : Nat × String}
    (hp : (t.spans[p.1]?).map (·.name) = some p.2) :
    (t'.spans[p.1]?).map (·.name) = some p.2 := by
  -- Names are told by bare spans, and the bare spans so far stay in front.
  have hname : ∀ (s : Tracing) (i : Nat),
      (s.skeleton.spans[i]?).map (·.name) = (s.spans[i]?).map (·.name) := by
    intro s i
    rw [Tracing.skeleton, List.getElem?_map, Option.map_map]
    rfl
  rw [← hname] at hp ⊢
  obtain ⟨s, hs, hsname⟩ := Option.map_eq_some_iff.mp hp
  obtain ⟨hlt, -⟩ := List.getElem?_eq_some_iff.mp hs
  -- The span that was found stands in the part that is kept.
  rw [h.skeleton, Skeleton.extend, List.getElem?_append_left hlt, hs, Option.map_some, hsname]

end Follows

namespace Tracing

variable {t : Tracing}

theorem follows_warn (t : Tracing) (function : String) (message : Str) :
    Follows t (t.warn function message) [] := .of_skeleton rfl rfl

theorem follows_noteCall (t : Tracing) (name : String) (c : DoubleCall) :
    Follows t (t.noteCall name c) [] := .of_skeleton rfl rfl

/-- Changing a span in its attributes or its status. -/
theorem follows_modifySpan {f : Span → Span} (h : ∀ s, (f s).bare = s.bare) (i : Nat) (t : Tracing) :
    Follows t (t.modifySpan i f) [] := by
  refine .of_skeleton rfl ?_
  have hsame : ∀ s, (f s).bare = id s.bare := h
  show (⟨(t.spans.modify i f).map Span.bare, _, _, _⟩ : Skeleton) = _
  rw [Span.map_bare_modify hsame, List.modify_id]
  rfl

theorem follows_warnAttribute {key : Value} (hkey : key.text?.isSome) (e : Complaint) (t : Tracing) :
    ∃ t', t.warnAttribute key e = (t', none) ∧ Follows t t' [] := by
  obtain ⟨text, htext⟩ := Option.isSome_iff_exists.mp hkey
  rw [warnAttribute, Value.text?_eq_some.mp htext]
  exact ⟨_, rfl, follows_warn ..⟩

/-- **Writing an attribute** under a key with a text raises nothing, whatever the value and the span. -/
theorem follows_addAttribute {key : Value} (hkey : key.text?.isSome) (s : Subject) (v : Value)
    (t : Tracing) : ∃ t', t.addAttribute s key v = (t', none) ∧ Follows t t' [] := by
  cases s with
  | none => exact ⟨t, rfl, .refl t⟩
  | span i =>
    rw [addAttribute]
    cases v.print with
    -- A value without a text is never asked of the span, and the warning only needs the key.
    | error e => exact follows_warnAttribute hkey ..
    | ok text => exact ⟨_, rfl, follows_modifySpan (Span.bare_setAttribute _ _ _) i t⟩
  | double d =>
    rw [addAttribute]
    cases v.print with
    | error e => exact follows_warnAttribute hkey ..
    | ok text =>
      dsimp only
      cases d.raises with
      | none => exact ⟨_, rfl, follows_noteCall ..⟩
      | some e =>
        -- What a stand-in raises is warned of behind the note of its call.
        obtain ⟨t', ht', hfollows⟩ := follows_warnAttribute hkey e
          (t.noteCall d.name (.setAttribute key text))
        exact ⟨t', ht', (follows_noteCall ..).trans hfollows⟩

/-- **Setting a status** raises nothing. -/
theorem follows_setStatus (s : Subject) (success message : Value) (t : Tracing) :
    Follows t (t.setStatus s success message) [] := by
  cases s with
  | none => exact .refl t
  | span i => exact follows_modifySpan (Span.bare_setStatus _) i t
  | double d =>
    rw [setStatus]
    cases d.raises with
    | none => exact follows_noteCall ..
    | some e => exact (follows_noteCall ..).trans (follows_warn ..)

/-- The attributes that a block begins with are written under texts. -/
theorem follows_addAttributes (i : Nat) (attributes : List (Str × Value)) (t : Tracing) :
    ∃ t', t.addAttributes i attributes = (t', none) ∧ Follows t t' [] := by
  induction attributes generalizing t with
  | nil => exact ⟨t, rfl, .refl t⟩
  | cons a attributes ih =>
    obtain ⟨key, v⟩ := a
    have hkey : (Value.str key).text?.isSome = true := rfl
    -- The induction is on the attributes and over every state, since each write starts from the state
    -- behind the one before.
    obtain ⟨t', ht', hfollows⟩ := follows_addAttribute hkey (.span i) v t
    obtain ⟨t'', ht'', hfollows'⟩ := ih t'
    refine ⟨t'', ?_, hfollows.trans hfollows'⟩
    rw [addAttributes, ht', ← ht'']

/-! ### Blocks -/

@[simp] theorem tracer_enter (name : String) (current : Option Nat) (t : Tracing) :
    (t.enter name current).1.tracer = t.tracer := rfl

/-- Entering a block opens a bare span and names the block around it. -/
theorem skeleton_enter (name : String) {parent : Option (Nat × String)}
    (hparent : ∀ p ∈ parent, (t.spans[p.1]?).map (·.name) = some p.2) :
    (t.enter name (parent.map (·.1))).1.skeleton
      = { t.skeleton with
          spans := t.skeleton.spans
            ++ [.start name .internal scope (parent.map (·.2)) t.tracer.recorded]
          parents := t.parents ++ [parent.map (·.1)] } := by
  -- The parent is told by its name here and by its position in the state; `hparent` says that they belong
  -- together.
  have hname : ((parent.map (·.1)).bind fun i => t.spans[i]?).map (·.name) = parent.map (·.2) := by
    cases parent with
    | none => rfl
    | some p => exact hparent p rfl
  rw [skeleton, enter]
  dsimp only
  rw [hname, List.map_append]
  rfl

/-- **Recording an exception** touches the span that it leaves and nothing else. -/
theorem recordException_eq (i : Nat) (e : Raised) (t : Tracing) :
    t.recordException i e = (t.modifySpan i (Span.report t.tracer e), t.tracer.leaving e) := by
  -- Where nothing is recorded the span stays as it is.
  have hsame : (∀ s, Span.report t.tracer e s = s) → t = t.modifySpan i (Span.report t.tracer e) := by
    intro hreport
    have hid : Span.report t.tracer e = id := funext hreport
    rw [modifySpan, hid, List.modify_id]
  unfold recordException Tracer.leaving
  -- An exception is recorded if it is ordinary and something records. The code asks for the opposite, so
  -- both spellings are needed.
  by_cases hrecorded : (e.isOrdinary && t.tracer.recorded) = true
  · have hskipped : (!e.isOrdinary || !t.tracer.recorded) = false := by
      rw [← Bool.not_and, hrecorded, Bool.not_true]
    rw [hskipped, hrecorded, if_neg Bool.false_ne_true]
    cases hprint : e.print with
    -- No message: the span stays as it is, and the failure to tell it takes the place of the exception.
    | error c =>
      have hmessage : e.message? = none := congrArg Except.toOption hprint
      exact Prod.ext (hsame fun s => by rw [Span.report, hmessage]) rfl
    | ok message =>
      have hmessage : e.message? = some message := congrArg Except.toOption hprint
      have hreport : Span.report t.tracer e = fun s =>
          (s.addEvent t.tracer.limits (.ofException t.tracer.limits e.className message)).setStatus
            (.error (some (e.className ++ ": " ++ message))) := by
        funext s
        rw [Span.report, hmessage]
        exact if_pos hrecorded
      rw [hreport]
      rfl
  · have hrefused : (e.isOrdinary && t.tracer.recorded) = false := Bool.eq_false_iff.mpr hrecorded
    have hskipped : (!e.isOrdinary || !t.tracer.recorded) = true := by
      rw [← Bool.not_and, hrefused, Bool.not_false]
    rw [hskipped, if_pos rfl, hrefused]
    refine Prod.ext (hsame fun s => ?_) rfl
    rw [Span.report]
    cases e.message? with
    | none => rfl
    | some message => exact if_neg hrecorded

/-- **Closing a block** ends its span, behind the record of the exception that leaves it. -/
theorem close_eq (name : String) (i : Nat) (catches : Bool) (flight : Option Raised) (t : Tracing) :
    t.close name i catches flight
      = ({ t with
            spans := t.spans.modify i (Span.closed t.tracer flight)
            ended := t.ended ++ [i]
            departures := t.departures
              ++ (flight.map fun e => (name, t.tracer.leaving e)).toList },
          if catches then none else flight.map t.tracer.leaving) := by
  cases flight with
  | none =>
    rw [close, Option.map_none, Option.map_none, Option.toList_none, List.append_nil, ite_self]
    rfl
  | some e =>
    rw [close]
    dsimp only
    rw [recordException_eq]
    refine Prod.ext ?_ rfl
    show (⟨_, (t.spans.modify i _).modify i Span.finish, _, _, _, _, _⟩ : Tracing) = _
    -- Recording and ending are two changes of one span.
    rw [List.modify_modify_eq]
    rfl

/-- What closing a block does to its bare span. -/
def closing (tracer : Tracer) (flight : Option Raised) (s : Span) : Span :=
  ((flight.map fun e => s.note tracer e).getD s).finish

theorem bare_closed (tracer : Tracer) (flight : Option Raised) (s : Span) :
    (s.closed tracer flight).bare = closing tracer flight s.bare := by
  cases flight with
  | none => exact Span.bare_finish s
  | some e => exact (Span.bare_finish _).trans (congrArg Span.finish (Span.bare_report tracer e s))

theorem skeleton_close (name : String) (i : Nat) (catches : Bool) (flight : Option Raised)
    (t : Tracing) :
    (t.close name i catches flight).1.skeleton
      = { t.skeleton with
          spans := t.skeleton.spans.modify i (closing t.tracer flight)
          ended := t.ended ++ [i]
          departures := t.departures
            ++ (flight.map fun e => (name, t.tracer.leaving e)).toList } := by
  rw [close_eq, skeleton]
  dsimp only
  rw [Span.map_bare_modify (bare_closed t.tracer flight)]
  rfl

/-- An open bare span that is closed is the span of its visit. -/
theorem closing_start (tracer : Tracer) (v : Visit) :
    closing tracer v.flight
      (.start v.name .internal scope (v.parent.map (·.2)) tracer.recorded) = v.span tracer := by
  obtain ⟨position, parent, name, flight, inner⟩ := v
  unfold closing Visit.span Span.note Tracer.eventsOf
  -- Nothing else happens to a bare span between its start and its end, so all cases are computations.
  cases flight with
  | none => cases hrecorded : tracer.recorded <;> rfl
  | some e =>
    dsimp only [Option.map_some, Option.getD_some]
    cases e.message? with
    | none => cases hrecorded : tracer.recorded <;> rfl
    | some message =>
      cases hordinary : e.isOrdinary <;> cases hrecorded : tracer.recorded <;> rfl

/-- A span that is changed behind others and in front of others. -/
theorem modify_append_cons (f : Span → Span) (before : List Span) (s : Span) (after : List Span) :
    (before ++ s :: after).modify before.length f = before ++ f s :: after := by
  induction before with
  | nil => rfl
  | cons first before ih => rw [List.cons_append, List.length_cons, List.modify_succ_cons, ih]; rfl

end Tracing

/-! ### Runs -/

section Runs

variable {parent : Option (Nat × String)}

/-- Behind visits that follow a state nothing is needed to follow it. -/
theorem Follows.append_nil {t t' t'' : Tracing} {vs : List Visit} (h : Follows t t' [])
    (h' : Follows t' t'' vs) : Follows t t'' vs := h.trans h'

/-- **A block tells its visit.** The state behind a block, where `inner` is what its body tells. -/
theorem Follows.block {t t₁ t₃ : Tracing} {name : String} {catches : Bool}
    {flight : Option Raised} {inner : List Visit}
    (hparent : ∀ p ∈ parent, (t.spans[p.1]?).map (·.name) = some p.2)
    (henter : t.enter name (parent.map (·.1)) = (t₁, t.spans.length))
    (hbody : Follows t₁ t₃ inner) :
    (t₃.close name t.spans.length catches flight).2
        = (if catches then none else flight.map t.tracer.leaving)
      ∧ Follows t (t₃.close name t.spans.length catches flight).1
          [⟨t.spans.length, parent, name, flight, inner⟩] := by
  -- All states on the way have one tracer.
  have htracer : t₁.tracer = t.tracer := by
    rw [← Tracing.tracer_enter name (parent.map (·.1)) t, henter]
  have hopened := Tracing.skeleton_enter name hparent
  rw [henter] at hopened
  have htracer₃ : t₃.tracer = t.tracer := hbody.tracer.trans htracer
  have hclose := t₃.close_eq name t.spans.length catches flight
  have hskeleton := t₃.skeleton_close name t.spans.length catches flight
  rw [htracer₃] at hclose hskeleton
  refine ⟨congrArg (·.2) hclose, congrArg (·.1.tracer) hclose, ?_⟩
  have hlength : t.spans.length = t.skeleton.spans.length := (List.length_map ..).symm
  -- What the body adds to the two lists stands in front of what closing adds.
  have hended : t₃.ended = t.ended ++ (Visit.postorderAll inner).map (·.position) := by
    have h := congrArg Skeleton.ended hbody.skeleton
    rw [hopened] at h
    exact h
  have hdepartures : t₃.departures
      = t.departures ++ (Visit.postorderAll inner).filterMap (Visit.departure? t.tracer) := by
    have h := congrArg Skeleton.departures hbody.skeleton
    rw [hopened, htracer] at h
    exact h
  -- The span of the block stands behind those that were there and in front of those opened inside.
  rw [hskeleton, hbody.skeleton, hopened, hended, hdepartures, htracer, hlength]
  simp only [Skeleton.extend, List.append_assoc, List.singleton_append]
  rw [Tracing.modify_append_cons]
  have hspan := Tracing.closing_start t.tracer ⟨t.spans.length, parent, name, flight, inner⟩
  have hdeparture : (flight.map fun e => (name, t.tracer.leaving e)).toList
      = [Visit.mk t.spans.length parent name flight inner].filterMap
          (Visit.departure? t.tracer) := by
    cases flight with
    | none => rfl
    | some e => rfl
  dsimp only at hspan
  rw [hspan, hdeparture]
  simp [Visit.preorderAll, Visit.preorder, Visit.postorderAll, Visit.postorder, Tracing.skeleton]

mutual

/-- **A run tells its visits.** The exception that comes out of an action and the skeleton that it
leaves are those of its visits. -/
theorem Action.run_visits : ∀ (a : Action) (parent : Option (Nat × String)) (t : Tracing),
    a.every Action.keyHasText = true →
    (∀ p ∈ parent, (t.spans[p.1]?).map (·.name) = some p.2) →
    (a.run (parent.map (·.1)) t).2 = (a.visits t.tracer.leaving parent t.spans.length).2
      ∧ Follows t (a.run (parent.map (·.1)) t).1
          (a.visits t.tracer.leaving parent t.spans.length).1
  | .attribute target key v, parent, t, hkeys, _ => by
    obtain ⟨t', ht', hfollows⟩ :=
      Tracing.follows_addAttribute hkeys (t.subject (parent.map (·.1)) target) v t
    -- A helper opens no block, and its exceptions stay inside it.
    rw [Action.run, Action.visits, ht']
    exact ⟨rfl, hfollows⟩
  | .status target success message, parent, t, _, _ => by
    rw [Action.run, Action.visits]
    exact ⟨rfl, Tracing.follows_setStatus ..⟩
  | .raise e, parent, t, _, _ => by
    rw [Action.run, Action.visits]
    exact ⟨rfl, .refl t⟩
  | .block name attributes catches body, parent, t, hkeys, hparent => by
    rw [Action.every, Bool.and_eq_true] at hkeys
    -- The block opens its span, writes its attributes, runs its body and closes; the visits count from
    -- the number of spans at each of these.
    obtain ⟨t₁, henter⟩ : ∃ t₁, t.enter name (parent.map (·.1)) = (t₁, t.spans.length) := ⟨_, rfl⟩
    obtain ⟨t₂, hwrite, hattributes⟩ := Tracing.follows_addAttributes t.spans.length attributes t₁
    have htracer : t₂.tracer = t.tracer := by
      rw [hattributes.tracer, ← Tracing.tracer_enter name (parent.map (·.1)) t, henter]
    have hspans : t₁.spans = t.spans ++ [.start name .internal Tracing.scope
        (((parent.map (·.1)).bind fun i => t.spans[i]?).map (·.name)) t.tracer.recorded] := by
      have h := congrArg (·.1.spans) henter
      exact h.symm
    have hlength : t₂.spans.length = t.spans.length + 1 := by
      rw [hattributes.length_spans, hspans, List.length_append]
      rfl
    -- Inside the block its own span is the innermost open one.
    have hinside : ∀ p ∈ some (t.spans.length, name), (t₂.spans[p.1]?).map (·.name) = some p.2 := by
      intro p hp
      obtain rfl := Option.some.inj hp
      refine hattributes.name_eq ?_
      rw [hspans, List.getElem?_concat_length]
      rfl
    obtain ⟨hflight, hbody⟩ := runAll_visits body (some (t.spans.length, name)) t₂ hkeys.2 hinside
    rw [htracer, hlength] at hflight hbody
    rw [Action.run, Action.visits, henter]
    dsimp only
    rw [hwrite]
    dsimp only
    rcases hrun : runAll (some t.spans.length) body t₂ with ⟨t₃, flight⟩
    rw [Option.map_some, hrun] at hflight hbody
    dsimp only at hflight hbody
    rw [← hflight]
    exact Follows.block hparent henter (hattributes.append_nil hbody)

/-- `Action.run_visits` for actions in order. -/
theorem runAll_visits : ∀ (as : List Action) (parent : Option (Nat × String)) (t : Tracing),
    everyAll Action.keyHasText as = true →
    (∀ p ∈ parent, (t.spans[p.1]?).map (·.name) = some p.2) →
    (runAll (parent.map (·.1)) as t).2 = (visitsAll t.tracer.leaving parent t.spans.length as).2
      ∧ Follows t (runAll (parent.map (·.1)) as t).1
          (visitsAll t.tracer.leaving parent t.spans.length as).1
  | [], parent, t, _, _ => by
    rw [runAll, visitsAll]
    exact ⟨rfl, .refl t⟩
  | a :: rest, parent, t, hkeys, hparent => by
    rw [everyAll, Bool.and_eq_true] at hkeys
    obtain ⟨hflight, hfollows⟩ := Action.run_visits a parent t hkeys.1 hparent
    rcases hvisits : a.visits t.tracer.leaving parent t.spans.length with ⟨vs, outcome⟩
    rcases hrun : a.run (parent.map (·.1)) t with ⟨t₁, flight⟩
    rw [hvisits, hrun] at hflight hfollows
    dsimp only at hflight hfollows
    subst hflight
    rw [runAll, visitsAll, hvisits, hrun]
    cases flight with
    -- An exception ends the run on both sides.
    | some e => exact ⟨rfl, hfollows⟩
    | none =>
      -- The block around is still open behind the first action, which is what the induction hypothesis
      -- asks for.
      have hopen : ∀ p ∈ parent, (t₁.spans[p.1]?).map (·.name) = some p.2 :=
        fun p hp => hfollows.name_eq (hparent p hp)
      obtain ⟨hrest, hbehind⟩ := runAll_visits rest parent t₁ hkeys.2 hopen
      rw [hfollows.tracer, hfollows.length_spans] at hrest hbehind
      exact ⟨hrest, hfollows.trans hbehind⟩

end

end Runs

/-- The skeleton that visits leave where there was nothing before. -/
def skeletonOf (tracer : Tracer) (vs : List Visit) : Skeleton where
  spans := (Visit.preorderAll vs).map (Visit.span tracer)
  parents := (Visit.preorderAll vs).map fun v => v.parent.map (·.1)
  ended := (Visit.postorderAll vs).map (·.position)
  departures := (Visit.postorderAll vs).filterMap (Visit.departure? tracer)

/-- **A whole program** tells its visits. -/
theorem runAll_start (tracer : Tracer) (doubles : List Double) {program : List Action}
    (hkeys : KeysHaveText program = true) :
    (runAll none program (.start tracer doubles)).2 = (visitsAll tracer.leaving none 0 program).2
      ∧ (runAll none program (.start tracer doubles)).1.skeleton
          = skeletonOf tracer (visitsAll tracer.leaving none 0 program).1 := by
  have hnone : ∀ p ∈ (none : Option (Nat × String)),
      (((Tracing.start tracer doubles).spans)[p.1]?).map (·.name) = some p.2 :=
    fun p hp => by cases hp
  obtain ⟨hflight, hfollows⟩ := runAll_visits program none (.start tracer doubles) hkeys hnone
  exact ⟨hflight, hfollows.skeleton⟩

/-- A tracer that records, with no limits set. -/
def plainTracer : Tracer := ⟨.standard, true⟩

/-- A value that cannot be printed. -/
def unprintable : Value := .textless (.valueError "no text")

end Telemetry
end ChatProbe
