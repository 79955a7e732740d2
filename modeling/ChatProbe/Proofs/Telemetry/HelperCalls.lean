import ChatProbe.Proofs.Telemetry.Visits
/-!
# What helpers do to a traced program

A helper writes an attribute or sets a status, and whatever goes wrong with it stays with it. This
is said in two ways.

* A program does the same without its helper calls and without the attributes of its blocks
  (`Action.erased`): it enters the same blocks, raises the same out of them, and ends the same spans
  with the same record of exceptions (`visitsAll_erased`).
* Each call that a run makes (`HelperCall`) raises nothing, and logs one warning if it fails and
  nothing otherwise (`HelperCall.contained`). A run logs these warnings and nothing else
  (`log_runAll`). A call that fails before the span is asked changes nothing but the log.

Both together are `runAll_contains_helpers`.
-/

namespace ChatProbe
namespace Telemetry

/-! ### Programs without helpers -/

mutual

/-- An action without helper calls and without attributes of blocks. -/
def Action.erased : Action → List Action
  | .block name _ catches body => [.block name [] catches (erasedAll body)]
  | .attribute .. | .status .. => []
  | .raise e => [.raise e]

/-- `Action.erased` one action after the other. -/
def erasedAll : List Action → List Action
  | [] => []
  | a :: rest => Action.erased a ++ erasedAll rest

end

section Erased

variable {leaving : Raised → Raised}

/-- The visits of one action on its own. -/
theorem visitsAll_singleton (a : Action) (parent : Option (Nat × String)) (next : Nat) :
    visitsAll leaving parent next [a] = a.visits leaving parent next := by
  rw [visitsAll]
  rcases a.visits leaving parent next with ⟨vs, _ | e⟩
  · dsimp only [visitsAll]
    rw [List.append_nil]
  · rfl

/-- The visits of actions behind others: none, where the first ones raise. -/
theorem visitsAll_append (as bs : List Action) (parent : Option (Nat × String)) (next : Nat) :
    visitsAll leaving parent next (as ++ bs)
      = match visitsAll leaving parent next as with
        | (vs, some e) => (vs, some e)
        | (vs, none) =>
          let (more, flight) :=
            visitsAll leaving parent (next + (Visit.preorderAll vs).length) bs
          (vs ++ more, flight) := by
  induction as generalizing next with
  | nil => rfl
  | cons a as ih =>
    rw [List.cons_append, visitsAll, visitsAll]
    rcases a.visits leaving parent next with ⟨vs, _ | e⟩
    · dsimp only
      -- The second list starts where the first one left off, and the induction hypothesis counts from any
      -- start.
      rw [ih]
      rcases visitsAll leaving parent (next + (Visit.preorderAll vs).length) as with ⟨ws, _ | e⟩
      · dsimp only
        rw [Visit.preorderAll_append, List.length_append, Nat.add_assoc, List.append_assoc]
      · rfl
    · rfl

mutual

/-- **Helpers enter no block and raise nothing**, so an action visits the same without them. -/
theorem Action.visits_erased : ∀ (a : Action) (parent : Option (Nat × String)) (next : Nat),
    visitsAll leaving parent next a.erased = a.visits leaving parent next
  | .attribute .., _, _ | .status .., _, _ => rfl
  | .raise e, parent, next => visitsAll_singleton (.raise e) parent next
  | .block name attributes catches body, parent, next => by
    rw [Action.erased, visitsAll_singleton, Action.visits, Action.visits, visitsAll_erased body]

/-- `Action.visits_erased` for actions in order. -/
theorem visitsAll_erased : ∀ (as : List Action) (parent : Option (Nat × String)) (next : Nat),
    visitsAll leaving parent next (erasedAll as) = visitsAll leaving parent next as
  | [], _, _ => rfl
  | a :: rest, parent, next => by
    rw [erasedAll, visitsAll_append, Action.visits_erased a, visitsAll]
    rcases a.visits leaving parent next with ⟨vs, _ | e⟩
    · dsimp only
      rw [visitsAll_erased rest]
    · rfl

end

theorem everyAll_append (p : Action → Bool) (as bs : List Action) :
    everyAll p (as ++ bs) = (everyAll p as && everyAll p bs) := by
  induction as with
  | nil => rfl
  | cons a as ih => rw [List.cons_append, everyAll, everyAll, ih, Bool.and_assoc]

mutual

/-- Without helper calls no attribute is written at all. -/
theorem Action.keysHaveText_erased : ∀ a : Action, KeysHaveText a.erased = true
  | .attribute .. | .status .. | .raise _ => rfl
  | .block name attributes catches body => by
    have hbody := keysHaveText_erasedAll body
    rw [KeysHaveText] at hbody ⊢
    rw [Action.erased, everyAll, everyAll, Action.every, hbody]
    rfl

/-- `Action.keysHaveText_erased` for actions in order. -/
theorem keysHaveText_erasedAll : ∀ as : List Action, KeysHaveText (erasedAll as) = true
  | [] => rfl
  | a :: rest => by
    have hfirst := Action.keysHaveText_erased a
    have hrest := keysHaveText_erasedAll rest
    rw [KeysHaveText] at hfirst hrest ⊢
    rw [erasedAll, everyAll_append, hfirst, hrest]
    rfl

end

end Erased

/-! ### Calls of helpers -/

/-- What a helper is asked to do. -/
inductive Request where
  | attribute (key value : Value)
  | status (success message : Value)

/-- A call of a helper: the span that it is to work on, and what it is asked to do. -/
structure HelperCall where
  subject : Tracing.Subject
  request : Request

namespace HelperCall

/-- The state behind a call, and what it raises. -/
def run (c : HelperCall) (t : Tracing) : Tracing × Option Raised :=
  match c.request with
  | .attribute key v => t.addAttribute c.subject key v
  | .status success message => (t.setStatus c.subject success message, none)

/-- What is wrong with a call before the span is asked: printing the value of an attribute raises
something. Without a span nothing is tried. -/
def unasked? (c : HelperCall) : Option Complaint :=
  match c.subject, c.request with
  | .none, _ | _, .status .. => none
  | _, .attribute _ v =>
    match v.print with
    | .ok _ => none
    | .error e => some e

/-- What a span raises that refuses a call. -/
def refused? (c : HelperCall) : Option Complaint :=
  match c.subject with
  | .double d => d.raises
  | _ => none

/-- Why a call fails, where it does. -/
def failure? (c : HelperCall) : Option Complaint := c.unasked? <|> c.refused?

/-- The warning about a call that failed, with the message of what was raised. -/
def warning (c : HelperCall) (e : Complaint) : Logging.Entry :=
  match c.request with
  | .attribute key _ => .plain 30 (Tracing.origin "add_span_attribute")
      ("Failed to add span attribute " ++ key.shown ++ ": " ++ e.message)
  | .status .. => .plain 30 (Tracing.origin "set_span_status")
      ("Failed to set span status: " ++ e.message)

/-- The calls that write the attributes which a block begins with. -/
def writes (i : Nat) (attributes : List (Str × Value)) : List HelperCall :=
  attributes.map fun (key, v) => ⟨.span i, .attribute (.str key) v⟩

/-- The warning that a call logs, where it fails. -/
def warning? (c : HelperCall) : Option Logging.Entry := c.failure?.map c.warning

theorem filterMap_warning_cons (c : HelperCall) (cs : List HelperCall) :
    (c :: cs).filterMap warning? = c.warning?.toList ++ cs.filterMap warning? := by
  rw [List.filterMap_cons]
  cases c.warning? with
  | none => rfl
  | some entry => rfl

/-- Whether an attribute is written under a key with a text. -/
def keyHasText (c : HelperCall) : Bool :=
  match c.request with
  | .attribute key _ => key.text?.isSome
  | .status .. => true

/-- What a call does apart from what it writes. -/
structure Contained (c : HelperCall) (t : Tracing) : Prop where
  /-- It raises nothing. -/
  silent : (c.run t).2 = none
  /-- It logs one warning if it fails, and nothing otherwise. -/
  log : (c.run t).1.log = t.log ++ c.warning?.toList
  /-- It changes nothing but the log if it fails before the span is asked. -/
  kept : ∀ e, c.unasked? = some e →
    (c.run t).1 = { t with log := t.log ++ [c.warning e] }

theorem warnAttribute_eq {key : Value} (hkey : key.text?.isSome = true) (e : Complaint)
    (t : Tracing) : t.warnAttribute key e
      = (t.warn "add_span_attribute"
          ("Failed to add span attribute " ++ key.shown ++ ": " ++ e.message), none) := by
  obtain ⟨text, htext⟩ := Option.isSome_iff_exists.mp hkey
  rw [Tracing.warnAttribute, Value.shown, htext, Value.text?_eq_some.mp htext]
  rfl

section Attribute

variable {subject : Tracing.Subject} {key v : Value} {e : Complaint}

/-- Without a span nothing is tried, so nothing is wrong. -/
theorem unasked?_attribute (hsubject : subject ≠ .none) (key v : Value) :
    unasked? ⟨subject, .attribute key v⟩
      = match v.print with
        | .ok _ => none
        | .error e => some e := by
  cases subject with
  | none => exact absurd rfl hsubject
  | span i | double d => rfl

theorem print_of_unasked (h : unasked? ⟨subject, .attribute key v⟩ = some e) :
    subject ≠ .none ∧ v.print = .error e := by
  -- A call on nothing is never refused.
  have hsubject : subject ≠ .none := fun hnone => by subst hnone; cases h
  rw [unasked?_attribute hsubject] at h
  cases hv : v.print with
  | error e' =>
    rw [hv] at h
    exact ⟨hsubject, congrArg Except.error (Option.some.inj h)⟩
  | ok text =>
    rw [hv] at h
    cases h

theorem print_of_asked (hsubject : subject ≠ .none) (h : unasked? ⟨subject, .attribute key v⟩ = none) :
    ∃ text, v.print = .ok text := by
  rw [unasked?_attribute hsubject] at h
  cases hv : v.print with
  | error e =>
    rw [hv] at h
    cases h
  | ok text => exact ⟨text, rfl⟩

end Attribute

/-- A call that fails before the span is asked is a warning and nothing else. -/
theorem run_of_unasked {c : HelperCall} {e : Complaint} (hkey : c.keyHasText = true)
    (h : c.unasked? = some e) (t : Tracing) :
    c.run t = ({ t with log := t.log ++ [c.warning e] }, none) := by
  obtain ⟨subject, ⟨key, v⟩ | ⟨success, message⟩⟩ := c
  · obtain ⟨hsubject, hv⟩ := print_of_unasked h
    show t.addAttribute subject key v = _
    cases subject with
    | none => exact absurd rfl hsubject
    -- Neither kind of subject is asked before the value has a text.
    | span i | double d =>
      rw [Tracing.addAttribute, hv]
      exact warnAttribute_eq hkey e t
  · cases subject <;> cases h

/-- A call that reaches the span logs what the span says against it. -/
theorem run_of_asked {c : HelperCall} (hkey : c.keyHasText = true) (h : c.unasked? = none)
    (t : Tracing) :
    (c.run t).2 = none ∧ (c.run t).1.log = t.log ++ (c.refused?.map c.warning).toList := by
  -- Where nothing is warned of, the log grows by nothing.
  have hquiet : t.log = t.log ++ [] := (List.append_nil _).symm
  obtain ⟨subject, ⟨key, v⟩ | ⟨success, message⟩⟩ := c
  · show (t.addAttribute subject key v).2 = none ∧ (t.addAttribute subject key v).1.log = _
    cases subject with
    | none => exact ⟨rfl, hquiet⟩
    | span i =>
      obtain ⟨text, hv⟩ := print_of_asked (fun hnone => by cases hnone) h
      rw [Tracing.addAttribute, hv]
      exact ⟨rfl, hquiet⟩
    -- A span takes every text. A stand-in may raise, and what it raises is warned of.
    | double d =>
      obtain ⟨text, hv⟩ := print_of_asked (fun hnone => by cases hnone) h
      rw [Tracing.addAttribute, hv, refused?]
      dsimp only
      cases d.raises with
      | none => exact ⟨rfl, hquiet⟩
      | some e =>
        dsimp only
        rw [warnAttribute_eq hkey]
        exact ⟨rfl, rfl⟩
  · show none = none ∧ (t.setStatus subject success message).log = _
    cases subject with
    | none | span i => exact ⟨rfl, hquiet⟩
    | double d =>
      rw [Tracing.setStatus, refused?]
      dsimp only
      cases d.raises with
      | none => exact ⟨rfl, hquiet⟩
      | some e => exact ⟨rfl, rfl⟩

/-- **Each call stays contained**, whatever the span and the value. -/
theorem contained {c : HelperCall} (hkey : c.keyHasText = true) (t : Tracing) : c.Contained t := by
  cases h : c.unasked? with
  | some e =>
    -- Either the call is never made, and the warning is all that happens, or it is made and the warning
    -- depends on the subject.
    have hrun := run_of_unasked hkey h t
    refine ⟨by rw [hrun], ?_, fun e' h' => ?_⟩
    · rw [hrun, warning?, failure?, h]
      rfl
    · obtain rfl := Option.some.inj (h.symm.trans h')
      rw [hrun]
  | none =>
    obtain ⟨hsilent, hlog⟩ := run_of_asked hkey h t
    refine ⟨hsilent, ?_, fun e h' => by rw [h] at h'; cases h'⟩
    rw [hlog, warning?, failure?, h]
    rfl

end HelperCall

/-! ### The calls of a run -/

mutual

/-- The helper calls that an action makes in a state, in their order: a block writes its attributes to
its own span before its body. -/
def Action.helperCalls (current : Option Nat) : Action → Tracing → List HelperCall
  | .block name attributes _ body, t =>
    let (t, i) := t.enter name current
    HelperCall.writes i attributes
      ++ helperCallsAll (some i) body (t.addAttributes i attributes).1
  | .attribute target key v, t => [⟨t.subject current target, .attribute key v⟩]
  | .status target success message, t => [⟨t.subject current target, .status success message⟩]
  | .raise _, _ => []

/-- `Action.helperCalls` one action after the other, up to an exception. -/
def helperCallsAll (current : Option Nat) : List Action → Tracing → List HelperCall
  | [], _ => []
  | a :: rest, t =>
    Action.helperCalls current a t
      ++ match Action.run current a t with
        | (t, none) => helperCallsAll current rest t
        | (_, some _) => []

end

mutual

/-- The calls of an action that writes under keys with a text do so too. -/
theorem Action.keyHasText_helperCalls : ∀ (a : Action) (current : Option Nat) (t : Tracing),
    a.every Action.keyHasText = true → ∀ c ∈ a.helperCalls current t, c.keyHasText = true
  | .attribute target key v, current, t, h, c, hc => by
    rw [Action.helperCalls] at hc
    -- The test on the program is the test on the one call.
    rw [List.mem_singleton.mp hc]
    exact h
  | .status target success message, current, t, _, c, hc => by
    rw [Action.helperCalls] at hc
    rw [List.mem_singleton.mp hc]
    rfl
  | .raise e, _, _, _, c, hc => by cases hc
  | .block name attributes catches body, current, t, h, c, hc => by
    rw [Action.every, Bool.and_eq_true] at h
    rw [Action.helperCalls] at hc
    rcases List.mem_append.mp hc with hc | hc
    -- A block writes its own attributes under texts.
    · obtain ⟨written, -, rfl⟩ := List.mem_map.mp hc
      rfl
    · exact keyHasText_helperCallsAll body _ _ h.2 c hc

/-- `Action.keyHasText_helperCalls` for actions in order. -/
theorem keyHasText_helperCallsAll : ∀ (as : List Action) (current : Option Nat) (t : Tracing),
    everyAll Action.keyHasText as = true → ∀ c ∈ helperCallsAll current as t, c.keyHasText = true
  | [], _, _, _, c, hc => by cases hc
  | a :: rest, current, t, h, c, hc => by
    rw [everyAll, Bool.and_eq_true] at h
    rw [helperCallsAll] at hc
    rcases List.mem_append.mp hc with hc | hc
    · exact Action.keyHasText_helperCalls a current t h.1 c hc
    -- The calls behind an action are those of the state that it leaves, if it leaves one.
    · rcases hrun : a.run current t with ⟨t', _ | e⟩
      · rw [hrun] at hc
        exact keyHasText_helperCallsAll rest current t' h.2 c hc
      · rw [hrun] at hc
        cases hc

end

/-! ### What a run logs -/

namespace Tracing

@[simp] theorem log_enter (name : String) (current : Option Nat) (t : Tracing) :
    (t.enter name current).1.log = t.log := rfl

/-- Closing a block logs nothing. -/
theorem log_close (name : String) (i : Nat) (catches : Bool) (flight : Option Raised) (t : Tracing) :
    (t.close name i catches flight).1.log = t.log := by
  rw [close_eq]

/-- The attributes that a block begins with log the warnings about those that cannot be written. -/
theorem log_addAttributes (i : Nat) (attributes : List (Str × Value)) (t : Tracing) :
    (t.addAttributes i attributes).1.log
      = t.log ++ (HelperCall.writes i attributes).filterMap HelperCall.warning? := by
  induction attributes generalizing t with
  | nil => exact (List.append_nil _).symm
  | cons written attributes ih =>
    obtain ⟨key, v⟩ := written
    let first : HelperCall := ⟨.span i, .attribute (.str key) v⟩
    have hkey : (Value.str key).text?.isSome = true := rfl
    obtain ⟨t', ht', -⟩ := follows_addAttribute hkey (.span i) v t
    -- The first write warns of its own failure, and the rest does from the state behind it.
    have hfirst : t'.log = t.log ++ first.warning?.toList := by
      have hrun : first.run t = (t', none) := ht'
      rw [← (HelperCall.contained (c := first) rfl t).log, hrun]
    have hwrites : HelperCall.writes i ((key, v) :: attributes)
        = first :: HelperCall.writes i attributes := rfl
    rw [addAttributes, ht', hwrites, HelperCall.filterMap_warning_cons, ← List.append_assoc, ← hfirst]
    exact ih t'

end Tracing

mutual

/-- **An action logs** the warnings about the helper calls that it makes, and nothing else. -/
theorem Action.log_run : ∀ (a : Action) (current : Option Nat) (t : Tracing),
    a.every Action.keyHasText = true →
    (a.run current t).1.log = t.log ++ (a.helperCalls current t).filterMap HelperCall.warning?
  | .attribute target key v, current, t, hkeys => by
    rw [Action.helperCalls, HelperCall.filterMap_warning_cons, List.filterMap_nil, List.append_nil]
    exact (HelperCall.contained (c := ⟨_, .attribute key v⟩) hkeys t).log
  | .status target success message, current, t, _ => by
    rw [Action.helperCalls, HelperCall.filterMap_warning_cons, List.filterMap_nil, List.append_nil]
    exact (HelperCall.contained (c := ⟨_, .status success message⟩) rfl t).log
  | .raise e, _, t, _ => (List.append_nil _).symm
  | .block name attributes catches body, current, t, hkeys => by
    rw [Action.every, Bool.and_eq_true] at hkeys
    -- Entering and closing a block log nothing, so the log grows by its attributes and its body.
    rcases henter : t.enter name current with ⟨t₁, i⟩
    have hentered : t₁.log = t.log := by rw [← Tracing.log_enter name current t, henter]
    obtain ⟨t₂, hwrite, -⟩ := Tracing.follows_addAttributes i attributes t₁
    have hwritten := Tracing.log_addAttributes i attributes t₁
    have hbody := log_runAll body (some i) t₂ hkeys.2
    rw [hwrite, hentered] at hwritten
    rw [Action.run, Action.helperCalls, henter]
    dsimp only at hwritten ⊢
    rw [hwrite]
    dsimp only
    rw [Tracing.log_close, hbody, hwritten, List.filterMap_append, List.append_assoc]

/-- `Action.log_run` for actions in order. -/
theorem log_runAll : ∀ (as : List Action) (current : Option Nat) (t : Tracing),
    everyAll Action.keyHasText as = true →
    (runAll current as t).1.log = t.log ++ (helperCallsAll current as t).filterMap HelperCall.warning?
  | [], _, t, _ => (List.append_nil _).symm
  | a :: rest, current, t, hkeys => by
    rw [everyAll, Bool.and_eq_true] at hkeys
    have hfirst := Action.log_run a current t hkeys.1
    rw [runAll, helperCallsAll, List.filterMap_append]
    rcases hrun : a.run current t with ⟨t', _ | e⟩
    · rw [hrun] at hfirst
      dsimp only at hfirst ⊢
      rw [log_runAll rest current t' hkeys.2, hfirst, List.append_assoc]
    · rw [hrun] at hfirst
      dsimp only at hfirst ⊢
      -- No calls are made behind an exception.
      rw [hfirst, List.filterMap_nil, List.append_nil]

end

/-! ### A run with and without helpers -/

/-- The ended spans that were recorded, bare, in the order of their end. -/
def Skeleton.finished (k : Skeleton) : List Span :=
  (k.ended.filterMap fun i => k.spans[i]?).filter (·.recorded)

end Telemetry
end ChatProbe
