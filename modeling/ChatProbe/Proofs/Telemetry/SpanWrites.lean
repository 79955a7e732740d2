import ChatProbe.Proofs.Telemetry.HelperCalls
/-!
# What a run writes on a span

While a program runs, a span that was opened before is written on by helper calls and by nothing else: the
blocks that are entered meanwhile have spans of their own, and only these are ended. So such a span can be
told from what it was and the calls that the run makes (`Span.written`), whichever blocks they are made in
and whatever lies between them (`Action.writes_run`, `runAll_writes`).

A span that has ended stays as it is (`Span.written_of_ended`).
-/

namespace ChatProbe
namespace Telemetry

/-! ### What a call writes -/

/-- What a helper that is asked to do something makes of a span. An attribute whose value has no text is
not written. -/
def Request.apply (limits : Limits) (r : Request) (s : Span) : Span :=
  match r with
  | .attribute key v =>
    match v.text? with
    | some text => s.setAttribute limits key (.str text)
    | none => s
  | .status success message => s.setStatus (Tracing.statusOf success message)

/-- What a call makes of the span at a position: nothing, unless it is made on this one. -/
def HelperCall.write (limits : Limits) (i : Nat) (c : HelperCall) (s : Span) : Span :=
  match c.subject with
  | .span j => if j = i then c.request.apply limits s else s
  | _ => s

/-- What calls make of the span at a position, one after the other. -/
def Span.written (limits : Limits) (i : Nat) (calls : List HelperCall) (s : Span) : Span :=
  calls.foldl (fun s c => c.write limits i s) s

namespace HelperCall

variable {limits : Limits} {i j : Nat} {s : Span}

theorem write_self (limits : Limits) (i : Nat) (r : Request) (s : Span) :
    write limits i ⟨.span i, r⟩ s = r.apply limits s := if_pos rfl

theorem write_of_ne (hij : j ≠ i) (r : Request) : write limits i ⟨.span j, r⟩ s = s := if_neg hij

end HelperCall

namespace Span

variable {limits : Limits} {i : Nat} {s : Span}

@[simp] theorem written_nil (limits : Limits) (i : Nat) (s : Span) : s.written limits i [] = s := rfl

theorem written_append (calls more : List HelperCall) :
    s.written limits i (calls ++ more) = (s.written limits i calls).written limits i more :=
  List.foldl_append

theorem apply_of_ended (h : s.ended = true) (r : Request) : r.apply limits s = s := by
  rcases r with ⟨key, v⟩ | ⟨success, message⟩
  · rw [Request.apply]
    cases v.text? with
    | none => rfl
    | some text => exact update_of_ended h
  · show s.setStatus (Tracing.statusOf success message) = s
    exact update_of_ended h

theorem write_of_ended (h : s.ended = true) (c : HelperCall) : c.write limits i s = s := by
  unfold HelperCall.write
  split
  · split
    · exact apply_of_ended h _
    · rfl
  · rfl

/-- **An ended span** stays as it is. -/
theorem written_of_ended (h : s.ended = true) (calls : List HelperCall) :
    s.written limits i calls = s := by
  induction calls with
  | nil => rfl
  | cons c calls ih =>
    show (c.write limits i s).written limits i calls = s
    rw [write_of_ended h, ih]

end Span

/-! ### Open spans -/

/-- A span that takes what is written on it: it is recorded and has not ended. -/
structure Span.Open (s : Span) : Prop where
  recorded : s.recorded = true
  ended : s.ended = false

namespace Span.Open

variable {s : Span}

theorem update (hs : s.Open) (f : Span → Span) : s.update f = f s := by
  rw [Span.update, hs.recorded, hs.ended]
  rfl

theorem setAttribute (hs : s.Open) (limits : Limits) (key v : Value) :
    (s.setAttribute limits key v).Open := by
  rw [Span.setAttribute, hs.update]
  exact ⟨hs.recorded, hs.ended⟩

theorem setStatus (hs : s.Open) (status : SpanStatus) : (s.setStatus status).Open := by
  rw [Span.setStatus, hs.update]
  exact ⟨hs.recorded, hs.ended⟩

theorem addEvent (hs : s.Open) (limits : Limits) (e : Event) : (s.addEvent limits e).Open := by
  rw [Span.addEvent, hs.update]
  exact ⟨hs.recorded, hs.ended⟩

theorem apply (hs : s.Open) (limits : Limits) (r : Request) : (r.apply limits s).Open := by
  rcases r with ⟨key, v⟩ | ⟨success, message⟩
  · rw [Request.apply]
    cases v.text? with
    | none => exact hs
    | some text => exact hs.setAttribute limits key (.str text)
  · exact hs.setStatus _

/-- A call does not end the span. -/
theorem write (hs : s.Open) (limits : Limits) (i : Nat) (c : HelperCall) :
    (c.write limits i s).Open := by
  unfold HelperCall.write
  split
  · split
    · exact hs.apply limits _
    · exact hs
  · exact hs

/-- **Calls** do not end the span. -/
theorem written (hs : s.Open) (limits : Limits) (i : Nat) (calls : List HelperCall) :
    (s.written limits i calls).Open := by
  induction calls generalizing s with
  | nil => exact hs
  | cons c calls ih => exact ih (hs.write limits i c)

theorem report (hs : s.Open) (tracer : Tracer) (e : Raised) : (s.report tracer e).Open := by
  unfold Span.report
  split
  · split
    · exact (hs.addEvent ..).setStatus _
    · exact hs
  · exact hs

end Span.Open

/-! ### States that differ by calls -/

/-- The second state comes behind the first one by some calls, which are all that is written on the spans
of the first one. -/
structure Writes (t t' : Tracing) (calls : List HelperCall) : Prop where
  tracer : t'.tracer = t.tracer
  spans : ∀ (i : Nat) (s : Span),
    t.spans[i]? = some s → t'.spans[i]? = some (s.written t.tracer.limits i calls)

namespace Writes

variable {t t' t'' : Tracing} {calls more : List HelperCall}

/-- Where no span is touched, nothing is written. -/
theorem of_spans (htracer : t'.tracer = t.tracer) (hspans : t'.spans = t.spans) : Writes t t' [] where
  tracer := htracer
  spans := fun i s hs => by rw [hspans, hs, Span.written_nil]

theorem refl (t : Tracing) : Writes t t [] := of_spans rfl rfl

theorem trans (h : Writes t t' calls) (h' : Writes t' t'' more) : Writes t t'' (calls ++ more) where
  tracer := h'.tracer.trans h.tracer
  spans := fun i s hs => by rw [h'.spans i _ (h.spans i s hs), h.tracer, Span.written_append]

/-- A call that leaves every span as it is, where nothing is written. -/
theorem of_idle {c : HelperCall} (h : Writes t t' []) (hidle : ∀ limits i s, c.write limits i s = s) :
    Writes t t' [c] where
  tracer := h.tracer
  spans := fun i s hs => by
    show t'.spans[i]? = some (c.write t.tracer.limits i s)
    rw [hidle, h.spans i s hs, Span.written_nil]

/-- A call on the span at a position, which makes of it what the call asks for. -/
theorem of_request {j : Nat} {r : Request} {f : Span → Span} (hf : ∀ s, f s = r.apply t.tracer.limits s) :
    Writes t (t.modifySpan j f) [⟨.span j, r⟩] where
  tracer := rfl
  spans := fun i s hs => by
    show (t.spans.modify j f)[i]? = some (HelperCall.write t.tracer.limits i ⟨.span j, r⟩ s)
    by_cases hij : j = i
    · rw [hij, List.getElem?_modify_eq, hs, HelperCall.write_self, ← hf]
      rfl
    · rw [List.getElem?_modify_ne _ _ hij, hs, HelperCall.write_of_ne hij]

end Writes

namespace Tracing

theorem writes_warnAttribute (key : Value) (e : Complaint) (t : Tracing) :
    Writes t (t.warnAttribute key e).1 [] := by
  unfold warnAttribute
  split
  · exact .of_spans rfl rfl
  · exact .refl t

/-- A stand-in is no span. -/
theorem writes_addAttribute_double (d : Double) (key v : Value) (t : Tracing) :
    Writes t (t.addAttribute (.double d) key v).1 [] := by
  rw [addAttribute]
  cases v.print with
  | error e => exact writes_warnAttribute ..
  | ok text =>
    -- A stand-in is no span, so neither its note nor a warning writes to one.
    have hnoted : Writes t (t.noteCall d.name (.setAttribute key text)) [] := .of_spans rfl rfl
    dsimp only
    cases d.raises with
    | none => exact hnoted
    | some e => exact hnoted.trans (writes_warnAttribute ..)

theorem writes_setStatus_double (d : Double) (success message : Value) (t : Tracing) :
    Writes t (t.setStatus (.double d) success message) [] := by
  rw [setStatus]
  cases d.raises with
  | none => exact .of_spans rfl rfl
  | some e => exact .of_spans rfl rfl

/-- An attribute without a text is not written. -/
theorem writes_addAttribute_span (i : Nat) (key v : Value) (t : Tracing) :
    Writes t (t.addAttribute (.span i) key v).1 [⟨.span i, .attribute key v⟩] := by
  rw [addAttribute]
  cases hv : v.print with
  | ok text =>
    refine .of_request fun s => ?_
    rw [Request.apply, Value.text?_eq_some.mpr hv]
  | error e =>
    -- The warning is all that comes of it.
    have htext : v.text? = none := congrArg Except.toOption hv
    refine (writes_warnAttribute key e t).of_idle fun limits j s => ?_
    by_cases hij : i = j
    · rw [hij, HelperCall.write_self, Request.apply, htext]
    · exact HelperCall.write_of_ne hij _

end Tracing

/-- **A call** writes on its own span and on no other. -/
theorem HelperCall.writes_run (c : HelperCall) (t : Tracing) : Writes t (c.run t).1 [c] := by
  obtain ⟨subject, ⟨key, v⟩ | ⟨success, message⟩⟩ := c
  · show Writes t (t.addAttribute subject key v).1 _
    cases subject with
    | none => exact (Writes.refl t).of_idle fun _ _ _ => rfl
    | span i => exact t.writes_addAttribute_span i key v
    | double d => exact (t.writes_addAttribute_double d key v).of_idle fun _ _ _ => rfl
  · show Writes t (t.setStatus subject success message) _
    cases subject with
    | none => exact (Writes.refl t).of_idle fun _ _ _ => rfl
    | span i => exact .of_request fun s => rfl
    | double d => exact (t.writes_setStatus_double d success message).of_idle fun _ _ _ => rfl

/-! ### What a run writes -/

namespace Tracing

/-- A block that is entered has a span of its own, behind the others. -/
theorem writes_enter (name : String) (current : Option Nat) (t : Tracing) :
    Writes t (t.enter name current).1 [] where
  tracer := rfl
  spans := fun i s hs => by
    rw [Span.written_nil]
    exact (List.getElem?_append_left (List.getElem?_eq_some_iff.mp hs).1).trans hs

/-- The attributes that a block begins with are written by calls on its own span. -/
theorem writes_addAttributes (i : Nat) (attributes : List (Str × Value)) (t : Tracing) :
    Writes t (t.addAttributes i attributes).1 (HelperCall.writes i attributes) := by
  induction attributes generalizing t with
  | nil => exact .refl t
  | cons written attributes ih =>
    obtain ⟨key, v⟩ := written
    have hfirst := t.writes_addAttribute_span i (.str key) v
    have hkey : (Value.str key).text?.isSome = true := rfl
    -- No write raises, so the next one is made in any case.
    obtain ⟨t', ht', -⟩ := follows_addAttribute hkey (.span i) v t
    rw [ht'] at hfirst
    rw [addAttributes, ht']
    exact hfirst.trans (ih t')

end Tracing

/-- A block whose span is behind the others is closed without touching them. -/
theorem Writes.close {t t' : Tracing} {calls : List HelperCall} (h : Writes t t' calls)
    (name : String) (catches : Bool) (flight : Option Raised) :
    Writes t (t'.close name t.spans.length catches flight).1 calls where
  tracer := by rw [t'.close_eq]; exact h.tracer
  spans := fun i s hs => by
    have hi : i < t.spans.length := (List.getElem?_eq_some_iff.mp hs).1
    rw [t'.close_eq]
    dsimp only
    rw [List.getElem?_modify_ne _ _ (by omega)]
    exact h.spans i s hs

mutual

/-- **An action writes** by the helper calls that it makes, and by nothing else. -/
theorem Action.writes_run : ∀ (a : Action) (current : Option Nat) (t : Tracing),
    Writes t (a.run current t).1 (a.helperCalls current t)
  | .attribute target key v, current, t =>
    HelperCall.writes_run ⟨t.subject current target, .attribute key v⟩ t
  | .status target success message, current, t =>
    HelperCall.writes_run ⟨t.subject current target, .status success message⟩ t
  | .raise e, current, t => .refl t
  | .block name attributes catches body, current, t => by
    obtain ⟨t₁, henter⟩ : ∃ t₁, t.enter name current = (t₁, t.spans.length) := ⟨_, rfl⟩
    have hentered := t.writes_enter name current
    have hwritten := t₁.writes_addAttributes t.spans.length attributes
    obtain ⟨t₂, hwrite, -⟩ := Tracing.follows_addAttributes t.spans.length attributes t₁
    have hbody := runAll_writes body (some t.spans.length) t₂
    rw [henter] at hentered
    rw [hwrite] at hwritten
    rw [Action.run, Action.helperCalls, henter]
    dsimp only
    rw [hwrite]
    -- The span of the block stands behind those that were there, so its end touches none of them.
    exact (hentered.trans (hwritten.trans hbody)).close name catches _

/-- `Action.writes_run` for actions in order, up to an exception. -/
theorem runAll_writes : ∀ (as : List Action) (current : Option Nat) (t : Tracing),
    Writes t (runAll current as t).1 (helperCallsAll current as t)
  | [], current, t => .refl t
  | a :: rest, current, t => by
    have hfirst := Action.writes_run a current t
    rw [runAll, helperCallsAll]
    rcases hrun : a.run current t with ⟨t', _ | e⟩
    · rw [hrun] at hfirst
      exact hfirst.trans (runAll_writes rest current t')
    · -- An exception ends the run, so no further calls are made.
      rw [hrun] at hfirst
      dsimp only
      rw [List.append_nil]
      exact hfirst

end

/-- **The span of a block** is told by the calls that are made on it, those that write the attributes
it begins with among them, and by the exception that leaves the block. -/
theorem Action.span_of_block (name : String) (attributes : List (Str × Value)) (catches : Bool)
    (body : List Action) (current : Option Nat) (t : Tracing) :
    let i := t.spans.length
    let opened := Span.start name .internal Tracing.scope
      ((current.bind fun j => t.spans[j]?).map (·.name)) t.tracer.recorded
    let inside := ((t.enter name current).1.addAttributes i attributes).1
    let calls := HelperCall.writes i attributes ++ helperCallsAll (some i) body inside
    let flight := (runAll (some i) body inside).2
    (Action.run current (.block name attributes catches body) t).1.spans[i]?
      = some ((opened.written t.tracer.limits i calls).closed t.tracer flight) := by
  intro i opened inside calls flight
  obtain ⟨t₁, henter⟩ : ∃ t₁, t.enter name current = (t₁, i) := ⟨_, rfl⟩
  have htracer : t₁.tracer = t.tracer := by rw [← Tracing.tracer_enter name current t, henter]
  -- The span is opened behind the others, which is where its position points to.
  have hopened : t₁.spans[i]? = some opened := by
    have hspans : t₁.spans = t.spans ++ [opened] := (congrArg (·.1.spans) henter).symm
    rw [hspans, List.getElem?_concat_length]
  obtain ⟨t₂, hwrite, -⟩ := Tracing.follows_addAttributes i attributes t₁
  have hinside : inside = t₂ := by
    show ((t.enter name current).1.addAttributes i attributes).1 = t₂
    rw [henter, hwrite]
  -- All that is written between the opening and the end are the calls.
  have hwritten : Writes t₁ (runAll (some i) body t₂).1 calls := by
    have hattributes := t₁.writes_addAttributes i attributes
    rw [hwrite] at hattributes
    have hbody := runAll_writes body (some i) t₂
    rw [← hinside] at hattributes hbody ⊢
    exact hattributes.trans hbody
  rw [Action.run, henter]
  dsimp only
  rw [hwrite]
  dsimp only
  rw [Tracing.close_eq]
  dsimp only
  rw [List.getElem?_modify_eq, hwritten.spans i opened hopened, hwritten.tracer, htracer, ← hinside]
  rfl

/-- **What comes behind the end of a span** leaves it as it is. -/
theorem runAll_of_ended {t : Tracing} {i : Nat} {s : Span} (hs : t.spans[i]? = some s)
    (hended : s.ended = true) (current : Option Nat) (later : List Action) :
    (runAll current later t).1.spans[i]? = some s := by
  rw [(runAll_writes later current t).spans i s hs, Span.written_of_ended hended]

end Telemetry
end ChatProbe
