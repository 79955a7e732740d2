import ChatProbe.Proofs.Outcome
import ChatProbe.Telemetry.Observation
/-!
# Which responses can be observed

An instrumented client looks at a response before its caller does and gives it on only where the
response has the shape that observing needs. `Observable` spells this shape out, part by part:

* the choices can be gone through, and each is `Tellable`: an object with its place, its reason and
  its message, and a message that says anything has a role and calls that can be gone through;
* the token counts are there, where any are given, and are numbers where they are measured;
* what becomes an attribute of a measurement is no list and no dictionary.

`Observer.result_observe` says that this is exactly what it takes for the caller to see the response,
and `Observer.result_observe_cases` that the caller otherwise sees a `Misfit`, one of four ways of
using a value as what it is not.
-/

namespace ChatProbe
namespace Telemetry

/-! ### The shape -/

/-- A message that can be told: it has a role, and its calls can be gone through. -/
structure TellableMessage (message : Value) : Prop where
  role : (message.attribute? "role").isSome = true
  calls : message.field "tool_calls" = .null
    ∨ (message.field "tool_calls").elements.isOk = true

/-- A choice that can be told. Its message may be anything that counts as false. -/
structure Tellable (choice : Value) : Prop where
  index : (choice.attribute? "index").isSome = true
  reason : (choice.attribute? "finish_reason").isSome = true
  message : ∃ m, choice.attribute? "message" = some m ∧ (m.truthy = true → TellableMessage m)

/-- A token count that is there, and that is a number where it is measured. -/
def Countable (live : Bool) (usage : Value) (part : String) : Prop :=
  ∃ n, usage.attribute? part = some n ∧ (live = true → (Amount.ofValue n).isOk = true)

/-- Whether a part can be an attribute of a measurement; what counts as false is left out. -/
def isLabel : Value → Bool
  | .list (_ :: _) | .dict (_ :: _) => false
  | _ => true

/-- The parts of a response that become attributes of a measurement. -/
def labelParts : List String := ["model", "service_tier", "system_fingerprint"]

/-- A response that can be observed by an observer whose meter measures, and is read, as said. -/
structure Observable (live read : Bool) (response : Value) : Prop where
  choices : ∀ choices, response.attribute? "choices" = some choices →
    ∃ cs, choices.elements = .ok cs ∧ ∀ c ∈ cs, Tellable c
  counts : (response.field "usage").truthy = true →
    Countable live (response.field "usage") "prompt_tokens"
      ∧ Countable live (response.field "usage") "completion_tokens"
  labels : live = true → read = true → ∀ part ∈ labelParts, isLabel (response.field part) = true

/-! ### Telling choices -/

theorem isOk_member {v : Value} {name : String} :
    (v.member name).isOk = (v.attribute? name).isSome := by
  rw [Value.member]
  cases v.attribute? name <;> rfl

theorem member_eq_ok {v x : Value} {name : String} :
    v.member name = .ok x ↔ v.attribute? name = some x := by
  rw [Value.member]
  cases v.attribute? name <;> simp

namespace EventRecord

theorem isOk_toolCalls (captures : Bool) {message : Value} :
    (toolCalls captures message).isOk = true ↔
      message.field "tool_calls" = .null ∨ (message.field "tool_calls").elements.isOk = true := by
  rw [toolCalls]
  cases message.field "tool_calls" <;> simp

theorem isOk_messageFields (captures : Bool) {message : Value} :
    (messageFields captures message).isOk = true ↔ TellableMessage message := by
  rw [messageFields, Outcome.isOk_iff]
  constructor
  · rintro ⟨fs, h⟩
    obtain ⟨role, hrole, h⟩ := Outcome.bind_eq_ok.mp h
    obtain ⟨calls, hcalls, -⟩ := Outcome.bind_eq_ok.mp h
    -- The role is asked for first and the calls of tools behind it; nothing else can fail.
    refine ⟨?_, (isOk_toolCalls captures).mp (Outcome.isOk_iff.mpr ⟨calls, hcalls⟩)⟩
    rw [member_eq_ok.mp hrole]
    rfl
  · rintro ⟨hrole, hcalls⟩
    obtain ⟨role, hrole⟩ := Option.isSome_iff_exists.mp hrole
    obtain ⟨calls, hcalls⟩ := Outcome.isOk_iff.mp ((isOk_toolCalls captures).mpr hcalls)
    rw [member_eq_ok.mpr hrole, hcalls]
    exact ⟨_, rfl⟩

theorem isOk_messageField (captures : Bool) {message : Value} :
    (messageField captures message).isOk = true ↔
      (message.truthy = true → TellableMessage message) := by
  rw [messageField]
  by_cases htruthy : message.truthy = true
  · rw [if_pos htruthy, Outcome.isOk_map, isOk_messageFields]
    exact ⟨fun h _ => h, fun h => h htruthy⟩
  · rw [if_neg htruthy]
    exact ⟨fun _ h => absurd h htruthy, fun _ => rfl⟩

/-- **Choices.** A choice can be told where it has the shape of one. A text or a list has a place
but no reason, so that it fails all the same. -/
theorem isOk_ofChoice (captures : Bool) {choice : Value} :
    (ofChoice captures choice).isOk = true ↔ Tellable choice := by
  rw [ofChoice, Outcome.isOk_iff]
  constructor
  · rintro ⟨record, h⟩
    obtain ⟨index, hindex, h⟩ := Outcome.bind_eq_ok.mp h
    obtain ⟨reason, hreason, h⟩ := Outcome.bind_eq_ok.mp h
    obtain ⟨message, hmessage, h⟩ := Outcome.bind_eq_ok.mp h
    obtain ⟨told, htold, -⟩ := Outcome.bind_eq_ok.mp h
    obtain ⟨r, hr, -⟩ := Outcome.map_eq_ok.mp hreason
    rw [member_eq_ok] at hr hmessage
    refine ⟨?_, by rw [hr]; rfl, message, hmessage, ?_⟩
    -- Texts and lists have methods of this name, but no reason, which was read as well.
    · cases choice with
      | object attributes =>
        rw [member_eq_ok.mp hindex]
        rfl
      | _ => cases hr
    · exact (isOk_messageField captures).mp (Outcome.isOk_iff.mpr ⟨told, htold⟩)
  · rintro ⟨hindex, hreason, message, hmessage, htell⟩
    obtain ⟨index, hindex⟩ := Option.isSome_iff_exists.mp hindex
    obtain ⟨reason, hreason⟩ := Option.isSome_iff_exists.mp hreason
    obtain ⟨told, htold⟩ := Outcome.isOk_iff.mp ((isOk_messageField captures).mpr htell)
    have hplace : choiceIndex choice = .ok index := by
      cases choice with
      | object attributes => exact member_eq_ok.mpr hindex
      | _ => cases hindex
    rw [hplace, finishReason, member_eq_ok.mpr hreason, member_eq_ok.mpr hmessage]
    show ∃ record, (messageField captures message >>= _) = .ok record
    rw [htold]
    exact ⟨_, rfl⟩

theorem ofChoices_eq_none {captures : Bool} (cs : List Value) :
    (ofChoices captures cs).2 = none ↔ ∀ c ∈ cs, Tellable c := by
  -- The first choice that cannot be told ends the telling, so the failure is that of a prefix.
  induction cs with
  | nil => simp [ofChoices]
  | cons c cs ih =>
    rw [ofChoices, List.forall_mem_cons, ← ih, ← isOk_ofChoice captures]
    cases ofChoice captures c with
    | error e => simp
    | ok r => simp

/-- **The conversation.** A response tells a conversation where its choices can be gone through and
told one by one; a response without choices tells an empty one. -/
theorem ofResponse_eq_none {captures : Bool} {response : Value} :
    (ofResponse captures response).2 = none ↔
      ∀ choices, response.attribute? "choices" = some choices →
        ∃ cs, choices.elements = .ok cs ∧ ∀ c ∈ cs, Tellable c := by
  rw [ofResponse]
  cases response.attribute? "choices" with
  | none => simp
  | some choices =>
    cases helements : choices.elements with
    | error e => simp [helements]
    | ok cs => simp [helements, ofChoices_eq_none]

end EventRecord

/-! ### Describing responses -/

/-- Outside dictionaries, a part is an attribute or nothing. -/
theorem field_of_ne_dict {v : Value} (h : ∀ es, v ≠ .dict es) (name : String) :
    v.field name = (v.attribute? name).getD .null := by
  cases v with
  | dict es => exact absurd rfl (h es)
  | _ => rfl

theorem isOk_finishReason {choice : Value} :
    (EventRecord.finishReason choice).isOk = (choice.attribute? "finish_reason").isSome := by
  rw [EventRecord.finishReason, Outcome.isOk_map, isOk_member]

/-- Choices that can be told have their reasons. -/
theorem isOk_reasonLabels {response : Value} (hdict : ∀ es, response ≠ .dict es)
    (h : ∀ choices, response.attribute? "choices" = some choices →
      ∃ cs, choices.elements = .ok cs ∧ ∀ c ∈ cs, Tellable c) :
    (reasonLabels response).isOk = true := by
  rw [reasonLabels, field_of_ne_dict hdict]
  cases hchoices : response.attribute? "choices" with
  | none => rfl
  | some choices =>
    obtain ⟨cs, hcs, htell⟩ := h choices hchoices
    -- Choices that can be told have a reason each.
    have hreasons : (cs.mapM EventRecord.finishReason).isOk = true := by
      rw [Outcome.isOk_mapM, List.all_eq_true]
      intro c hc
      rw [isOk_finishReason]
      exact (htell c hc).reason
    obtain ⟨reasons, hreasons⟩ := Outcome.isOk_iff.mp hreasons
    rw [Option.getD_some, hcs]
    split
    · show (Except.isOk (cs.mapM EventRecord.finishReason >>= _)) = true
      rw [hreasons]
      rfl
    · rfl

theorem usageLabels_eq_none {response : Value} :
    (usageLabels response).2 = none ↔
      ((response.field "usage").truthy = true →
        ((response.field "usage").attribute? "prompt_tokens").isSome = true
          ∧ ((response.field "usage").attribute? "completion_tokens").isSome = true) := by
  rw [usageLabels]
  by_cases htruthy : (response.field "usage").truthy = true
  · rw [if_pos htruthy, ← isOk_member, ← isOk_member]
    cases (response.field "usage").member "prompt_tokens" with
    | error e => simp [htruthy]
    | ok p => cases (response.field "usage").member "completion_tokens" <;> simp [htruthy]
  · rw [if_neg htruthy]
    simp [htruthy]

theorem describe_eq_none {response : Value} :
    (describe response).2 = none ↔
      (reasonLabels response).isOk = true ∧ (usageLabels response).2 = none := by
  rw [describe]
  cases reasonLabels response with
  | error e => simp
  | ok reasons => simp

/-- What stands in the way of a span and its events. -/
theorem follow_eq_none {o : Observer} {u : Url} {response : Value} :
    (o.follow u (.ok response)).2.2 = none ↔
      (o.tracer.recorded = true → (describe response).2 = none)
        ∧ (EventRecord.ofResponse o.captures response).2 = none := by
  rw [Observer.follow]
  cases o.tracer.recorded with
  | false => simp
  | true =>
    -- A description that fails ends the following before any event.
    rcases describe response with ⟨labels, _ | e⟩
    · simp
    · simp

/-! ### Measuring responses -/

theorem isOk_check_append (xs ys : Labels) :
    (Labels.check (xs ++ ys)).isOk = ((Labels.check xs).isOk && (Labels.check ys).isOk) := by
  induction xs with
  | nil => rfl
  | cons x xs ih =>
    obtain ⟨name, v⟩ := x
    cases v with
    | list | dict => rfl
    | _ => exact ih

theorem isOk_check_partLabel (response : Value) (part name : String) :
    (Labels.check (partLabel response part name)).isOk = isLabel (response.field part) := by
  rw [partLabel, EventRecord.truthyField]
  cases response.field part with
  | list xs => cases xs <;> rfl
  | dict es => cases es <;> rfl
  | _ => split <;> rfl

/-- The attributes of a measurement that come from the response decide. -/
theorem isOk_check_measuredLabels (u : Url) (failure : Option Failure) (response : Value) :
    (Labels.check (measuredLabels u failure response)).isOk = true ↔
      ∀ part ∈ labelParts, isLabel (response.field part) = true := by
  have hfailure : (Labels.check (failure.map fun e =>
      (Str.whole errorKey, Value.str e.className)).toList).isOk = true := by
    cases failure <;> rfl
  have hserver : (Labels.check (serverLabels u)).isOk = true := by
    rw [serverLabels]
    cases u.port with
    | none => rfl
    | some p =>
      show (Labels.check (if 0 < p ∧ p ≠ securePort then _ else [])).isOk = true
      split <;> rfl
  have hoperation : (Labels.check operationLabels).isOk = true := rfl
  -- What is left are the three parts of the response.
  simp only [measuredLabels, isOk_check_append, isOk_check_partLabel, hfailure, hserver,
    hoperation, labelParts, Bool.and_eq_true, List.forall_mem_cons, and_true, true_and,
    List.not_mem_nil, false_implies, implies_true, and_assoc]

namespace Meter

/-- Measuring fails on what is no number and, where someone reads, on attributes that cannot tell
points apart. -/
theorem isOk_record {m : Meter} {i : Instrument} {labels : Labels} {amount : Value} :
    (m.record i labels amount).isOk = true ↔
      (m.live = true → ∃ a, Amount.ofValue amount = .ok a
        ∧ (a.lt .zero = false → m.read = true → (Labels.check labels).isOk = true)) := by
  rw [record]
  cases hlive : m.live with
  | false => simp [pure, Except.pure]
  | true =>
    cases hamount : Amount.ofValue amount with
    | error e => simp [bind, Except.bind]
    | ok a =>
      cases hlt : a.lt .zero with
      -- A negative amount is left out before anyone looks at the attributes.
      | true => simp [bind, Except.bind, pure, Except.pure, hlt]
      | false =>
        cases hread : m.read with
        | false => simp [bind, Except.bind, pure, Except.pure, hlt]
        | true =>
          cases hcheck : Labels.check labels with
          | error e => simp [bind, Except.bind, hlt]
          | ok c => simp [bind, Except.bind, pure, Except.pure, hlt]

/-- Measuring does not change whether and for whom is measured. -/
theorem record_eq_ok {m m' : Meter} {i : Instrument} {labels : Labels} {amount : Value}
    (h : m.record i labels amount = .ok m') : m'.live = m.live ∧ m'.read = m.read := by
  rw [record] at h
  split at h
  · cases h
    exact ⟨rfl, rfl⟩
  -- A meter that is not live takes nothing; a live one fails, passes over the amount or counts it.
  · obtain ⟨a, -, h⟩ := Outcome.bind_eq_ok.mp h
    split at h
    · cases h
      exact ⟨rfl, rfl⟩
    · obtain ⟨-, -, h⟩ := Outcome.bind_eq_ok.mp h
      cases h
      exact ⟨rfl, rfl⟩

theorem isOk_recordDuration {m : Meter} {labels : Labels} :
    (m.record .duration labels (.int 0)).isOk = true ↔
      (m.live = true → m.read = true → (Labels.check labels).isOk = true) := by
  rw [isOk_record]
  refine imp_congr_right fun _ => ⟨?_, fun h => ⟨.whole 0, rfl, fun _ => h⟩⟩
  rintro ⟨a, ha, h⟩
  cases ha
  exact h rfl

/-- Where the attributes are in order, tokens are measured where their number can be read. -/
theorem recordTokens_eq_none {m : Meter} {labels : Labels} (usage : Value) (part kind : String)
    (hlabels : m.live = true → m.read = true → (Labels.check labels).isOk = true) :
    (m.recordTokens labels usage part kind).2 = none ↔ Countable m.live usage part := by
  have hrecord : (m.recordTokens labels usage part kind).2 = none ↔
      (usage.member part >>= m.record .tokens (labels ++ [tokenLabel kind])).isOk = true := by
    rw [recordTokens]
    cases usage.member part >>= m.record .tokens (labels ++ [tokenLabel kind]) <;> simp
  have htoken : (Labels.check [tokenLabel kind]).isOk = true := rfl
  rw [hrecord, Outcome.isOk_iff, Countable]
  constructor
  · rintro ⟨m', h⟩
    obtain ⟨n, hn, h⟩ := Outcome.bind_eq_ok.mp h
    refine ⟨n, member_eq_ok.mp hn, fun hlive => ?_⟩
    obtain ⟨a, ha, -⟩ := isOk_record.mp (Outcome.isOk_iff.mpr ⟨m', h⟩) hlive
    exact Outcome.isOk_iff.mpr ⟨a, ha⟩
  · rintro ⟨n, hn, hamount⟩
    rw [member_eq_ok.mpr hn]
    refine Outcome.isOk_iff.mp (isOk_record.mpr fun hlive => ?_)
    obtain ⟨a, ha⟩ := Outcome.isOk_iff.mp (hamount hlive)
    refine ⟨a, ha, fun _ hread => ?_⟩
    -- The kind of the tokens is one more attribute, and in order itself.
    rw [isOk_check_append, hlabels hlive hread, htoken]
    rfl

theorem recordTokens_keeps {m m' : Meter} {labels : Labels} {usage : Value} {part kind : String}
    (h : m.recordTokens labels usage part kind = (m', none)) :
    m'.live = m.live ∧ m'.read = m.read := by
  rw [recordTokens] at h
  split at h
  case h_1 m'' hm =>
    cases h
    obtain ⟨n, -, hrecord⟩ := Outcome.bind_eq_ok.mp hm
    exact record_eq_ok hrecord
  case h_2 => cases h

/-- **Measuring a response** succeeds where its attributes and its token counts are in order. -/
theorem recordRequest_eq_none {m : Meter} {labels : Labels} {response : Value} :
    (m.recordRequest labels response).2 = none ↔
      (m.live = true → m.read = true → (Labels.check labels).isOk = true)
        ∧ ((response.field "usage").truthy = true →
          Countable m.live (response.field "usage") "prompt_tokens"
            ∧ Countable m.live (response.field "usage") "completion_tokens") := by
  rw [recordRequest, ← isOk_recordDuration]
  cases hduration : m.record .duration labels (.int 0) with
  | error e => simp
  | ok m₁ =>
    obtain ⟨hlive, hread⟩ := record_eq_ok hduration
    have hlabels : m₁.live = true → m₁.read = true → (Labels.check labels).isOk = true := by
      rw [hlive, hread]
      exact isOk_recordDuration.mp (Outcome.isOk_iff.mpr ⟨m₁, hduration⟩)
    by_cases htruthy : (response.field "usage").truthy = true
    -- The meter changes twice on the way, each time into one that measures for the same readers.
    · simp only [htruthy, if_true, Outcome.isOk_ok, true_and, true_implies]
      rw [← hlive, ← recordTokens_eq_none _ "prompt_tokens" "input" hlabels]
      rcases htokens : m₁.recordTokens labels (response.field "usage") "prompt_tokens" "input"
        with ⟨m₂, _ | e⟩
      · obtain ⟨hlive₂, hread₂⟩ := recordTokens_keeps htokens
        rw [← hlive₂, ← hread₂] at hlabels
        rw [← hlive₂, ← recordTokens_eq_none _ "completion_tokens" "output" hlabels]
        simp
      · simp
    · simp [htruthy]

end Meter

/-! ### Observing responses -/

namespace Observer

/-- The first thing that a caller sees is that measuring failed, the second that telling did. -/
theorem result_observe_eq (o : Observer) (u : Url) (response : Value) :
    (o.observe u (.ok response)).result =
      match (o.meter.recordRequest (measuredLabels u (o.follow u (.ok response)).2.2 response)
          response).2 <|> (o.follow u (.ok response)).2.2 with
      | some e => .error e
      | none => .ok response := rfl

/-- A failure of the request itself is what the caller sees. -/
theorem result_observe_error (o : Observer) (u : Url) (e : Failure) :
    (o.observe u (.error e)).result = .error e := by
  have hlabels : (Labels.check (measuredLabels u (some e) .null)).isOk = true :=
    (isOk_check_measuredLabels u (some e) .null).mpr fun part _ => rfl
  have hmeasured : (o.meter.recordRequest (measuredLabels u (some e) .null) .null).2 = none :=
    Meter.recordRequest_eq_none.mpr ⟨fun _ _ => hlabels, fun h => by cases h⟩
  show (match (o.meter.recordRequest (measuredLabels u (some e) .null) .null).2 <|> some e with
    | some e => Except.error e
    | none => .error e) = .error e
  rw [hmeasured]
  rfl

/-- **What can be observed.** The caller of an instrumented client sees the response where it is
`Observable`, and a failure everywhere else. -/
theorem result_observe (o : Observer) (u : Url) {response : Value}
    (hdict : ∀ es, response ≠ .dict es) :
    (o.observe u (.ok response)).result = .ok response ↔
      Observable o.meter.live o.meter.read response := by
  have hresult : (o.observe u (.ok response)).result = .ok response ↔
      (o.follow u (.ok response)).2.2 = none
        ∧ (o.meter.recordRequest (measuredLabels u (o.follow u (.ok response)).2.2 response)
            response).2 = none := by
    rw [result_observe_eq]
    rcases o.follow u (.ok response) with ⟨span, records, failure⟩
    rcases o.meter.recordRequest (measuredLabels u failure response) response with ⟨m, _ | e⟩
    · cases failure <;> simp
    · simp
  rw [hresult, follow_eq_none, Meter.recordRequest_eq_none, isOk_check_measuredLabels,
    EventRecord.ofResponse_eq_none, describe_eq_none, usageLabels_eq_none]
  constructor
  · rintro ⟨⟨-, hchoices⟩, hlabels, hcounts⟩
    exact ⟨hchoices, hcounts, hlabels⟩
  -- Describing asks for less than telling and measuring do, so that it never decides alone.
  · rintro ⟨hchoices, hcounts, hlabels⟩
    refine ⟨⟨fun _ => ⟨isOk_reasonLabels hdict hchoices, fun htruthy => ?_⟩, hchoices⟩,
      hlabels, hcounts⟩
    obtain ⟨⟨p, hp, -⟩, ⟨c, hc, -⟩⟩ := hcounts htruthy
    rw [hp, hc]
    exact ⟨rfl, rfl⟩

end Observer

/-! ### Failures of observing -/

/-- A value used as what it is not, in one of the ways in which observing does so. -/
inductive Misfit : Failure → Prop where
  | noAttribute (type name : String) : Misfit (.misuse (.noAttribute type name))
  | notIterable (type : String) : Misfit (.misuse (.notIterable type))
  | unhashable (type : String) : Misfit (.misuse (.unhashable type))
  | notOrdered (left right : String) : Misfit (.misuse (.notOrdered left right))

/-- Whatever fails, fails with a misfit. -/
def FailsWithMisfit {α : Type} (x : Except Failure α) : Prop := ∀ e, x = .error e → Misfit e

namespace FailsWithMisfit

variable {α β : Type} {x : Except Failure α}

theorem ok (a : α) : FailsWithMisfit (.ok a : Except Failure α) := fun _ h => by cases h

theorem bind {f : α → Except Failure β} (hx : FailsWithMisfit x)
    (hf : ∀ a, FailsWithMisfit (f a)) : FailsWithMisfit (x >>= f) := by
  intro e h
  rcases Outcome.bind_eq_error.mp h with h | ⟨a, -, h⟩
  · exact hx e h
  · exact hf a e h

theorem map {f : α → β} (hx : FailsWithMisfit x) : FailsWithMisfit (x.map f) :=
  fun e h => hx e (Outcome.map_eq_error.mp h)

theorem mapM {f : β → Except Failure α} (hf : ∀ b, FailsWithMisfit (f b)) (bs : List β) :
    FailsWithMisfit (bs.mapM f) := by
  induction bs with
  | nil => exact ok []
  | cons b bs ih =>
    rw [List.mapM_cons]
    exact (hf b).bind fun a => ih.bind fun as => ok _

theorem member (v : Value) (name : String) : FailsWithMisfit (v.member name) := by
  intro e h
  rw [Value.member] at h
  split at h
  · cases h
  · cases h
    exact .noAttribute _ _

theorem elements (v : Value) : FailsWithMisfit v.elements := by
  intro e h
  cases v <;> cases h <;> exact .notIterable _

theorem toolCalls (captures : Bool) (message : Value) :
    FailsWithMisfit (EventRecord.toolCalls captures message) := by
  rw [EventRecord.toolCalls]
  split
  · exact ok _
  · exact (elements _).map

theorem messageFields (captures : Bool) (message : Value) :
    FailsWithMisfit (EventRecord.messageFields captures message) :=
  (member _ _).bind fun _ => (toolCalls _ _).bind fun _ => ok _

theorem messageField (captures : Bool) (message : Value) :
    FailsWithMisfit (EventRecord.messageField captures message) := by
  rw [EventRecord.messageField]
  split
  · exact (messageFields _ _).map
  · exact ok _

theorem finishReason (choice : Value) : FailsWithMisfit (EventRecord.finishReason choice) :=
  (member _ _).map

theorem choiceIndex (choice : Value) : FailsWithMisfit (EventRecord.choiceIndex choice) := by
  rw [EventRecord.choiceIndex.eq_def]
  split
  · exact ok _
  · exact ok _
  · exact member _ _

theorem ofChoice (captures : Bool) (choice : Value) :
    FailsWithMisfit (EventRecord.ofChoice captures choice) :=
  (choiceIndex _).bind fun _ => (finishReason _).bind fun _ => (member _ _).bind fun _ =>
    (messageField _ _).bind fun _ => ok _

theorem reasonLabels (response : Value) : FailsWithMisfit (Telemetry.reasonLabels response) := by
  rw [Telemetry.reasonLabels]
  split
  · exact (elements _).bind fun _ => (mapM finishReason _).bind fun _ => ok _
  · exact ok _

theorem amount (v : Value) : FailsWithMisfit (Amount.ofValue v) := by
  intro e h
  rw [Amount.ofValue.eq_def] at h
  split at h
  · cases h
  · cases h
  · cases h
    exact .notOrdered _ _

theorem check (labels : Labels) : FailsWithMisfit (Labels.check labels) := by
  -- The first attribute that is a list or a dictionary is the failure.
  induction labels with
  | nil => exact ok ()
  | cons l ls ih =>
    obtain ⟨name, v⟩ := l
    cases v with
    | list | dict =>
      intro e h
      cases h
      exact .unhashable _
    | _ => exact ih

theorem record (m : Meter) (i : Instrument) (labels : Labels) (v : Value) :
    FailsWithMisfit (m.record i labels v) := by
  rw [Meter.record]
  split
  · exact ok _
  · refine (amount v).bind fun a => ?_
    split
    · exact ok _
    · exact (check labels).bind fun _ => ok _

end FailsWithMisfit

namespace Misfit

theorem of_ofChoices {captures : Bool} {cs : List Value} {e : Failure}
    (h : (EventRecord.ofChoices captures cs).2 = some e) : Misfit e := by
  induction cs with
  | nil => cases h
  | cons c cs ih =>
    rw [EventRecord.ofChoices] at h
    cases hc : EventRecord.ofChoice captures c with
    -- The first choice that cannot be told is the one that is complained about.
    | error e' =>
      rw [hc] at h
      cases h
      exact FailsWithMisfit.ofChoice captures c e hc
    | ok r =>
      rw [hc] at h
      exact ih h

theorem of_ofResponse {captures : Bool} {response : Value} {e : Failure}
    (h : (EventRecord.ofResponse captures response).2 = some e) : Misfit e := by
  rw [EventRecord.ofResponse] at h
  split at h
  · cases h
  · split at h
    case h_1 e' helements =>
      cases h
      exact FailsWithMisfit.elements _ e helements
    case h_2 => exact of_ofChoices h

theorem of_usageLabels {response : Value} {e : Failure}
    (h : (usageLabels response).2 = some e) : Misfit e := by
  rw [usageLabels] at h
  split at h
  · split at h
    -- Both counts are asked for, so either can be the missing one.
    case h_1 e' _ hprompt =>
      cases h
      exact FailsWithMisfit.member _ _ e hprompt
    case h_2 _ _ hcompletion =>
      cases h
      exact FailsWithMisfit.member _ _ e hcompletion
    case h_3 => cases h
  · cases h

theorem of_describe {response : Value} {e : Failure}
    (h : (describe response).2 = some e) : Misfit e := by
  rw [describe] at h
  cases hreasons : reasonLabels response with
  | error e' =>
    rw [hreasons] at h
    cases h
    exact FailsWithMisfit.reasonLabels response e hreasons
  | ok reasons =>
    rw [hreasons] at h
    exact of_usageLabels h

theorem of_follow {o : Observer} {u : Url} {response : Value} {e : Failure}
    (h : (o.follow u (.ok response)).2.2 = some e) : Misfit e := by
  rw [Observer.follow] at h
  -- Without a span that records, the response is not described at all.
  cases hrecorded : o.tracer.recorded with
  | false =>
    rw [hrecorded] at h
    exact of_ofResponse h
  | true =>
    rw [hrecorded] at h
    rcases hdescribe : describe response with ⟨labels, _ | e'⟩
    · rw [hdescribe] at h
      exact of_ofResponse h
    · rw [hdescribe] at h
      cases h
      exact of_describe (congrArg Prod.snd hdescribe)

theorem of_recordTokens {m : Meter} {labels : Labels} {usage : Value} {part kind : String}
    {e : Failure} (h : (m.recordTokens labels usage part kind).2 = some e) : Misfit e := by
  rw [Meter.recordTokens] at h
  split at h
  case h_1 => cases h
  case h_2 e' hrecord =>
    cases h
    exact ((FailsWithMisfit.member _ _).bind fun n => FailsWithMisfit.record _ _ _ n) e hrecord

theorem of_recordRequest {m : Meter} {labels : Labels} {response : Value} {e : Failure}
    (h : (m.recordRequest labels response).2 = some e) : Misfit e := by
  rw [Meter.recordRequest] at h
  -- The duration is recorded first, then the tokens, as far as there are any.
  cases hduration : m.record .duration labels (.int 0) with
  | error e' =>
    rw [hduration] at h
    cases h
    exact FailsWithMisfit.record _ _ _ _ e hduration
  | ok m₁ =>
    rw [hduration] at h
    dsimp only at h
    split at h
    · rcases htokens : m₁.recordTokens labels (response.field "usage") "prompt_tokens" "input"
        with ⟨m₂, _ | e'⟩
      · rw [htokens] at h
        exact of_recordTokens h
      · rw [htokens] at h
        cases h
        exact of_recordTokens (congrArg Prod.snd htokens)
    · cases h

theorem of_observe {o : Observer} {u : Url} {response : Value} {e : Failure}
    (h : (o.observe u (.ok response)).result = .error e) : Misfit e := by
  rw [Observer.result_observe_eq] at h
  rcases hfollow : o.follow u (.ok response) with ⟨span, records, failure⟩
  rw [hfollow] at h
  -- A failure of measuring hides one of telling; both are misfits.
  rcases hrecord : o.meter.recordRequest (measuredLabels u failure response) response
    with ⟨m, _ | e'⟩
  · rw [hrecord] at h
    cases failure with
    | none => cases h
    | some f =>
      cases h
      exact of_follow (congrArg (·.2.2) hfollow)
  · rw [hrecord] at h
    cases h
    exact of_recordRequest (congrArg Prod.snd hrecord)

end Misfit

/-- **Misfits only.** The caller of an instrumented client sees the response or a misfit instead. -/
theorem Observer.result_observe_cases (o : Observer) (u : Url) (response : Value) :
    (o.observe u (.ok response)).result = .ok response
      ∨ ∃ e, (o.observe u (.ok response)).result = .error e ∧ Misfit e := by
  cases hresult : (o.observe u (.ok response)).result with
  | error e => exact .inr ⟨e, rfl, Misfit.of_observe hresult⟩
  | ok v =>
    rw [result_observe_eq] at hresult
    split at hresult
    · cases hresult
    · exact .inl hresult.symm

end Telemetry
end ChatProbe
