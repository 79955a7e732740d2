import ChatProbe.Proofs.Logging.Delivery
import ChatProbe.Proofs.Outcome
/-!
# A configuration that is refused

A configuration puts its handler in place before it looks at the level, so one that is refused has changed
the root logger. What it leaves is exact (`Root.configure_refused`): the level and the handlers of others
are as they were, and the program's own handlers have given way to the new one.

Root loggers that differ in nothing but the program's own handlers **agree apart** from them
(`Root.AgreesApart`), and a refused configuration leaves such a pair. Every step of a history keeps the two
apart in nothing else and is refused for both or for none (`Root.AgreesApart.step`), and a
configuration makes them one again (`Root.AgreesApart.configure_eq`). So what a refused configuration has
changed lasts until the next one and no longer.
-/

namespace ChatProbe
namespace Logging
namespace Root

variable {s t : Root}

/-! ### Which levels are refused -/

/-- A configuration is refused where its level is no number, no truth value and no name of a level, whatever
the root logger is like. -/
theorem failure_configure_eq_none_iff (s : Root) (level format : Value) (stream : Option String) :
    (s.configure level format stream).2.2 = none
      ↔ (∃ n, level = .int n) ∨ (∃ b, level = .bool b)
        ∨ ∃ name ∈ levelNumbers.map (·.1), level = .str name := by
  -- The handler is installed before the level is looked at, so the level alone decides.
  have hfailure : (s.configure level format stream).2.2 = none ↔ ∃ t, thresholdOf level = .ok t := by
    unfold configure
    cases thresholdOf level with
    | ok t => exact ⟨fun _ => ⟨t, rfl⟩, fun _ => rfl⟩
    | error e => exact ⟨fun h => (by cases h), fun h => (by obtain ⟨_, h⟩ := h; cases h)⟩
  rw [hfailure]
  constructor
  · rintro ⟨t, ht⟩
    unfold thresholdOf at ht
    split at ht
    · next n => exact .inl ⟨n, rfl⟩
    · next b => exact .inr (.inl ⟨b, rfl⟩)
    · next name =>
      cases hname : levelNumbers.lookup name with
      | none =>
        rw [hname] at ht
        cases ht
      | some n =>
        obtain ⟨before, after, hnumbers, -⟩ := List.lookup_eq_some_iff.mp hname
        have hmem : (name, n) ∈ levelNumbers := by
          rw [hnumbers]
          exact List.mem_append_right _ (List.mem_cons_self ..)
        exact .inr (.inr ⟨name, List.mem_map.mpr ⟨_, hmem, rfl⟩, rfl⟩)
    · -- Nothing else is taken for a level. The failure shows its text, if it has one.
      obtain ⟨_, -, hthrow⟩ := Outcome.bind_eq_ok.mp ht
      cases hthrow
  · rintro (⟨n, rfl⟩ | ⟨b, rfl⟩ | ⟨name, hname, rfl⟩)
    · exact ⟨.number n, rfl⟩
    · exact ⟨.flag b, rfl⟩
    · rw [thresholdOf]
      cases hlookup : levelNumbers.lookup name with
      | none =>
        obtain ⟨e, he, rfl⟩ := List.mem_map.mp hname
        have hne := List.lookup_eq_none_iff.mp hlookup e he
        rw [bne_self_eq_false] at hne
        cases hne
      | some n => exact ⟨.number n, rfl⟩

/-! ### Roots that differ in the program's own handlers -/

/-- Two root loggers that differ in nothing but the program's own handlers. -/
structure AgreesApart (s t : Root) : Prop where
  level : s.level = t.level
  foreign : s.handlers.filter (fun h => !h.isOwn) = t.handlers.filter (fun h => !h.isOwn)

theorem level_configure_of_refused {level format : Value} {stream : Option String}
    (hrefused : (s.configure level format stream).2.2 ≠ none) :
    (s.configure level format stream).2.1.level = s.level := by
  unfold configure at hrefused ⊢
  cases hlevel : thresholdOf level with
  | ok t =>
    rw [hlevel] at hrefused
    exact absurd rfl hrefused
  | error e => rfl

/-- A refused configuration changes nothing but the program's own handlers. -/
theorem agreesApart_of_refused {level format : Value} {stream : Option String}
    (hrefused : (s.configure level format stream).2.2 ≠ none) :
    AgreesApart (s.configure level format stream).2.1 s := by
  have hforeign := foreign_step s (.configure level format stream)
  exact ⟨level_configure_of_refused hrefused, hforeign.trans (List.append_nil _)⟩

/-- **A configuration** does the same to both: the new handler stands in the place of all in which they
differ. -/
theorem AgreesApart.configure_eq (h : s.AgreesApart t) (level format : Value)
    (stream : Option String) : s.configure level format stream = t.configure level format stream := by
  -- Installing drops the own handlers, in which the two may differ.
  have hinstall : s.install (ownHandler format stream) = t.install (ownHandler format stream) := by
    calc s.install (ownHandler format stream)
        = ⟨s.level, s.handlers.filter (fun g => !g.isOwn) ++ [ownHandler format stream]⟩ := rfl
      _ = ⟨t.level, t.handlers.filter (fun g => !g.isOwn) ++ [ownHandler format stream]⟩ := by
          rw [h.level, h.foreign]
      _ = t.install (ownHandler format stream) := rfl
  unfold configure
  dsimp only
  rw [hinstall]

/-- Behind a configuration there is one root logger only. -/
theorem AgreesApart.step_eq (h : s.AgreesApart t) {a : Step} (ha : a.own? ≠ none) :
    s.step a = t.step a := by
  cases a with
  | configure level format stream => rw [Root.step, Root.step, h.configure_eq]
  | attach | call | log => exact absurd rfl ha

/-- Whether a structured call is refused is a matter of the call alone. -/
theorem failure_step_call (s : Root) (stamp : Stamp) (c : Call) :
    (s.step (.call stamp c)).2.failure = match c.number with
      | .ok _ => none
      | .error e => some e := by
  rw [step, Root.call]
  cases c.number with
  | error e => rfl
  | ok n =>
    cases n with
    | none => rfl
    | some level => rfl

/-- **A step** keeps them apart in nothing else, and is refused for both or for none. -/
theorem AgreesApart.step (h : s.AgreesApart t) (a : Step) :
    AgreesApart (s.step a).1 (t.step a).1 ∧ (s.step a).2.failure = (t.step a).2.failure := by
  -- Every step treats the handlers of others alike.
  have hforeign : (s.step a).1.handlers.filter (fun g => !g.isOwn)
      = (t.step a).1.handlers.filter (fun g => !g.isOwn) := by
    rw [foreign_step, foreign_step, h.foreign]
  cases a with
  | configure level format stream =>
    have hown : (Step.configure level format stream).own? ≠ none := Option.some_ne_none _
    rw [h.step_eq hown]
    exact ⟨⟨rfl, rfl⟩, rfl⟩
  | attach g => exact ⟨⟨h.level, hforeign⟩, rfl⟩
  | call stamp c =>
    refine ⟨⟨?_, hforeign⟩, by rw [failure_step_call, failure_step_call]⟩
    rw [step_call_fst, step_call_fst, h.level]
  | log r => exact ⟨⟨h.level, hforeign⟩, rfl⟩

/-- **A history** is refused at the same steps for both. -/
theorem AgreesApart.failures_run (h : s.AgreesApart t) (ss : List Step) :
    (s.run ss).2.map Reply.failure = (t.run ss).2.map Reply.failure := by
  induction ss generalizing s t with
  | nil => rfl
  | cons a ss ih =>
    obtain ⟨hnext, hfailure⟩ := h.step a
    rw [run_cons, run_cons, List.map_cons, List.map_cons, hfailure, ih hnext]

/-- **A history** with a configuration leaves both the same. -/
theorem AgreesApart.run_eq (h : s.AgreesApart t) {ss : List Step}
    (hconfigured : ∃ a ∈ ss, a.own? ≠ none) : (s.run ss).1 = (t.run ss).1 := by
  induction ss generalizing s t with
  | nil =>
    obtain ⟨a, ha, -⟩ := hconfigured
    cases ha
  | cons a ss ih =>
    rw [run_cons, run_cons]
    -- The first configuration makes the two the same; up to it they agree apart.
    by_cases hown : a.own? = none
    · obtain ⟨b, hb, hbown⟩ := hconfigured
      rcases List.mem_cons.mp hb with rfl | hb
      · exact absurd hown hbown
      · exact ih (h.step a).1 ⟨b, hb, hbown⟩
    · rw [h.step_eq hown]

/-- **What a refused configuration leaves.** Take a root logger with any level and any handlers, and a
configuration that is refused. The level is what it was. The handlers that do not bear the program's name are
what they were, in the order in which they stood; those that do are gone, and the new one stands behind the
others. Whatever happens then, the same steps are refused as if the configuration had never been tried, and
from the next configuration on the root logger is the same as well. -/
theorem configure_refused (s : Root) (level format : Value) (stream : Option String)
    (hrefused : (s.configure level format stream).2.2 ≠ none) :
    let t := (s.configure level format stream).2.1
    t.level = s.level
      ∧ t.handlers = s.handlers.filter (fun h => h.name != some handlerName)
          ++ [⟨some handlerName, stream.getD standardError,
            if format.toText? = some "json" then .json else .text⟩]
      ∧ ∀ ss, (t.run ss).2.map Reply.failure = (s.run ss).2.map Reply.failure
          ∧ ((∃ a ∈ ss, a.own? ≠ none) → (t.run ss).1 = (s.run ss).1) := by
  intro t
  -- All that comes later follows from how the two roots differ now.
  have hagrees : t.AgreesApart s := agreesApart_of_refused hrefused
  refine ⟨hagrees.level, handlers_configure s level format stream, fun ss => ?_⟩
  exact ⟨hagrees.failures_run ss, hagrees.run_eq⟩

/-- A list is no level. Of three handlers the foreign one stays, and the next configuration is as good as if
nothing had been tried. -/
theorem configure_refused_list :
    let s : Root := ⟨.flag true, [⟨some handlerName, "a", .json⟩, ⟨some "x", "b", .bare⟩,
      ⟨some handlerName, "c", .text⟩]⟩
    let t := (s.configure (.list [.null]) (.str "JSON") none).2.1
    let next : Step := .configure (.str "DEBUG") (.str "json") (some "d")
    (s.configure (.list [.null]) (.str "JSON") none).2.2 ≠ none
      ∧ t.level = .flag true
      ∧ t.handlers = [⟨some "x", "b", .bare⟩, ⟨some handlerName, "stderr", .text⟩]
      ∧ (t.run [next]).1 = (s.run [next]).1 := by
  intro s t next
  -- A list is no level.
  have hrefused : (s.configure (.list [.null]) (.str "JSON") none).2.2 ≠ none := by
    rw [Ne, failure_configure_eq_none_iff]
    simp
  obtain ⟨hlevel, hhandlers, hlater⟩ := configure_refused s (.list [.null]) (.str "JSON") none hrefused
  refine ⟨hrefused, hlevel, hhandlers, (hlater [next]).2 ⟨next, List.mem_cons_self .., ?_⟩⟩
  exact Option.some_ne_none _

/-- A level that has no such name is refused, and the handler of the earlier configuration is gone. -/
theorem changed_by_refused :
    let s := (initial.configure (.str "INFO") (.str "json") (some "a")).2.1
    let attempt := s.configure (.str "VERBOSE") (.str "json") (some "b")
    attempt.2.2.isSome = true ∧ attempt.2.1.handlers ≠ s.handlers := by
  intro s attempt
  exact ⟨by cbv, by decide⟩

end Root
end Logging
end ChatProbe
