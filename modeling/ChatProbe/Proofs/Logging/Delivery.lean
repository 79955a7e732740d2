import Mathlib
import ChatProbe.Logging.History
/-!
# What every history delivers

A log neither loses nor repeats a record, and it never writes to a stream that has been given up. The
main statement is `Root.run_delivers`, about an arbitrary history behind a clean start.

The proof is invariant reasoning along the history. `Root.Reflects ss s` says that a root logger `s` has
just the handlers that the history `ss` speaks of: the foreign ones in their order, and the program's
own one of the latest configuration, if there was any. Every step keeps it (`Root.Reflects.step`): no step
takes a foreign handler away (`Root.foreign_step`), and only a configuration touches the program's own
ones (`Root.own_step`).

What one record leads to is read off the handlers that are there at the time. Each of them has one text
for its stream or none (`Handler.delivery?`), so that what reaches a stream is settled by the attached
handlers that write to it (`Delivers`), in whatever order they stand.
-/

namespace ChatProbe
namespace Logging

/-! ### What one handler delivers -/

namespace Handler

/-- Whether a handler bears the name of the program's own. -/
def isOwn (h : Handler) : Bool := h.name == some handlerName

/-- The text that a handler has for a record: its line with a line end, if it can write the record. -/
def text? (h : Handler) (r : Record) : Option Str :=
  (h.format.line r).toOption.map (· ++ "\n")

/-- What a handler hands to its stream. -/
def delivery? (h : Handler) (r : Record) : Option (String × Str) :=
  (h.text? r).map fun text => (h.stream, text)

theorem write_eq_toList (h : Handler) (r : Record) :
    Root.Handler.write h r = (h.delivery? r).toList := by
  unfold Root.Handler.write delivery? text?
  cases h.format.line r with
  | ok line => rfl
  | error e => rfl

theorem isSome_text? (h : Handler) (r : Record) : (h.text? r).isSome = (h.format.line r).isOk := by
  unfold text?
  cases h.format.line r with
  | ok line => rfl
  | error e => rfl

end Handler

theorem isOwn_ownHandler (format : Value) (stream : Option String) :
    (Root.ownHandler format stream).isOwn = true := beq_self_eq_true _

theorem ForeignHandler.isOwn_eq_false (h : ForeignHandler) : h.isOwn = false :=
  beq_false_of_ne h.foreign

/-! ### Streams -/

/-- The records that are written to a stream, in order. -/
def Written.records (w : Written) (stream : String) : List Str :=
  (w.filter fun p => p.1 == stream).map (·.2)

/-- **Delivery** of a record by handlers: what is written is what these handlers have for it. -/
structure Delivers (hs : List Handler) (r : Record) (w : Written) : Prop where
  /-- To each stream goes one record with its line end from each handler on this stream that can
  write it, and nothing else. -/
  once : ∀ stream, (w.records stream).Perm
    ((hs.filter fun h => h.stream == stream).filterMap fun h => h.text? r)
  /-- Where all of them can write it, each stream gets as many records as it has handlers. -/
  complete : (∀ h ∈ hs, (h.format.line r).isOk = true) →
    ∀ stream, (w.records stream).length = hs.countP fun h => h.stream == stream
  /-- A stream gets nothing where it has no handler that can write the record. -/
  silent : ∀ stream, (∀ h ∈ hs, h.stream = stream → (h.format.line r).isOk = false) →
    w.records stream = []

/-- The records on a stream are those of its handlers. -/
theorem records_filterMap_delivery? (hs : List Handler) (r : Record) (stream : String) :
    Written.records (hs.filterMap fun h => h.delivery? r) stream
      = (hs.filter fun h => h.stream == stream).filterMap fun h => h.text? r := by
  -- Both sides ask each handler for its text, where the handler is on the stream.
  have hask : ∀ h : Handler, (((h.delivery? r).filter fun p => p.1 == stream).map fun p => p.2)
      = if h.stream == stream then h.text? r else none := by
    intro h
    rw [Handler.delivery?]
    cases h.text? r with
    | none => cases h.stream == stream <;> rfl
    | some text =>
      rw [Option.map_some, Option.filter_some]
      cases h.stream == stream <;> rfl
  calc Written.records (hs.filterMap fun h => h.delivery? r) stream
      = hs.filterMap fun h => ((h.delivery? r).filter fun p => p.1 == stream).map fun p => p.2 := by
        rw [Written.records, List.filter_filterMap, List.map_filterMap]
    _ = hs.filterMap fun h => if h.stream == stream then h.text? r else none := by
        rw [funext hask]
    _ = (hs.filter fun h => h.stream == stream).filterMap fun h => h.text? r :=
        List.filterMap_filter.symm

/-- Handlers that can all write a record have one text each. -/
theorem length_filterMap_text? {hs : List Handler} {r : Record}
    (hall : ∀ h ∈ hs, (h.format.line r).isOk = true) :
    (hs.filterMap fun h => h.text? r).length = hs.length := by
  rw [List.length_filterMap_eq_countP, List.countP_eq_length]
  intro h hh
  rw [Handler.isSome_text?]
  exact hall h hh

/-- What handlers write, in whatever order, delivers the record. -/
theorem Delivers.of_perm {hs : List Handler} {r : Record} {w : Written}
    (h : w.Perm (hs.filterMap fun h => h.delivery? r)) : Delivers hs r w := by
  -- A stream gets what the handlers on it make of the record, in some order.
  have honce : ∀ stream, (w.records stream).Perm
      ((hs.filter fun h => h.stream == stream).filterMap fun h => h.text? r) := by
    intro stream
    rw [← records_filterMap_delivery?]
    exact (h.filter _).map _
  refine ⟨honce, fun hall stream => ?_, fun stream hnone => ?_⟩
  · calc (w.records stream).length
        = ((hs.filter fun h => h.stream == stream).filterMap fun h => h.text? r).length :=
          (honce stream).length_eq
      _ = (hs.filter fun h => h.stream == stream).length :=
          length_filterMap_text? fun g hg => hall g (List.mem_of_mem_filter hg)
      _ = hs.countP fun h => h.stream == stream := List.countP_eq_length_filter.symm
  · have hempty : ((hs.filter fun h => h.stream == stream).filterMap fun h => h.text? r) = [] := by
      rw [List.filterMap_eq_nil_iff]
      intro g hg
      obtain ⟨hmem, hstream⟩ := List.mem_filter.mp hg
      rw [← Option.not_isSome_iff_eq_none, Handler.isSome_text?, hnone g hmem (beq_iff_eq.mp hstream)]
      exact Bool.false_ne_true
    have hperm := honce stream
    rw [hempty] at hperm
    exact hperm.eq_nil

/-! ### The handlers of a history -/

theorem foreignHandlers_append (ss : List Step) (a : Step) :
    foreignHandlers (ss ++ [a]) = foreignHandlers ss ++ a.foreign?.toList := by
  rw [foreignHandlers, List.filterMap_append, foreignHandlers]
  cases a <;> rfl

theorem latest?_append (ss : List Step) (a : Step) :
    latest? (ss ++ [a]) = a.own?.or (latest? ss) := by
  rw [latest?, List.filterMap_append, List.getLast?_append, latest?]
  cases a <;> rfl

namespace Root

variable {s : Root} {ss : List Step}

/-- The handler that a configuration makes does not depend on whether its level is accepted. -/
theorem configure_fst (s : Root) (level format : Value) (stream : Option String) :
    (s.configure level format stream).1 = ownHandler format stream := by
  unfold configure
  cases thresholdOf level with
  | ok t => rfl
  | error e => rfl

/-- A configuration leaves the foreign handlers as they stand and puts the new one behind them. -/
theorem handlers_configure (s : Root) (level format : Value) (stream : Option String) :
    (s.configure level format stream).2.1.handlers
      = s.handlers.filter (fun h => !h.isOwn) ++ [ownHandler format stream] := by
  unfold configure
  cases thresholdOf level with
  | ok t => rfl
  | error e => rfl

/-- A structured call changes nothing, whether it is refused or not. -/
theorem step_call_fst (s : Root) (stamp : Stamp) (c : Call) : (s.step (.call stamp c)).1 = s := by
  rw [step]
  cases s.call stamp c with
  | ok written => rfl
  | error e => rfl

/-- **A step takes no foreign handler away**, and puts the one that it adds behind the others. -/
theorem foreign_step (s : Root) (a : Step) :
    (s.step a).1.handlers.filter (fun h => !h.isOwn)
      = s.handlers.filter (fun h => !h.isOwn) ++ a.foreign?.toList := by
  cases a with
  -- The own handler is taken out and put back in, and neither shows here.
  | configure level format stream =>
    have hown := isOwn_ownHandler format stream
    show (s.configure level format stream).2.1.handlers.filter _ = _ ++ []
    rw [handlers_configure, List.filter_append, List.filter_filter,
      List.filter_cons_of_neg (by rw [hown]; exact Bool.false_ne_true), List.filter_nil]
    simp only [Bool.and_self]
  | attach h =>
    have hforeign := h.isOwn_eq_false
    show (s.handlers ++ [h.toHandler]).filter _ = _ ++ [h.toHandler]
    rw [List.filter_append, List.filter_cons_of_pos (by rw [hforeign]; rfl), List.filter_nil]
  | call stamp c =>
    rw [step_call_fst]
    exact (List.append_nil _).symm
  | log r => exact (List.append_nil _).symm

/-- **A step leaves the own handlers alone**, except that it installs its own in the place of all. -/
theorem own_step (s : Root) (a : Step) :
    (s.step a).1.handlers.filter (fun h => h.isOwn)
      = (a.own?.map fun h => [h]).getD (s.handlers.filter fun h => h.isOwn) := by
  cases a with
  | configure level format stream =>
    have hown := isOwn_ownHandler format stream
    show (s.configure level format stream).2.1.handlers.filter _ = [ownHandler format stream]
    rw [handlers_configure, List.filter_append, List.filter_filter, List.filter_cons_of_pos hown,
      List.filter_nil]
    simp only [Bool.and_not_self, List.filter_false, List.nil_append]
  -- A handler of someone else is none of the program's own.
  | attach h =>
    have hforeign := h.isOwn_eq_false
    show (s.handlers ++ [h.toHandler]).filter _ = s.handlers.filter _
    rw [List.filter_append, List.filter_cons_of_neg (by rw [hforeign]; exact Bool.false_ne_true),
      List.filter_nil, List.append_nil]
  | call stamp c =>
    rw [step_call_fst]
    rfl
  | log r => rfl

/-- The handlers of a root logger are those that a history speaks of. -/
structure Reflects (ss : List Step) (s : Root) : Prop where
  /-- The foreign handlers are all there, in the order in which they came. -/
  foreign : s.handlers.filter (fun h => !h.isOwn) = foreignHandlers ss
  /-- Of the program's own handlers, the latest one is there and no other. -/
  own : s.handlers.filter (fun h => h.isOwn) = (latest? ss).toList

theorem Reflects.initial : Reflects [] initial := ⟨rfl, rfl⟩

/-- **A step** leaves the handlers that the longer history speaks of. -/
theorem Reflects.step (hs : Reflects ss s) (a : Step) : Reflects (ss ++ [a]) (s.step a).1 := by
  refine ⟨?_, ?_⟩
  · rw [foreign_step, foreignHandlers_append, hs.foreign]
  · rw [own_step, latest?_append, hs.own]
    cases a.own? with
    | none => rfl
    | some h => rfl

theorem run_append_singleton (s : Root) (ss : List Step) (a : Step) :
    (s.run (ss ++ [a])).1 = ((s.run ss).1.step a).1 := by
  induction ss generalizing s with
  | nil => rfl
  | cons b ss ih => exact ih (s.step b).1

/-- **A history** leaves the handlers that it speaks of. -/
theorem reflects_run (ss : List Step) : Reflects ss (initial.run ss).1 := by
  induction ss using List.reverseRecOn with
  | nil => exact .initial
  | append_singleton ss a ih =>
    rw [run_append_singleton]
    exact ih.step a

/-- The handlers are those that are attached, in some order. -/
theorem Reflects.perm (hs : Reflects ss s) : s.handlers.Perm (attached ss) := by
  have hsplit := List.filter_append_perm (fun h : Handler => !h.isOwn) s.handlers
  simp only [Bool.not_not] at hsplit
  rw [hs.foreign, hs.own] at hsplit
  exact hsplit.symm

/-! ### Records -/

theorem emit_of_not_enabled {r : Record} (h : s.enabled r.level = false) : s.emit r = [] := by
  rw [emit, h]
  rfl

/-- A record that is not below the level goes to every handler. -/
theorem emit_of_enabled {r : Record} (h : s.enabled r.level = true) (hne : s.handlers ≠ []) :
    s.emit r = s.handlers.filterMap fun h => h.delivery? r := by
  have hempty : s.handlers.isEmpty = false := by simpa using hne
  have hwrite : (fun h : Handler => Handler.write h r) = fun h => (h.delivery? r).toList :=
    funext fun h => h.write_eq_toList r
  rw [emit, h, hempty]
  show s.handlers.flatMap (fun h => Handler.write h r) = _
  rw [hwrite, List.filterMap_eq_flatMap_toList]

/-- A structured call at a level hands its record to the root logger. -/
theorem step_call {stamp : Stamp} {c : Call} {level : Int} (h : c.number = .ok (some level)) :
    s.step (.call stamp c) = (s, ⟨s.emit (c.record stamp level), none⟩) := by
  have hcall : s.call stamp c = .ok (s.emit (c.record stamp level)) := by
    rw [Root.call, h]
    rfl
  rw [Root.step, hcall]

/-- **No loss, no duplication, no stale stream.** Take any history of configurations, foreign handlers and
log calls from a clean start.

A configuration that comes next, whether its level is accepted or refused, leaves all foreign handlers in
the order in which they came and behind them the handler that it has just made, the only one of that name.

A structured call that comes next, at one of the levels from DEBUG to CRITICAL, is not refused, whether
the handlers can write its record or not. Below the level of the root logger it writes nothing. Otherwise,
where any handler is attached, its record is delivered by the foreign handlers and the one of the latest
configuration. -/
theorem run_delivers (ss : List Step) :
    let s := (initial.run ss).1
    (∀ level format stream,
        let h := (s.configure level format stream).1
        let t := (s.step (.configure level format stream)).1
        h.name = some handlerName ∧ h.stream = stream.getD standardError
          ∧ t.handlers = foreignHandlers ss ++ [h]
          ∧ t.handlers.filter (fun g => g.name == some handlerName) = [h])
      ∧ ∀ stamp c level, c.number = .ok (some level) → 10 ≤ level →
          let reply := (s.step (.call stamp c)).2
          reply.failure = none
            ∧ (level < s.level.toInt → reply.written = [])
            ∧ (s.level.toInt ≤ level → attached ss ≠ [] →
                Delivers (attached ss) (c.record stamp level) reply.written) := by
  intro s
  have hs : Reflects ss s := reflects_run ss
  refine ⟨fun level format stream => ?_, fun stamp c level hnumber hlevel => ?_⟩
  · have hmade := s.configure_fst level format stream
    have hown := (hs.step (.configure level format stream)).own
    -- The configuration is the latest step by then, so its handler is the only own one.
    rw [latest?_append] at hown
    intro h t
    refine ⟨congrArg Handler.name hmade, congrArg Handler.stream hmade, ?_, ?_⟩
    · show (s.configure level format stream).2.1.handlers = _
      rw [handlers_configure, hs.foreign, ← hmade]
    · show t.handlers.filter _ = [(s.configure level format stream).1]
      rw [hmade]
      exact hown
  · have hrecord : (c.record stamp level).level = level := rfl
    rw [step_call hnumber]
    intro reply
    refine ⟨rfl, fun hbelow => ?_, fun habove hne => ?_⟩
    · refine emit_of_not_enabled ?_
      rw [enabled, hrecord, Bool.and_eq_false_iff, decide_eq_false_iff_not, decide_eq_false_iff_not]
      exact .inr (Int.not_le.mpr hbelow)
    · -- The root logger writes to the handlers that it has, and these are the attached ones.
      have henabled : s.enabled (c.record stamp level).level = true := by
        rw [enabled, hrecord, Bool.and_eq_true, decide_eq_true_iff, decide_eq_true_iff]
        exact ⟨by omega, habove⟩
      have hsome : s.handlers ≠ [] := by
        intro hnil
        have hperm := hs.perm
        rw [hnil] at hperm
        exact hne hperm.symm.eq_nil
      refine .of_perm ?_
      show (s.emit (c.record stamp level)).Perm _
      rw [emit_of_enabled henabled hsome]
      exact hs.perm.filterMap _

/-- The program's log was moved from one stream to another, and a field of the record has no text: the JSON
handler leaves the record out, the plain handler of someone else writes it, and the stream that was given
up gets nothing. -/
theorem run_delivers_around_unwritable :
    let ss : List Step :=
      [.configure (.str "INFO") (.str "json") (some "first"),
       .attach ⟨⟨some "audit", "audit", .bare⟩, by decide⟩,
       .configure (.str "DEBUG") (.str "json") (some "second")]
    let stamp : Stamp := ⟨⟨2024, 1, 2, 3, 4, 5, 678901⟩, 1, 2⟩
    let c : Call := ⟨"genaiprobe.test", .debug, .str "d", [("x", .textless (.valueError "no text"))]⟩
    let reply := ((initial.run ss).1.step (.call stamp c)).2
    c.number = .ok (some 10) ∧ (initial.run ss).1.level.toInt ≤ 10 ∧ attached ss ≠ []
      ∧ reply.failure = none
      ∧ reply.written.records "first" = []
      ∧ reply.written.records "second" = []
      ∧ reply.written.records "audit" = ["d\n"] := by
  intro ss stamp c reply
  have hnumber : c.number = .ok (some 10) := by cbv
  have hlevel : (initial.run ss).1.level.toInt ≤ 10 := by decide
  have hattached : attached ss ≠ [] := by
    intro h
    cases h
  obtain ⟨hfine, -, hdelivers⟩ := (run_delivers ss).2 stamp c 10 hnumber (by decide)
  have hreply := hdelivers hlevel hattached
  -- The field has no text, so the JSON handler cannot write the record.
  have hunwritable : (LineFormat.line .json (c.record stamp 10)).isOk = false := by cbv
  refine ⟨hnumber, hlevel, hattached, hfine, ?_, ?_, ?_⟩
  -- No handler is attached to the stream that was given up.
  · refine hreply.silent "first" fun h hh hstream => ?_
    rcases List.mem_cons.mp hh with rfl | hh
    · exact absurd hstream (by decide)
    · obtain rfl := List.mem_singleton.mp hh
      exact absurd hstream (by decide)
  · refine hreply.silent "second" fun h hh hstream => ?_
    rcases List.mem_cons.mp hh with rfl | hh
    · exact absurd hstream (by decide)
    · obtain rfl := List.mem_singleton.mp hh
      exact hunwritable
  · exact List.perm_singleton.mp (hreply.once "audit")

end Root

end Logging
end ChatProbe
