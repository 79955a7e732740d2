import Mathlib.Data.List.Basic
import ChatProbe.Proofs.Telemetry.Visits
/-!
# How the spans of a traced program nest

The spans of a program are the blocks that it enters. Read off the forest of its visits: one span for
each block entered, numbered as they are opened; each opened in the innermost block that was open; each
ended once, behind all spans opened inside it; and an exception that ends the body of a block leaves it
as it is, and is recorded on its span if it is an ordinary one (`runAll_nests`).

An exception that is no ordinary one, such as an interrupt, leaves its blocks without any record
(`interrupt_unrecorded`).
-/

namespace ChatProbe
namespace Telemetry

namespace Visit

mutual

/-- Both orders visit the same blocks. -/
theorem postorder_perm : ∀ v : Visit, v.postorder.Perm v.preorder
  | ⟨position, parent, name, flight, inner⟩ => by
    rw [postorder, preorder]
    exact (List.perm_append_singleton _ _).trans ((postorderAll_perm inner).cons _)

/-- `postorder_perm` one visit after the other. -/
theorem postorderAll_perm : ∀ vs : List Visit, (postorderAll vs).Perm (preorderAll vs)
  | [] => .refl _
  | v :: vs => (postorder_perm v).append (postorderAll_perm vs)

end

/-- Whether the blocks inside a block name it as the one around them. -/
def Enclosing (v : Visit) : Prop := ∀ w ∈ v.inner, w.parent = some (v.position, v.name)

end Visit

/-! ### The forest of a program -/

section Forest

variable {leaving : Raised → Raised}

mutual

/-- The visits of an action are numbered in the order of their opening. -/
theorem Action.positions_visits : ∀ (a : Action) (parent : Option (Nat × String)) (next : Nat),
    (Visit.preorderAll (a.visits leaving parent next).1).map (·.position)
      = List.range' next (Visit.preorderAll (a.visits leaving parent next).1).length
  | .attribute .., _, _ | .status .., _, _ | .raise _, _, _ => rfl
  | .block name _ catches body, parent, next => by
    have hbody := positions_visitsAll body (some (next, name)) (next + 1)
    rw [Action.visits]
    simp only [Visit.preorderAll, Visit.preorder, List.append_nil, List.map_cons, List.length_cons]
    rw [hbody, List.range'_succ]

/-- `Action.positions_visits` for actions in order. -/
theorem positions_visitsAll : ∀ (as : List Action) (parent : Option (Nat × String)) (next : Nat),
    (Visit.preorderAll (visitsAll leaving parent next as).1).map (·.position)
      = List.range' next (Visit.preorderAll (visitsAll leaving parent next as).1).length
  | [], _, _ => rfl
  | a :: rest, parent, next => by
    have hfirst := Action.positions_visits a parent next
    rw [visitsAll]
    rcases hvisits : a.visits leaving parent next with ⟨vs, _ | e⟩
    · rw [hvisits] at hfirst
      have hrest := positions_visitsAll rest parent (next + (Visit.preorderAll vs).length)
      dsimp only at hfirst ⊢
      rw [Visit.preorderAll_append, List.map_append, hfirst, hrest, List.length_append,
        List.range'_append_1]
    · rw [hvisits] at hfirst
      exact hfirst

end

mutual

/-- Every visit was opened in the innermost block that was open. -/
theorem Action.enclosing_visits : ∀ (a : Action) (parent : Option (Nat × String)) (next : Nat),
    (∀ v ∈ (a.visits leaving parent next).1, v.parent = parent)
      ∧ ∀ v ∈ Visit.preorderAll (a.visits leaving parent next).1, v.Enclosing
  | .attribute .., _, _ | .status .., _, _ | .raise _, _, _ =>
    ⟨fun _ hv => (by cases hv), fun _ hv => (by cases hv)⟩
  | .block name _ catches body, parent, next => by
    obtain ⟨hparent, henclosing⟩ := enclosing_visitsAll body (some (next, name)) (next + 1)
    rw [Action.visits]
    refine ⟨fun v hv => ?_, fun v hv => ?_⟩
    · rw [List.mem_singleton.mp hv]
    · simp only [Visit.preorderAll, Visit.preorder, List.append_nil] at hv
      rcases List.mem_cons.mp hv with rfl | hv
      · exact hparent
      · exact henclosing v hv

/-- `Action.enclosing_visits` for actions in order. -/
theorem enclosing_visitsAll : ∀ (as : List Action) (parent : Option (Nat × String)) (next : Nat),
    (∀ v ∈ (visitsAll leaving parent next as).1, v.parent = parent)
      ∧ ∀ v ∈ Visit.preorderAll (visitsAll leaving parent next as).1, v.Enclosing
  | [], _, _ => ⟨fun _ hv => (by cases hv), fun _ hv => (by cases hv)⟩
  | a :: rest, parent, next => by
    have hfirst := Action.enclosing_visits a parent next
    rw [visitsAll]
    rcases hvisits : a.visits leaving parent next with ⟨vs, _ | e⟩
    · rw [hvisits] at hfirst
      have hrest := enclosing_visitsAll rest parent (next + (Visit.preorderAll vs).length)
      dsimp only at hfirst ⊢
      refine ⟨fun v hv => ?_, fun v hv => ?_⟩
      · rcases List.mem_append.mp hv with hv | hv
        · exact hfirst.1 v hv
        · exact hrest.1 v hv
      -- A visit is one of the first action or one of the rest, which counts on from there.
      · rw [Visit.preorderAll_append] at hv
        rcases List.mem_append.mp hv with hv | hv
        · exact hfirst.2 v hv
        · exact hrest.2 v hv
    · rw [hvisits] at hfirst
      exact hfirst

end

end Forest

/-! ### Exceptions with a message -/

/-- Whether an action that raises raises something with a message. -/
def Action.isPrintable : Action → Bool
  | .raise e => e.message?.isSome
  | _ => true

/-- Whether every exception that a program raises has a message. -/
def Printable (program : List Action) : Bool := everyAll Action.isPrintable program

theorem Tracer.leaving_of_message {e : Raised} (h : e.message?.isSome = true) (tracer : Tracer) :
    tracer.leaving e = e := by
  rw [leaving]
  cases hprint : e.print with
  | ok message => exact ite_self e
  | error c =>
    rw [Raised.message?, hprint] at h
    cases h

/-- The exceptions of some visits, and the one that comes out behind them, all have a message. -/
structure AllPrintable (told : List Visit × Option Raised) : Prop where
  inside : ∀ v ∈ Visit.preorderAll told.1, ∀ e ∈ v.flight, e.message?.isSome = true
  outside : ∀ e ∈ told.2, e.message?.isSome = true

section Printable

variable {leaving : Raised → Raised}

mutual

/-- What a program raises leaves its blocks as it is, where it has a message. -/
theorem Action.visits_of_printable (hleaving : ∀ e, e.message?.isSome = true → leaving e = e) :
    ∀ (a : Action) (parent : Option (Nat × String)) (next : Nat), a.every Action.isPrintable = true →
      a.visits leaving parent next = a.visits id parent next
        ∧ AllPrintable (a.visits id parent next)
  | .attribute .., _, _, _ | .status .., _, _, _ =>
    ⟨rfl, fun _ hv => (by cases hv), fun _ he => (by cases he)⟩
  | .raise e, _, _, h => by
    refine ⟨rfl, fun _ hv => (by cases hv), fun e' he' => ?_⟩
    obtain rfl := Option.some.inj he'
    exact h
  | .block name _ catches body, parent, next, h => by
    rw [Action.every, Bool.and_eq_true] at h
    obtain ⟨hbody, hinside, houtside⟩ :=
      visitsAll_of_printable hleaving body (some (next, name)) (next + 1) h.2
    rw [Action.visits, Action.visits, hbody]
    rcases hvisits : visitsAll id (some (next, name)) (next + 1) body with ⟨inner, flight⟩
    rw [hvisits] at hinside houtside
    dsimp only at hinside houtside
    -- What comes out of the body has a message, so leaving the block changes nothing about it.
    have hflight : flight.map leaving = flight := by
      cases flight with
      | none => rfl
      | some e => rw [Option.map_some, hleaving e (houtside e rfl)]
    dsimp only
    rw [hflight, Option.map_id_fun, id]
    refine ⟨rfl, fun v hv => ?_, fun e he => ?_⟩
    · simp only [Visit.preorderAll, Visit.preorder, List.append_nil] at hv
      rcases List.mem_cons.mp hv with rfl | hv
      · exact houtside
      · exact hinside v hv
    -- A block that catches lets nothing out.
    · cases catches with
      | true => cases he
      | false => exact houtside e he

/-- `Action.visits_of_printable` for actions in order. -/
theorem visitsAll_of_printable (hleaving : ∀ e, e.message?.isSome = true → leaving e = e) :
    ∀ (as : List Action) (parent : Option (Nat × String)) (next : Nat),
      everyAll Action.isPrintable as = true →
      visitsAll leaving parent next as = visitsAll id parent next as
        ∧ AllPrintable (visitsAll id parent next as)
  | [], _, _, _ => ⟨rfl, fun _ hv => (by cases hv), fun _ he => (by cases he)⟩
  | a :: rest, parent, next, h => by
    rw [everyAll, Bool.and_eq_true] at h
    obtain ⟨hfirst, hprintable⟩ := Action.visits_of_printable hleaving a parent next h.1
    rw [visitsAll, visitsAll, hfirst]
    rcases hvisits : a.visits id parent next with ⟨vs, _ | e⟩
    -- Only what runs behind an action that raised nothing has visits of its own.
    · obtain ⟨hrest, hprintable'⟩ :=
        visitsAll_of_printable hleaving rest parent (next + (Visit.preorderAll vs).length) h.2
      rw [hvisits] at hprintable
      dsimp only
      rw [hrest]
      refine ⟨rfl, fun v hv => ?_, hprintable'.outside⟩
      rw [Visit.preorderAll_append] at hv
      rcases List.mem_append.mp hv with hv | hv
      · exact hprintable.inside v hv
      · exact hprintable'.inside v hv
    · rw [hvisits] at hprintable
      exact ⟨rfl, hprintable⟩

end

end Printable

/-! ### A whole run -/

/-- **How spans nest.** Take any program that writes its attributes under keys with a text and raises
exceptions with a message, and the forest of the blocks that it enters, which tells the exception that
ends the body of each.

* An exception that comes out of the program is the one that comes out of the forest.
* There is one span for each block entered, numbered in the order of opening. It is ended, and it has
  the record of the exception that ended the body of its block, if that is an ordinary one, and no other.
* Each span was opened in the block whose body contains its own, and at the top in none.
* Each span is ended once, and behind all those opened inside it.
* An exception leaves each block whose body it ends, the inner ones first, as the one that it was. -/
theorem runAll_nests (tracer : Tracer) (doubles : List Double) (program : List Action)
    (hkeys : KeysHaveText program = true) (hprintable : Printable program = true) :
    let forest := (visitsAll id none 0 program).1
    let run := runAll none program (.start tracer doubles)
    run.2 = (visitsAll id none 0 program).2
      ∧ run.1.spans.map Span.bare = (Visit.preorderAll forest).map (Visit.span tracer)
      ∧ (Visit.preorderAll forest).map (·.position) = List.range run.1.spans.length
      ∧ run.1.parents = (Visit.preorderAll forest).map (fun v => v.parent.map (·.1))
      ∧ (∀ v ∈ forest, v.parent = none) ∧ (∀ v ∈ Visit.preorderAll forest, v.Enclosing)
      ∧ run.1.ended = (Visit.postorderAll forest).map (·.position)
      ∧ run.1.ended.Perm (List.range run.1.spans.length)
      ∧ run.1.departures
          = (Visit.postorderAll forest).filterMap fun v => v.flight.map fun e => (v.name, e) := by
  intro forest run
  obtain ⟨hflight, hskeleton⟩ := runAll_start tracer doubles hkeys
  obtain ⟨hvisits, hinside, -⟩ := visitsAll_of_printable
    (fun e he => tracer.leaving_of_message he) program none 0 hprintable
  rw [hvisits] at hflight hskeleton
  have hspans : run.1.spans.map Span.bare = (Visit.preorderAll forest).map (Visit.span tracer) :=
    congrArg Skeleton.spans hskeleton
  have hended : run.1.ended = (Visit.postorderAll forest).map (·.position) :=
    congrArg Skeleton.ended hskeleton
  have hdepartures : run.1.departures
      = (Visit.postorderAll forest).filterMap (Visit.departure? tracer) :=
    congrArg Skeleton.departures hskeleton
  have hcount : run.1.spans.length = (Visit.preorderAll forest).length := by
    have hlength := congrArg List.length hspans
    rwa [List.length_map, List.length_map] at hlength
  have hpositions : (Visit.preorderAll forest).map (·.position) = List.range run.1.spans.length := by
    rw [hcount, List.range_eq_range']
    exact positions_visitsAll program none 0
  obtain ⟨hroots, henclosing⟩ := @enclosing_visitsAll id program none 0
  have hperm := Visit.postorderAll_perm forest
  refine ⟨hflight, hspans, hpositions, congrArg Skeleton.parents hskeleton, hroots, henclosing,
    hended, ?_, ?_⟩
  · rw [hended, ← hpositions]
    exact hperm.map _
  · rw [hdepartures]
    -- Both orders have the same visits, so every exception has a message here as well.
    refine List.filterMap_congr fun v hv => ?_
    rw [Visit.departure?]
    cases hv' : v.flight with
    | none => rfl
    | some e =>
      rw [Option.map_some, tracer.leaving_of_message (hinside v (hperm.mem_iff.mp hv) e hv')]
      rfl

/-! ### Two programs -/

/-- A program whose second block raises an exception that its first one catches; a third block comes
behind them. -/
def nestedProgram : List Action :=
  [.block "outer" [] true [.attribute .innermost (.str "k") unprintable,
    .block "inner" [("n", .int 1)] false [.raise (.mk "ValueError" [.str "bad"] none)]],
   .block "last" [] false []]

/-- The inner block ends first, the exception leaves both blocks, and the last one ends untouched. -/
theorem runAll_nests_nested :
    let run := runAll none nestedProgram (.start plainTracer [])
    run.2 = none
      ∧ run.1.spans.map (·.events.length) = [1, 1, 0]
      ∧ run.1.parents = [none, some 0, none]
      ∧ run.1.ended = [1, 0, 2]
      ∧ run.1.departures = [("inner", .mk "ValueError" [.str "bad"] none),
          ("outer", .mk "ValueError" [.str "bad"] none)] := by
  obtain ⟨hflight, hspans, -, hparents, -, -, hended, -, hdepartures⟩ :=
    runAll_nests plainTracer [] nestedProgram (by decide) (by decide)
  refine ⟨hflight, ?_, hparents, hended, hdepartures⟩
  -- The numbers of events can be read off the spans that the theorem gives.
  have hevents := congrArg (List.map fun s : Span => s.events.length) hspans
  rw [List.map_map] at hevents
  exact hevents

/-- **An interrupt** leaves its block as it is, and its span ends without a record of it. -/
theorem interrupt_unrecorded :
    let interrupt := Raised.mk "KeyboardInterrupt" [.str "stop"] none
    let run := runAll none [.block "outer" [] true [.raise interrupt]] (.start plainTracer [])
    interrupt.message? = some "stop"
      ∧ run.1.departures = [("outer", interrupt)]
      ∧ run.1.ended = [0]
      ∧ run.1.spans.map (·.events.length) = [0] :=
  ⟨rfl, rfl, rfl, rfl⟩

end Telemetry
end ChatProbe
