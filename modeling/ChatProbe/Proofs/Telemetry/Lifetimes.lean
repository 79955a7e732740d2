import Mathlib.Data.List.Induction
import ChatProbe.Proofs.Telemetry.Reporting
/-!
# Lifetimes of handles

A setup that does not fail hands out a handle, and whether it fails is up to the setup alone
(`HubStep.handed?`). So the settings of all handles of a hub, in their order, can be told from the steps
(`handed`), and so can which of the handles were shut down (`WasShut`).

These two are all that a handle and the calls on its providers depend on (`Member.Lives`,
`Hub.lives_run`). Up to its first shutdown a handle is as it was handed out and nothing was called; from
then on it is closed and the calls of one shutdown were made. Other handles, and further shutdowns, do
not come into it (`Hub.handle_ends_once`).
-/

namespace ChatProbe
namespace Telemetry

open Settings (TelemetrySettings)

/-! ### What the steps tell -/

/-- The settings for which a step hands out a handle. A setup where telemetry is off always does, any
other where its pipeline can be put together. -/
def HubStep.handed? : HubStep → Option TelemetrySettings
  | .setup t env memory _ =>
    if t.sdkDisabled || (Pipeline.ofSettings t env memory).isOk then some t else none
  | .shutdown _ => none

/-- The settings of all handles that are handed out, in their order. -/
def handed (steps : List HubStep) : List TelemetrySettings := steps.filterMap HubStep.handed?

/-- Whether the handle at a position is shut down among steps. It has to be there by then. -/
def WasShut (i : Nat) (steps : List HubStep) : Prop :=
  ∃ past later, steps = past ++ .shutdown i :: later ∧ i < (handed past).length

section Steps

variable {steps : List HubStep} {s : HubStep} {i : Nat}

theorem handed_append_singleton (steps : List HubStep) (s : HubStep) :
    handed (steps ++ [s]) = handed steps ++ s.handed?.toList := by
  unfold handed
  rw [List.filterMap_append, List.filterMap_cons, List.filterMap_nil]
  cases s.handed? with
  | none => rfl
  | some t => rfl

/-- One more step shuts a handle down if it is the shutdown of this one. -/
theorem wasShut_append_singleton :
    WasShut i (steps ++ [s]) ↔ WasShut i steps ∨ s = .shutdown i ∧ i < (handed steps).length := by
  constructor
  · rintro ⟨past, later, hsteps, hthere⟩
    -- The shutdown is the last step, or it stands among those before it.
    rcases List.eq_nil_or_concat later with rfl | ⟨later, last, rfl⟩
    · obtain ⟨rfl, hlast⟩ := List.append_inj' hsteps rfl
      exact .inr ⟨(List.cons.inj hlast).1, hthere⟩
    · rw [List.concat_eq_append, ← List.cons_append, ← List.append_assoc] at hsteps
      obtain ⟨rfl, -⟩ := List.append_inj' hsteps rfl
      exact .inl ⟨past, later, rfl, hthere⟩
  · rintro (⟨past, later, rfl, hthere⟩ | ⟨rfl, hthere⟩)
    · exact ⟨past, later ++ [s], by rw [List.append_assoc, List.cons_append], hthere⟩
    · exact ⟨steps, [], rfl, hthere⟩

/-- A step that is not its shutdown says nothing about whether a handle was shut down. -/
theorem wasShut_of_ne (hs : s ≠ .shutdown i) : WasShut i (steps ++ [s]) ↔ WasShut i steps := by
  rw [wasShut_append_singleton]
  exact ⟨fun h => h.resolve_right fun hlast => hs hlast.1, .inl⟩

/-- A handle that is shut down was handed out. -/
theorem WasShut.lt_length (h : WasShut i steps) : i < (handed steps).length := by
  obtain ⟨past, later, rfl, hthere⟩ := h
  unfold handed at hthere ⊢
  rw [List.filterMap_append, List.length_append]
  exact Nat.lt_of_lt_of_le hthere (Nat.le_add_right ..)

end Steps

/-! ### One handle -/

/-- The handle that is handed out for settings. -/
def Handle.handedFor (t : TelemetrySettings) : Handle :=
  if t.sdkDisabled then .disabled else .active

theorem Handle.closed_handedFor (t : TelemetrySettings) : (handedFor t).closed = false := by
  unfold handedFor
  split
  · rfl
  · rfl

theorem Handle.providers_handedFor (t : TelemetrySettings) :
    (handedFor t).providers = if t.sdkDisabled then [] else Provider.all := by
  unfold handedFor
  split
  · rfl
  · rfl

/-- The shutdown of an active handle ends the tracer, then the logger, then the meter. -/
theorem Handle.shutdownCalls_handedFor (t : TelemetrySettings) :
    (handedFor t).shutdownCalls
      = if t.sdkDisabled then []
        else [.uninstrument, .flush .tracer, .stop .tracer, .flush .logger, .stop .logger,
          .stop .meter] := by
  unfold handedFor
  split
  · rfl
  · rfl

/-- How a member stands whose handle was handed out for settings, and was shut down or not. -/
inductive Member.Lives (t : TelemetrySettings) (m : Member) (shut : Prop) : Prop
  | standing (hshut : ¬shut) (handle : m.handle = .handedFor t) (calls : m.calls = [])
  | closed (hshut : shut) (handle : m.handle = (Handle.handedFor t).ended)
      (calls : m.calls = (Handle.handedFor t).shutdownCalls)

namespace Member.Lives

variable {t : TelemetrySettings} {m : Member} {shut shut' : Prop}

theorem congr (h : m.Lives t shut) (hshut : shut' ↔ shut) : m.Lives t shut' := by
  cases h with
  | standing hnot handle calls => exact .standing (mt hshut.mp hnot) handle calls
  | closed hwas handle calls => exact .closed (hshut.mpr hwas) handle calls

theorem closed_iff (h : m.Lives t shut) : m.handle.closed = true ↔ shut := by
  cases h with
  | standing hnot handle calls =>
    rw [handle, Handle.closed_handedFor]
    exact ⟨fun hclosed => absurd hclosed Bool.false_ne_true, fun hshut => absurd hshut hnot⟩
  | closed hwas handle calls =>
    rw [handle]
    exact ⟨fun _ => hwas, fun _ => rfl⟩

theorem providers_eq (h : m.Lives t shut) :
    m.handle.providers = if t.sdkDisabled then [] else Provider.all := by
  rw [← Handle.providers_handedFor]
  cases h with
  | standing _ handle _ => rw [handle]
  | closed _ handle _ => rw [handle]; rfl

theorem calls_eq (h : m.Lives t shut) :
    m.calls = if m.handle.closed then (Handle.handedFor t).shutdownCalls else [] := by
  cases h with
  | standing _ handle calls => rw [handle, Handle.closed_handedFor, calls]; rfl
  | closed _ handle calls => rw [handle, calls]; rfl

/-- A closed handle does not say that the client is instrumented. -/
theorem silent (h : m.Lives t shut) (hclosed : m.handle.closed = true) :
    m.handle.instrumented = false := by
  cases h with
  | standing _ handle _ =>
    rw [handle, Handle.closed_handedFor] at hclosed
    cases hclosed
  | closed _ handle _ => rw [handle]; rfl

/-- **The end** of a handle that stands makes the calls of its shutdown, and these are all. -/
theorem ended (h : m.Lives t shut) (hopen : m.handle.closed = false) (hshut : shut') :
    m.ended.Lives t shut' := by
  cases h with
  | standing _ handle calls =>
    refine .closed hshut ?_ ?_
    · show m.handle.ended = _
      rw [handle]
    · show m.calls ++ m.handle.shutdownCalls = _
      rw [calls, handle, List.nil_append]
  | closed _ handle _ =>
    rw [handle] at hopen
    cases hopen

end Member.Lives

/-! ### All handles of a hub -/

namespace Hub

variable {hub hub' : Hub} {s : HubStep} {steps : List HubStep} {i : Nat} {m : Member}

theorem run_append (hub : Hub) (steps more : List HubStep) :
    hub.run (steps ++ more) = (hub.run steps).run more := List.foldl_append

theorem moves_of_step (hstep : hub.step s = hub') : hub.Moves s hub' := hstep ▸ hub.moves_step s

/-- A setup that hands out a handle is one that adds a member. -/
theorem length_step (hub : Hub) (s : HubStep) :
    (hub.step s).members.length = hub.members.length + s.handed?.toList.length := by
  cases s with
  | shutdown i =>
    generalize hstep : hub.step (.shutdown i) = next
    cases moves_of_step hstep with
    | kept => rfl
    | ended hfound hopen hmembers hreporting =>
      rw [hmembers, List.length_set]
      rfl
  | setup t env memory global =>
    rw [step, setup, HubStep.handed?]
    cases hdisabled : t.sdkDisabled with
    | true =>
      rw [if_pos rfl, Bool.true_or, if_pos rfl]
      exact List.length_append
    | false =>
      rw [if_neg Bool.false_ne_true, Bool.false_or]
      cases hpipeline : Pipeline.ofSettings t env memory with
      | error e => rfl
      | ok p =>
        -- Whether the providers become the global ones does not touch the members.
        cases global with
        | true => exact List.length_append
        | false => exact List.length_append

/-- Behind its shutdown a handle is closed, whatever it was before. -/
theorem closed_of_step_shutdown (hm : (hub.step (.shutdown i)).members[i]? = some m) :
    m.handle.closed = true := by
  rw [step, shutdown] at hm
  cases hfound : hub.members[i]? with
  | none =>
    -- Nobody is there, and nobody comes.
    rw [hfound] at hm
    have hnobody : hub.members[i]? = some m := hm
    rw [hfound] at hnobody
    cases hnobody
  | some before =>
    rw [hfound] at hm
    dsimp only at hm
    -- Taking the instrumentation back leaves the members as they are.
    have hmembers : (hub.members.modify i fun m' => { m' with
        handle := (before.handle.shutdown Faults.none).handle
        calls := m'.calls ++ (before.handle.shutdown Faults.none).calls })[i]? = some m := by
      split at hm
      · exact hm
      · exact hm
    rw [List.getElem?_modify_eq, hfound] at hmembers
    cases hmembers
    exact Handle.closed_shutdown _ _

/-- **A closed handle** is kept by every step. -/
theorem Moves.keeps_closed (hmoves : hub.Moves s hub') (hm : hub.members[i]? = some m)
    (hclosed : m.handle.closed = true) : hub'.members[i]? = some m := by
  cases hmoves with
  | kept => exact hm
  | disabled hsettings hmembers hreporting => rw [hmembers]; exact getElem?_join hm
  | enabled hsettings hmembers hreporting => rw [hmembers]; exact getElem?_join hm
  | @ended j other _ hfound hopen hmembers hreporting =>
    -- What is shut down now was open, so it is another handle.
    have hij : j ≠ i := by
      rintro rfl
      rw [hfound] at hm
      cases hm
      rw [hopen] at hclosed
      cases hclosed
    rw [hmembers, List.getElem?_set_ne hij, hm]

theorem closed_run (hm : hub.members[i]? = some m) (hclosed : m.handle.closed = true)
    (steps : List HubStep) : (hub.run steps).members[i]? = some m :=
  run_preserves (P := fun hub => hub.members[i]? = some m)
    (fun hub s hm => (hub.moves_step s).keeps_closed hm hclosed) hm steps

/-- Shutting a closed handle down changes nothing at all. -/
theorem step_shutdown_of_closed (hm : hub.members[i]? = some m) (hclosed : m.handle.closed = true) :
    hub.step (.shutdown i) = hub := by
  generalize hstep : hub.step (.shutdown i) = next
  cases moves_of_step hstep with
  | kept => rfl
  | ended hfound hopen hmembers hreporting =>
    rw [hfound] at hm
    cases hm
    rw [hopen] at hclosed
    cases hclosed

/-! ### Runs -/

/-- Every handle of a hub stands as steps tell. -/
structure Lives (hub : Hub) (steps : List HubStep) : Prop where
  /-- There are the handles that were handed out, and no others. -/
  length : hub.members.length = (handed steps).length
  member : ∀ (i : Nat) (m : Member) (t : TelemetrySettings), hub.members[i]? = some m →
    (handed steps)[i]? = some t → m.Lives t (WasShut i steps)

theorem Lives.empty : Hub.empty.Lives [] where
  length := rfl
  member := fun i m t hm => by cases hm

/-- A setup that adds a member hands out its handle. -/
theorem handed?_of_join {t : TelemetrySettings} {env : Environment} {memory global : Bool}
    (hmembers : (hub.step (.setup t env memory global)).members = hub.members ++ [m]) :
    (HubStep.setup t env memory global).handed? = some t := by
  have hlength := hub.length_step (.setup t env memory global)
  rw [hmembers, List.length_append] at hlength
  rw [HubStep.handed?] at hlength ⊢
  by_cases hhanded : (t.sdkDisabled || (Pipeline.ofSettings t env memory).isOk) = true
  · rw [if_pos hhanded]
  · rw [if_neg hhanded, Option.toList_none, List.length_singleton, List.length_nil] at hlength
    omega

/-- A step that keeps the hub as it is hands nothing out. -/
theorem handed?_of_kept (hkept : hub.step s = hub) : s.handed? = none := by
  have hlength := hub.length_step s
  rw [hkept] at hlength
  cases hhanded : s.handed? with
  | none => rfl
  | some t =>
    rw [hhanded, Option.toList_some, List.length_singleton] at hlength
    omega

/-- The handle that joins stands, and the others stand as they did. -/
theorem Lives.join (h : hub.Lives steps) {t : TelemetrySettings} {joined : Member}
    (hhanded : s.handed? = some t) (hs : ∀ i, s ≠ .shutdown i)
    (hmembers : hub'.members = hub.members ++ [joined])
    (hhandle : joined.handle = .handedFor t) (hcalls : joined.calls = []) :
    hub'.Lives (steps ++ [s]) := by
  have hsettings : handed (steps ++ [s]) = handed steps ++ [t] := by
    rw [handed_append_singleton, hhanded, Option.toList_some]
  refine ⟨?_, fun i m t' hm ht' => ?_⟩
  · rw [hmembers, hsettings, List.length_append, List.length_append, h.length]
    rfl
  · rw [hmembers] at hm
    rw [hsettings] at ht'
    rcases getElem?_join_cases hm with hm | ⟨rfl, rfl⟩
    · obtain ⟨hlt, -⟩ := List.getElem?_eq_some_iff.mp hm
      rw [List.getElem?_append_left (h.length ▸ hlt)] at ht'
      exact (h.member i m t' hm ht').congr (wasShut_of_ne (hs i))
    · rw [h.length, List.getElem?_concat_length] at ht'
      cases ht'
      -- Nobody can have shut it down before it was there.
      refine .standing (fun hshut => ?_) hhandle hcalls
      have hlt := ((wasShut_of_ne (hs _)).mp hshut).lt_length
      rw [h.length] at hlt
      exact Nat.lt_irrefl _ hlt

/-- **A step** leads from handles that stand as the steps so far tell to handles that stand as all
steps tell. -/
theorem Lives.step (h : hub.Lives steps) (s : HubStep) : (hub.step s).Lives (steps ++ [s]) := by
  generalize hnext : hub.step s = next
  cases moves_of_step hnext with
  | kept =>
    have hsettings : handed (steps ++ [s]) = handed steps := by
      rw [handed_append_singleton, handed?_of_kept hnext, Option.toList_none, List.append_nil]
    refine ⟨by rw [hsettings, h.length], fun i m t hm ht => ?_⟩
    rw [hsettings] at ht
    have hlives := h.member i m t hm ht
    refine hlives.congr (wasShut_append_singleton.trans ⟨?_, .inl⟩)
    rintro (hshut | ⟨rfl, -⟩)
    · exact hshut
    · -- A shutdown that changes nothing found the handle closed.
      rw [← hnext] at hm
      exact hlives.closed_iff.mp (closed_of_step_shutdown hm)
  -- A setup adds a member behind the others, with the handle that its settings call for.
  | disabled hsettings hmembers hreporting =>
    rw [← hnext] at hmembers ⊢
    refine h.join (handed?_of_join hmembers) (fun i => by simp) hmembers ?_ rfl
    rw [Handle.handedFor, if_pos hsettings]
  | enabled hsettings hmembers hreporting =>
    rw [← hnext] at hmembers ⊢
    refine h.join (handed?_of_join hmembers) (fun i => by simp) hmembers ?_ rfl
    rw [Handle.handedFor, hsettings, if_neg Bool.false_ne_true]
  -- A shutdown that finds its handle open ends this member and leaves all others.
  | @ended j before _ hfound hopen hmembers hreporting =>
    have hsettings : handed (steps ++ [.shutdown j]) = handed steps := by
      rw [handed_append_singleton]
      exact List.append_nil _
    refine ⟨by rw [hmembers, hsettings, List.length_set, h.length], fun i m t hm ht => ?_⟩
    rw [hsettings] at ht
    rw [hmembers] at hm
    by_cases hij : j = i
    · subst hij
      obtain ⟨hlt, -⟩ := List.getElem?_eq_some_iff.mp hfound
      rw [List.getElem?_set_self hlt] at hm
      cases hm
      exact (h.member j before t hfound ht).ended hopen
        (wasShut_append_singleton.mpr (.inr ⟨rfl, h.length ▸ hlt⟩))
    · rw [List.getElem?_set_ne hij] at hm
      refine (h.member i m t hm ht).congr (wasShut_of_ne fun heq => hij ?_)
      exact HubStep.shutdown.inj heq

/-- **A run** leads to handles that stand as its steps tell. -/
theorem lives_run (steps : List HubStep) : (Hub.empty.run steps).Lives steps := by
  -- From the end, since how a handle stands is told by all steps so far.
  induction steps using List.reverseRecOn with
  | nil => exact .empty
  | append_singleton steps s ih =>
    rw [run_append]
    exact ih.step s

/-- **Each handle ends once.** Take any setups and shutdowns, in any order, and the handle that is handed
out at position `i`, for settings `t`. No other handles than those handed out are there.

* It has all four providers, or none, which is so where the settings switch telemetry off.
* It is closed just in case it was shut down after it was handed out.
* Once it is closed, and not before, the tracer was flushed and stopped, then the logger was flushed and
  stopped, then the meter was stopped, each once; ahead of this the instrumentation was taken back.
  Where telemetry is off nothing is ever called.
* Once it is closed it says that the client is not instrumented, no further steps change it, and
  shutting it down again changes nothing in the whole hub. -/
theorem handle_ends_once {steps : List HubStep} {i : Nat} {t : TelemetrySettings}
    (ht : (handed steps)[i]? = some t) :
    (Hub.empty.run steps).members.length = (handed steps).length
      ∧ ∃ m, (Hub.empty.run steps).members[i]? = some m
        ∧ m.handle.providers = (if t.sdkDisabled then [] else Provider.all)
        ∧ (m.handle.closed = true ↔ WasShut i steps)
        ∧ m.calls = (if m.handle.closed && !t.sdkDisabled then
            [.uninstrument, .flush .tracer, .stop .tracer, .flush .logger, .stop .logger, .stop .meter]
            else [])
        ∧ (m.handle.closed = true → m.handle.instrumented = false
            ∧ (∀ later, (Hub.empty.run (steps ++ later)).members[i]? = some m)
            ∧ (Hub.empty.run steps).step (.shutdown i) = Hub.empty.run steps) := by
  have hlives := lives_run steps
  obtain ⟨hlt, -⟩ := List.getElem?_eq_some_iff.mp ht
  rw [← hlives.length] at hlt
  have hm := List.getElem?_eq_getElem hlt
  -- The invariant says everything about the member, whichever it is.
  generalize (Hub.empty.run steps).members[i] = m at hm
  have hmember := hlives.member i m t hm ht
  refine ⟨hlives.length, m, hm, hmember.providers_eq, hmember.closed_iff, ?_, fun hclosed => ?_⟩
  · rw [hmember.calls_eq, Handle.shutdownCalls_handedFor]
    cases m.handle.closed with
    | false => rfl
    | true =>
      cases t.sdkDisabled with
      | false => rfl
      | true => rfl
  · refine ⟨hmember.silent hclosed, fun later => ?_, step_shutdown_of_closed hm hclosed⟩
    rw [run_append]
    exact closed_run hm hclosed later

/-- Two handles whose lifetimes overlap: the second one is shut down twice, the first one never, and
nobody is there when the first shutdown comes. -/
def overlapping : List HubStep :=
  [.shutdown 1, quietSetup, quietSetup, .shutdown 1, .shutdown 1]

/-- The second handle made the calls of one shutdown, and one more makes none. -/
theorem handle_ends_once_overlapping :
    ∃ m, (Hub.empty.run overlapping).members[1]? = some m
      ∧ m.handle.providers = Provider.all
      ∧ m.calls = [.uninstrument, .flush .tracer, .stop .tracer, .flush .logger, .stop .logger,
          .stop .meter]
      ∧ (Hub.empty.run overlapping).step (.shutdown 1) = Hub.empty.run overlapping := by
  have ht : (handed overlapping)[1]? = some quietSettings := by rfl
  have hshut : WasShut 1 overlapping :=
    ⟨[.shutdown 1, quietSetup, quietSetup], [.shutdown 1], rfl, by decide⟩
  obtain ⟨-, m, hm, hproviders, hclosed, hcalls, hlater⟩ := handle_ends_once ht
  rw [hclosed.mpr hshut] at hcalls
  exact ⟨m, hm, hproviders, hcalls, (hlater (hclosed.mpr hshut)).2.2⟩

/-- The first handle stands, and made none. -/
example : (Hub.empty.run overlapping).members.map (·.calls.length) = [0, 6] := by rfl

end Hub
end Telemetry
end ChatProbe
