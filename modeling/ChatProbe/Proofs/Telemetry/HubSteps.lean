import ChatProbe.Proofs.Telemetry.Handles
/-!
# What a step of a hub does

`Hub.Moves` lists, once, what a step can lead to: a member joins, whose handle is disabled or active;
an open handle is closed, with all calls of its shutdown; or nothing changes, where a setup fails or a
shutdown finds nobody or a closed handle. `Hub.moves_step` says that the list is complete. Only two
moves touch the instrumentation: an active handle takes it if nobody has it (`Moves.enabled`), and the
end of an instrumented handle takes it back, whoever has it (`Moves.ended`).

What is shown of every step is carried along a run by `Hub.run_preserves`.
-/

namespace ChatProbe
namespace Telemetry

/-- The handle after its shutdown. -/
def Handle.ended (h : Handle) : Handle := ⟨h.providers, false, true⟩

theorem Handle.handle_shutdown {h : Handle} (hopen : h.closed = false) :
    (h.shutdown Faults.none).handle = h.ended := by
  unfold shutdown
  rw [hopen, if_neg Bool.false_ne_true, perform_none]
  dsimp only [Faults.none]
  rw [Option.isSome_none, Bool.and_false]
  rfl

/-- A shutdown asks for the instrumentation to be taken back where the handle says that it is there,
and nowhere else. -/
theorem Handle.uninstrument_mem_shutdownCalls_iff (h : Handle) :
    Call.uninstrument ∈ h.shutdownCalls ↔ h.instrumented = true := by
  refine ⟨fun hcall => ?_, h.uninstrument_mem_shutdownCalls⟩
  cases hflag : h.instrumented with
  | true => rfl
  | false =>
    rw [shutdownCalls, hflag, if_neg Bool.false_ne_true, List.nil_append] at hcall
    -- The calls that end a provider flush and stop it.
    obtain ⟨p, -, hp⟩ := List.mem_flatMap.mp hcall
    cases p with
    | tracer | logger | eventLogger | meter => simp [Provider.ending] at hp

/-- The member after the shutdown of its handle. -/
def Member.ended (m : Member) : Member :=
  { m with handle := m.handle.ended, calls := m.calls ++ m.handle.shutdownCalls }

namespace Hub

variable {hub hub' : Hub} {steps : List HubStep}

/-- What a step can lead to. -/
inductive Moves (hub : Hub) : HubStep → Hub → Prop
  | disabled {t : Settings.TelemetrySettings} {env : Environment} {memory global : Bool} {hub' : Hub}
      (hsettings : t.sdkDisabled = true)
      (hmembers : hub'.members = hub.members ++ [⟨.disabled, none, []⟩])
      (hreporting : hub'.reporting = hub.reporting) :
    Moves hub (.setup t env memory global) hub'
  | enabled {t : Settings.TelemetrySettings} {env : Environment} {memory global : Bool}
      {p : Pipeline} {hub' : Hub} (hsettings : t.sdkDisabled = false)
      (hmembers : hub'.members = hub.members ++ [⟨.active, some p, []⟩])
      (hreporting : hub'.reporting = (hub.reporting <|> some hub.members.length)) :
    Moves hub (.setup t env memory global) hub'
  | kept {s : HubStep} : Moves hub s hub
  | ended {i : Nat} {m : Member} {hub' : Hub} (hfound : hub.members[i]? = some m)
      (hopen : m.handle.closed = false) (hmembers : hub'.members = hub.members.set i m.ended)
      (hreporting : hub'.reporting = if m.handle.instrumented then none else hub.reporting) :
    Moves hub (.shutdown i) hub'

theorem moves_setup (hub : Hub) (t : Settings.TelemetrySettings) (env : Environment)
    (memory global : Bool) :
    hub.Moves (.setup t env memory global) (hub.step (.setup t env memory global)) := by
  rw [step]
  cases hsetup : hub.setup t env memory global with
  | error e => exact .kept
  | ok ready =>
    rw [setup] at hsetup
    cases hdisabled : t.sdkDisabled with
    | true =>
      rw [hdisabled, if_pos rfl] at hsetup
      cases hsetup
      exact .disabled hdisabled rfl rfl
    | false =>
      rw [hdisabled, if_neg Bool.false_ne_true] at hsetup
      obtain ⟨p, -, hready⟩ := Outcome.bind_eq_ok.mp hsetup
      cases hready
      -- Who is global is kept apart from the members and from who reports.
      cases global with
      | true => exact .enabled hdisabled rfl rfl
      | false => exact .enabled hdisabled rfl rfl

theorem moves_shutdown (hub : Hub) (i : Nat) :
    hub.Moves (.shutdown i) (hub.step (.shutdown i)) := by
  rw [step, shutdown]
  cases hfound : hub.members[i]? with
  | none => exact .kept
  | some m =>
    dsimp only
    cases hclosed : m.handle.closed with
    | true =>
      -- A second shutdown makes no call and leaves the handle as it is.
      rw [Handle.shutdown_of_closed hclosed]
      have hsame : hub.modify i (fun m' => { m' with handle := m.handle, calls := m'.calls ++ [] })
          = hub := by
        have hmembers : hub.members.modify i
            (fun m' => { m' with handle := m.handle, calls := m'.calls ++ [] }) = hub.members := by
          refine List.ext_getElem? fun j => ?_
          rw [List.getElem?_modify]
          by_cases hij : i = j
          · subst hij
            rw [hfound]
            simp
          · simp [hij]
        rw [modify, hmembers]
      rw [hsame]
      exact .kept
    | false =>
      have hmembers : hub.members.modify i
          (fun m' => { m' with
            handle := (m.handle.shutdown Faults.none).handle
            calls := m'.calls ++ (m.handle.shutdown Faults.none).calls })
            = hub.members.set i m.ended := by
        refine List.ext_getElem? fun j => ?_
        rw [List.getElem?_modify, List.getElem?_set, Handle.handle_shutdown hclosed,
          Handle.calls_shutdown hclosed]
        by_cases hij : i = j
        · subst hij
          obtain ⟨hlt, -⟩ := List.getElem?_eq_some_iff.mp hfound
          rw [hfound, if_pos rfl, if_pos hlt]
          simp [Member.ended]
        · simp [hij]
      by_cases hflag : m.handle.instrumented = true
      · have hcall : (m.handle.shutdown Faults.none).calls.contains .uninstrument = true := by
          rw [Handle.calls_shutdown hclosed, List.contains_iff_mem]
          exact m.handle.uninstrument_mem_shutdownCalls_iff.mpr hflag
        rw [if_pos hcall]
        exact .ended hfound hclosed hmembers (by rw [if_pos hflag]; rfl)
      · have hcall : ¬(m.handle.shutdown Faults.none).calls.contains .uninstrument = true := by
          rw [Handle.calls_shutdown hclosed, List.contains_iff_mem]
          exact fun hcall => hflag (m.handle.uninstrument_mem_shutdownCalls_iff.mp hcall)
        rw [if_neg hcall]
        exact .ended hfound hclosed hmembers (by rw [if_neg hflag]; rfl)

/-- Every step is one of the moves. -/
theorem moves_step (hub : Hub) (s : HubStep) : hub.Moves s (hub.step s) := by
  cases s with
  | setup t env memory global => exact hub.moves_setup t env memory global
  | shutdown i => exact hub.moves_shutdown i

/-! ### Runs -/

/-- What every step preserves, a run preserves. -/
theorem run_preserves {P : Hub → Prop} (hstep : ∀ hub s, P hub → P (hub.step s))
    (hhub : P hub) (steps : List HubStep) : P (hub.run steps) := by
  induction steps generalizing hub with
  | nil => exact hhub
  | cons s steps ih => exact ih (hstep hub s hhub)

end Hub
end Telemetry
end ChatProbe
