import ChatProbe.Proofs.Telemetry.HubSteps
/-!
# To whom the instrumented client reports

Every handle notes for itself whether it instrumented the client, while the client is instrumented
once for all of them. This module says when the notes are true.

* `Hub.Truthful`: whoever says that the client is instrumented is the one to whom it reports.
* `Hub.Apart`: at most one handle with providers is open.
* `Hub.Sound`: what holds in every state that can be reached. A handle says so for as long as it is
  open, and the client reports to one that says so. So a false note is one of a handle that the client
  does not report to, never the other way around.

The notes are true all along exactly where no two lifetimes overlap (`Hub.truthful_iff_apart`). Where
they do overlap, the second handle says so while the client still reports to the first one, and then the
end of either takes the instrumentation from both (`Hub.untruthful_of_overlap`).
-/

namespace ChatProbe
namespace Telemetry

/-- Whether the handle has providers and was not shut down. -/
def Handle.isOpen (h : Handle) : Bool := h.enabled && !h.closed

@[simp] theorem Handle.isOpen_ended (h : Handle) : h.ended.isOpen = false := by
  rw [isOpen, ended, Bool.not_true, Bool.and_false]

namespace Hub

variable {hub hub' : Hub} {s : HubStep} {steps : List HubStep} {i : Nat}

/-- **True notes.** A handle that says that the client is instrumented is the one to whose providers
the client reports. -/
def Truthful (hub : Hub) : Prop :=
  ∀ i m, hub.members[i]? = some m → m.handle.instrumented = true → hub.reporting = some i

/-- At most one handle is open. -/
def Apart (hub : Hub) : Prop :=
  ∀ (i j : Nat) (m m' : Member), hub.members[i]? = some m → hub.members[j]? = some m' →
    m.handle.isOpen = true → m'.handle.isOpen = true → i = j

/-! ### Every state that can be reached -/

/-- What holds of flags and instrumentation, overlap or not. -/
structure Sound (hub : Hub) : Prop where
  /-- A handle says that it is instrumented for as long as it is open. -/
  flag : ∀ m ∈ hub.members, m.handle.instrumented = m.handle.isOpen
  /-- The client reports to a handle that says so. -/
  reporter : ∀ i, hub.reporting = some i →
    ∃ m, hub.members[i]? = some m ∧ m.handle.instrumented = true

theorem Sound.empty : Hub.empty.Sound where
  flag := fun _ hm => by cases hm
  reporter := fun _ hi => by cases hi

/-- A member stays where it is when another one joins. -/
theorem getElem?_join {m joined : Member} (hm : hub.members[i]? = some m) :
    (hub.members ++ [joined])[i]? = some m := by
  obtain ⟨hlt, -⟩ := List.getElem?_eq_some_iff.mp hm
  rw [List.getElem?_append_left hlt, hm]

/-- A member of the longer list was there or is the one that joined. -/
theorem getElem?_join_cases {m joined : Member}
    (hm : (hub.members ++ [joined])[i]? = some m) :
    hub.members[i]? = some m ∨ i = hub.members.length ∧ m = joined := by
  by_cases hlt : i < hub.members.length
  · rw [List.getElem?_append_left hlt] at hm
    exact .inl hm
  · rw [List.getElem?_append_right (Nat.le_of_not_lt hlt)] at hm
    obtain ⟨hzero, hjoined⟩ := List.getElem?_eq_some_iff.mp hm
    -- One member was added, so its position is the only one past the old ones.
    have hi : i = hub.members.length := by
      rw [List.length_singleton] at hzero
      omega
    subst hi
    refine .inr ⟨rfl, ?_⟩
    simpa using hjoined.symm

/-- **A step** keeps the state sound: a handle that joins says what it did, and the end of an
instrumented handle takes the instrumentation back. -/
theorem Moves.sound (hmoves : hub.Moves s hub') (h : hub.Sound) : hub'.Sound := by
  cases hmoves with
  | kept => exact h
  | disabled hsettings hmembers hreporting =>
    refine ⟨fun m hm => ?_, fun i hi => ?_⟩
    · rw [hmembers] at hm
      rcases List.mem_append.mp hm with hm | hm
      · exact h.flag m hm
      · rw [List.mem_singleton.mp hm]
        rfl
    · rw [hreporting] at hi
      obtain ⟨m, hm, hflag⟩ := h.reporter i hi
      exact ⟨m, hmembers ▸ getElem?_join hm, hflag⟩
  | enabled hsettings hmembers hreporting =>
    refine ⟨fun m hm => ?_, fun i hi => ?_⟩
    · rw [hmembers] at hm
      rcases List.mem_append.mp hm with hm | hm
      · exact h.flag m hm
      · rw [List.mem_singleton.mp hm]
        rfl
    · rw [hreporting] at hi
      cases hwas : hub.reporting with
      | some j =>
        rw [hwas] at hi
        cases hi
        obtain ⟨m, hm, hflag⟩ := h.reporter i hwas
        exact ⟨m, hmembers ▸ getElem?_join hm, hflag⟩
      | none =>
        rw [hwas] at hi
        cases hi
        exact ⟨_, hmembers ▸ List.getElem?_concat_length, rfl⟩
  | @ended i ended _ hfound hopen hmembers hreporting =>
    refine ⟨fun m hm => ?_, fun j hj => ?_⟩
    · rw [hmembers] at hm
      rcases List.mem_or_eq_of_mem_set hm with hm | rfl
      · exact h.flag m hm
      · exact (Handle.isOpen_ended _).symm
    · rw [hreporting] at hj
      split at hj
      · cases hj
      · next hsilent =>
        -- The handle that ended was not the one that the client reports to.
        obtain ⟨m, hm, hflag⟩ := h.reporter j hj
        have hij : i ≠ j := by
          rintro rfl
          rw [hfound] at hm
          cases hm
          exact hsilent hflag
        exact ⟨m, by rw [hmembers, List.getElem?_set_ne hij, hm], hflag⟩

theorem sound_run (steps : List HubStep) : (Hub.empty.run steps).Sound :=
  run_preserves (fun hub s h => (hub.moves_step s).sound h) .empty steps

/-! ### True notes -/

/-- True notes are notes of one handle, since the client reports to one only. -/
theorem Sound.apart (h : hub.Sound) (htrue : hub.Truthful) : hub.Apart := by
  intro i j m m' hm hm' hopen hopen'
  rw [← h.flag m (List.mem_of_getElem? hm)] at hopen
  rw [← h.flag m' (List.mem_of_getElem? hm')] at hopen'
  have hi := htrue i m hm hopen
  rw [htrue j m' hm' hopen'] at hi
  exact (Option.some.inj hi).symm

/-- **A step keeps the notes true**, unless it opens a second handle. -/
theorem Moves.truthful (hmoves : hub.Moves s hub') (h : hub.Sound) (htrue : hub.Truthful)
    (hapart : hub'.Apart) : hub'.Truthful := by
  cases hmoves with
  | kept => exact htrue
  | disabled hsettings hmembers hreporting =>
    intro i m hm hflag
    rw [hreporting]
    rw [hmembers] at hm
    rcases getElem?_join_cases hm with hm | ⟨rfl, rfl⟩
    · exact htrue i m hm hflag
    · cases hflag
  | enabled hsettings hmembers hreporting =>
    have hnew : hub'.members[hub.members.length]? = some ⟨.active, some _, []⟩ :=
      hmembers ▸ List.getElem?_concat_length
    cases hwas : hub.reporting with
    | some j =>
      -- Whoever the client reports to is open, and so is the handle that joins.
      obtain ⟨m, hm, hflag⟩ := h.reporter j hwas
      have hopen := h.flag m (List.mem_of_getElem? hm) ▸ hflag
      have hm' : hub'.members[j]? = some m := hmembers ▸ getElem?_join hm
      have hj := hapart j _ m _ hm' hnew hopen rfl
      obtain ⟨hlt, -⟩ := List.getElem?_eq_some_iff.mp hm
      exact absurd hj (Nat.ne_of_lt hlt)
    | none =>
      intro i m hm hflag
      rw [hreporting, hwas]
      rw [hmembers] at hm
      rcases getElem?_join_cases hm with hm | ⟨rfl, -⟩
      · have hi := htrue i m hm hflag
        rw [hwas] at hi
        cases hi
      · rfl
  | @ended i ended _ hfound hopen hmembers hreporting =>
    intro j m hm hflag
    have hij : i ≠ j := by
      rintro rfl
      obtain ⟨hlt, -⟩ := List.getElem?_eq_some_iff.mp hfound
      rw [hmembers, List.getElem?_set_self hlt] at hm
      cases hm
      cases hflag
    rw [hmembers, List.getElem?_set_ne hij] at hm
    have hj := htrue j m hm hflag
    -- Two handles that say so would be one, since both notes were true.
    have hsilent : ¬ended.handle.instrumented = true := by
      intro hended
      have hi := htrue i ended hfound hended
      rw [hj] at hi
      exact hij (Option.some.inj hi).symm
    rw [hreporting, if_neg hsilent, hj]

/-- **A run** along which no second handle is opened keeps the notes true. -/
theorem truthful_run (h : hub.Sound) (htrue : hub.Truthful)
    (hapart : ∀ past, past <+: steps → (hub.run past).Apart) : (hub.run steps).Truthful := by
  induction steps generalizing hub with
  | nil => exact htrue
  | cons s steps ih =>
    have hmoves := hub.moves_step s
    have hnext : (hub.step s).Apart := hapart [s] ⟨steps, rfl⟩
    refine ih (hmoves.sound h) (hmoves.truthful h htrue hnext) fun past hpast => ?_
    exact hapart (s :: past) ((List.prefix_cons_inj s).mpr hpast)

/-- **When the notes are true.** Over any setups and shutdowns, in any order, every handle that says
that the client is instrumented is the one to which the client reports, at every point, exactly where at
every point at most one handle with providers is open. Whether or not this is so, at every point a handle
says so for as long as it is open, and the client reports to one that says so. -/
theorem truthful_iff_apart (steps : List HubStep) :
    ((∀ past, past <+: steps → (Hub.empty.run past).Truthful) ↔
        ∀ past, past <+: steps → (Hub.empty.run past).Apart)
      ∧ (∀ m ∈ (Hub.empty.run steps).members, m.handle.instrumented = m.handle.isOpen)
      ∧ ∀ i, (Hub.empty.run steps).reporting = some i →
          ∃ m, (Hub.empty.run steps).members[i]? = some m ∧ m.handle.instrumented = true := by
  have hsound := sound_run steps
  refine ⟨⟨fun htrue past hpast => ?_, fun hapart past hpast => ?_⟩, hsound.flag, hsound.reporter⟩
  · exact (sound_run past).apart (htrue past hpast)
  · have hempty : Hub.empty.Truthful := fun i m hm => by cases hm
    exact truthful_run .empty hempty fun earlier hearlier => hapart earlier (hearlier.trans hpast)

/-! ### An overlap -/

/-- Settings of a setup that sends nothing anywhere. -/
def quietSettings : Settings.TelemetrySettings :=
  ⟨false, Settings.TelemetrySettings.defaultServiceName, none, .nowhere, .nowhere, .nowhere, false⟩

/-- A setup by these settings, which fails in no environment without limits. -/
def quietSetup : HubStep := .setup quietSettings .empty true false

/-- **Lifetimes that overlap.** The second of two handles says that the client is instrumented while it
reports to the first one. When the second one is shut down, the first one still says so and the client
is not instrumented at all. -/
theorem untruthful_of_overlap :
    ((Hub.empty.run [quietSetup, quietSetup]).handles = [.active, .active]
        ∧ (Hub.empty.run [quietSetup, quietSetup]).reporting = some 0)
      ∧ ((Hub.empty.run [quietSetup, quietSetup, .shutdown 1]).handles = [.active, Handle.active.ended]
        ∧ (Hub.empty.run [quietSetup, quietSetup, .shutdown 1]).reporting = none)
      ∧ ¬∀ past, past <+: [quietSetup, quietSetup] → (Hub.empty.run past).Truthful := by
  have hrun : (Hub.empty.run [quietSetup, quietSetup]).handles = [.active, .active]
      ∧ (Hub.empty.run [quietSetup, quietSetup]).reporting = some 0 := ⟨by rfl, by rfl⟩
  refine ⟨hrun, ⟨by rfl, by rfl⟩, fun htrue => ?_⟩
  obtain ⟨m, hm, hactive⟩ : ∃ m, (Hub.empty.run [quietSetup, quietSetup]).members[1]? = some m
      ∧ m.handle = .active := by
    have hsecond := congrArg (·[1]?) hrun.1
    dsimp only [handles] at hsecond
    rw [List.getElem?_map] at hsecond
    exact Option.map_eq_some_iff.mp hsecond
  -- The second handle says that it is instrumented, but the calls go to the first member.
  have hreporting := htrue _ (List.prefix_refl _) 1 m hm (by rw [hactive]; rfl)
  rw [hrun.2] at hreporting
  cases hreporting

end Hub
end Telemetry
end ChatProbe
