import Mathlib
import ChatProbe.Proofs.Settings.Stepping
/-!
# The nearest `.env`

A session loads one `.env` at a time: the nearest one, and it looks at no other entry than those on
the way to it (`Session.searched`, `Session.loadNearest_of_agrees`). Whatever variable such a load
adds, this one file gives it its value (`Session.Gives`).

Over a run in which no step sets or unsets a variable, the environment only grows, since the loads are
all that changes it. So a variable that is added has the value that one file gave to it at one step,
and keeps it (`Session.exists_given_of_run`): neither an edit of the file nor a reset takes it back.

The main statement is `Session.loadNearest_fills`.
-/

namespace ChatProbe
namespace Settings

/-- Whether a step neither sets nor unsets a variable by itself. -/
def Step.leavesVariables : Step → Bool
  | .setVariable .. | .unsetVariable .. => false
  | _ => true

namespace Session

variable {p q : Session} {s : Step} {ss : List Step} {reply : Reply} {name value : String}

/-! ### The search -/

/-- Where a `.env` is searched for, nearest first. -/
def candidates (p : Session) : List Path := p.folder.upward.map (· ++ [dotenvName])

/-- The candidates up to the first one that has an entry; all of them, if none has one. -/
def searched (p : Session) : List Path :=
  p.candidates.take (p.candidates.findIdx (fun path => (p.files.get? path).isSome) + 1)

theorem nearest?_eq (p : Session) : p.nearest? = p.candidates.findSome? p.files.get? := by
  rw [nearest?, candidates, List.findSome?_map]
  rfl

/-- A search ends at the first find, so what is behind does not count. -/
theorem findSome?_eq_of_agrees {α β : Type} {f g : α → Option β} {as : List α}
    (h : ∀ a ∈ as.take (as.findIdx (fun a => (f a).isSome) + 1), g a = f a) :
    as.findSome? g = as.findSome? f := by
  induction as with
  | nil => rfl
  | cons a as ih =>
    have hhead : g a = f a := h a (by simp)
    rw [List.findSome?_cons, List.findSome?_cons, hhead]
    cases hfound : f a with
    -- The first hit ends the search, and what comes behind it is not looked at.
    | some b => rfl
    | none =>
      -- Without a hit here the first hit of the rest is one place further on.
      refine ih fun b hb => h b ?_
      rw [List.findIdx_cons, hfound]
      exact List.mem_cons_of_mem _ hb

/-- **One place.** In any tree that has the same entries where the search looks, a load does the same. -/
theorem loadNearest_of_agrees {fs : Files}
    (h : ∀ path ∈ p.searched, fs.get? path = p.files.get? path) :
    ({ p with files := fs } : Session).loadNearest
      = ({ p.loadNearest.1 with files := fs }, p.loadNearest.2) := by
  have hnearest : ({ p with files := fs } : Session).nearest? = p.nearest? := by
    rw [nearest?_eq, nearest?_eq]
    exact findSome?_eq_of_agrees h
  rw [loadNearest, loadNearest, hnearest]
  cases p.nearest? with
  | none => rfl
  | some entry => rfl

/-! ### What the nearest file gives -/

/-- The nearest `.env` is a file that gives a value to a name. -/
def Gives (p : Session) (name value : String) : Prop :=
  ∃ bytes as warnings, p.nearest? = some (.file bytes)
    ∧ Dotenv.assignments .environmentFirst p.environment bytes = .ok (as, warnings)
    ∧ as.lookup name = some (some value)

/-- A variable that a load adds has the value that the nearest file gives to it. -/
theorem gives_of_loadNearest (hname : p.environment.get? name = none)
    (h : p.loadNearest.1.environment.get? name = some value) : p.Gives name value := by
  -- Where nothing is loaded the environment stays as it is, and there the name was missing.
  have hnew : p.environment.get? name ≠ some value := by simp [hname]
  rw [loadNearest] at h
  cases hnearest : p.nearest? with
  | none =>
    rw [hnearest] at h
    exact absurd h hnew
  | some entry =>
    rw [hnearest] at h
    obtain ⟨bytes, as, warnings, hfile, hread, hlookup⟩ := Dotenv.given_of_load hname h
    cases entry with
    -- A folder of this name gives nothing.
    | folder => cases hfile
    | file bytes' =>
      cases hfile
      exact ⟨bytes, as, warnings, hnearest, hread, hlookup⟩

/-- A second load right behind a first one changes nothing. -/
theorem loadNearest_loadNearest {warnings : List Dotenv.Warning}
    (h : p.loadNearest = (q, warnings, none)) : ∃ more, q.loadNearest = (q, more, none) := by
  have hq : { p with environment := q.environment } = q := by
    have hload := p.loadNearest_eq.1
    rw [h] at hload
    exact hload.symm
  -- The file found is the same, since a load does not touch the files.
  have hnearest : q.nearest? = p.nearest? := by rw [← hq]; rfl
  rw [loadNearest] at h
  rw [loadNearest, hnearest]
  cases hentry : p.nearest? with
  | none => exact ⟨_, rfl⟩
  | some entry =>
    rw [hentry] at h
    obtain ⟨hfirst, hrest⟩ := Prod.mk.inj h
    obtain ⟨-, hfailure⟩ := Prod.mk.inj hrest
    obtain ⟨more, hagain⟩ := Dotenv.load_load hfailure
    have henv := congrArg Session.environment hfirst
    dsimp only at henv
    rw [henv] at hagain
    refine ⟨more, ?_⟩
    dsimp only
    rw [hagain]

/-! ### Runs -/

theorem Moves.growsTo (hmoves : p.Moves s q reply) (hs : s.leavesVariables = true) :
    p.environment.GrowsTo q.environment := by
  cases hmoves with
  | built | refused | loaded => exact p.loadNearest_eq.2
  | kept | created | reset | entered | written | removed => exact .refl _
  | setVariable | unsetVariable => cases hs

/-- Only a load adds a variable, and it is the nearest file that gives it its value. -/
theorem Moves.gives (hmoves : p.Moves s q reply) (hs : s.leavesVariables = true)
    (hname : p.environment.get? name = none) (h : q.environment.get? name = some value) :
    p.Gives name value := by
  cases hmoves with
  | built | refused | loaded => exact gives_of_loadNearest hname h
  | kept | created | reset | entered | written | removed =>
    rw [show p.environment.get? name = some value from h] at hname
    cases hname
  | setVariable | unsetVariable => cases hs

/-- **The environment grows** along a run that sets and unsets no variable. -/
theorem growsTo_run (hss : ∀ s ∈ ss, s.leavesVariables = true) :
    p.environment.GrowsTo (p.run ss).1.environment :=
  run_preserves (P := fun q => p.environment.GrowsTo q.environment)
    (fun q s hs h => h.trans ((q.moves_step s).growsTo (hss s hs))) (.refl _)

/-- **The first file counts.** A variable that a run has added was added at one of its steps, with the
value that the nearest file gave to it then, and has kept this value ever since. -/
theorem exists_given_of_run (hss : ∀ s ∈ ss, s.leavesVariables = true)
    (hname : p.environment.get? name = none)
    (h : (p.run ss).1.environment.get? name = some value) :
    ∃ before s after, ss = before ++ s :: after
      ∧ (p.run before).1.environment.get? name = none
      ∧ (p.run before).1.Gives name value
      ∧ ∀ more, more <+: after →
          (p.run (before ++ s :: more)).1.environment.get? name = some value := by
  induction ss generalizing p with
  | nil =>
    rw [run_nil, hname] at h
    cases h
  | cons s ss ih =>
    have hrest : ∀ t ∈ ss, t.leavesVariables = true :=
      fun t ht => hss t (List.mem_cons_of_mem _ ht)
    rw [run_cons] at h
    cases hstep : (p.step s).1.environment.get? name with
    | none =>
      obtain ⟨before, t, after, rfl, hbefore, hgives, hkept⟩ := ih hrest hstep h
      exact ⟨s :: before, t, after, rfl, hbefore, hgives, hkept⟩
    | some first =>
      -- The value of this step is the one at the end, so it is the value in between as well.
      rw [(growsTo_run hrest).get?_eq hstep] at h
      obtain rfl := Option.some.inj h
      have hgives := (p.moves_step s).gives (hss s (List.mem_cons_self ..)) hname hstep
      refine ⟨[], s, ss, rfl, hname, hgives, fun more hmore => ?_⟩
      exact (growsTo_run fun t ht => hrest t (hmore.subset ht)).get?_eq hstep

/-- **Gaps are filled, from one place.** A load that comes to its end leaves every variable as it is
that was there; every variable that it adds has the value that the nearest `.env` gives to the name;
it does the same in any tree with the same entries where it searches; and done again it changes nothing.
Over any steps that set and unset no variable the environment only grows, and a variable that is new
at the end was added by one of the steps, with the value that the `.env` nearest at that time gave to
it, and has this value after every later step. -/
theorem loadNearest_fills (p : Session) :
    (∀ q warnings, p.loadNearest = (q, warnings, none) →
        (∀ name value, p.environment.get? name = some value →
            q.environment.get? name = some value)
          ∧ (∀ name value, p.environment.get? name = none →
              q.environment.get? name = some value → p.Gives name value)
          ∧ (∀ fs : Files, (∀ path ∈ p.searched, fs.get? path = p.files.get? path) →
              ({ p with files := fs } : Session).loadNearest
                = ({ q with files := fs }, warnings, none))
          ∧ ∃ more, q.loadNearest = (q, more, none))
      ∧ ∀ steps : List Step, (∀ s ∈ steps, s.leavesVariables = true) →
          p.environment.GrowsTo (p.run steps).1.environment
            ∧ ∀ name value, p.environment.get? name = none →
                (p.run steps).1.environment.get? name = some value →
                ∃ before s after, steps = before ++ s :: after
                  ∧ (p.run before).1.environment.get? name = none
                  ∧ (p.run before).1.Gives name value
                  ∧ ∀ more, more <+: after →
                      (p.run (before ++ s :: more)).1.environment.get? name = some value := by
  refine ⟨fun q warnings hload => ?_, fun steps hsteps => ?_⟩
  · have hgrows := p.loadNearest_eq.2
    rw [hload] at hgrows
    refine ⟨fun name value => hgrows.get?_eq, fun name value hname hvalue => ?_, fun fs hfs => ?_,
      loadNearest_loadNearest hload⟩
    · refine gives_of_loadNearest hname ?_
      rw [hload]
      exact hvalue
    · rw [loadNearest_of_agrees hfs, hload]
  -- For a run, the induction is done once for growth and once for the step that gave the name.
  · exact ⟨growsTo_run hsteps, fun name value => exists_given_of_run hsteps⟩

/-! ### A gap -/

/-- A session with a variable in its environment and a `.env` file above its working folder. -/
def gapSession : Session :=
  .start ⟨[("A", "0")]⟩
    (Files.empty.put [dotenvName] (.file (Text.Utf8.encode "A=1\nB=$\x7bA\x7d!\n"))) ["work"]

theorem loadNearest_gapSession : gapSession.loadNearest
    = ({ gapSession with environment := ⟨[("A", "0"), ("B", "0!")]⟩ }, [], none) := by
  have hdecode : Text.Utf8.decode (Text.Utf8.encode "A=1\nB=$\x7bA\x7d!\n")
      = .ok "A=1\nB=$\x7bA\x7d!\n" := by cbv
  have hstatements : Dotenv.statements "A=1\nB=$\x7bA\x7d!\n"
      = [.binding "A" (some "1"), .binding "B" (some "$\x7bA\x7d!")] := by cbv
  -- No file in the working folder, so the one above is found.
  have hnearest : gapSession.nearest?
      = some (.file (Text.Utf8.encode "A=1\nB=$\x7bA\x7d!\n")) := by rfl
  have henv : gapSession.environment = ⟨[("A", "0")]⟩ := rfl
  have henabled : ¬Dotenv.isDisabled ⟨[("A", "0")]⟩ = true := by decide
  rw [loadNearest, hnearest]
  dsimp only
  rw [henv, Dotenv.load_of_decode henabled hdecode, hstatements]
  rfl

/-- The variable that is there keeps its value, the other one is given by the file, and an edit of
the file does not change it. -/
theorem loadNearest_fills_gap :
    ∃ q, gapSession.loadNearest = (q, [], none)
      ∧ q.environment.get? "A" = some "0"
      ∧ gapSession.Gives "B" "0!"
      ∧ (∃ more, q.loadNearest = (q, more, none))
      ∧ let later := (q.run [.write [dotenvName] (.file (Text.Utf8.encode "B=2\n")), .reset, .load]).1
        later.environment.get? "B" = some "0!" := by
  obtain ⟨hkept, hgiven, -, hagain⟩ :=
    (loadNearest_fills gapSession).1 _ _ loadNearest_gapSession
  refine ⟨_, loadNearest_gapSession, hkept "A" "0" (by rfl), hgiven "B" "0!" (by rfl) (by rfl),
    hagain, ?_⟩
  -- The later edit fills no gap any more, since the name has a value by then.
  refine ((loadNearest_fills _).2 _ ?_).1.get?_eq (by rfl)
  intro s hs
  simp only [List.mem_cons, List.not_mem_nil, or_false] at hs
  rcases hs with rfl | rfl | rfl
  · rfl
  · rfl
  · rfl

end Session
end Settings
end ChatProbe
