import ChatProbe.Dotenv.Assignment
import ChatProbe.Proofs.Table
import ChatProbe.Proofs.Outcome
/-!
# Loading fills gaps

A load of a `.env` file only ever adds variables behind those that are there
(`Environment.GrowsTo`), and only such whose names are not there yet (`growsTo_load`). This also
holds of a load that fails on the way.

* `Environment.GrowsTo.get?_eq`: a variable that was there keeps its value.
* `Environment.GrowsTo.folded?_eq`: without regard to letter case, this takes that no variable
  was added whose name agrees up to case, since of several the last one counts.
* `Dotenv.given_of_load`: a variable that was added has the value that the file gives to its name.
* `Dotenv.load_load`: a second load adds nothing. It reads the values in an environment that the
  first one has changed, and so may find other values; but it finds them for the same names
  (`Dotenv.shape_assignmentsOf`), which are all there by now.
-/

namespace ChatProbe
namespace Environment

/-- The second environment is the first one with variables of other names behind it. -/
def GrowsTo (env env' : Environment) : Prop :=
  ∃ added, env'.bindings = env.bindings ++ added ∧ ∀ b ∈ added, env.get? b.1 = none

/-- A variable that is not there is set behind the others. -/
theorem bindings_set {env : Environment} {name : String} (h : env.get? name = none) (value : String) :
    (env.set name value).bindings = env.bindings ++ [(name, value)] :=
  Table.write_of_not_mem (Table.not_mem_of_lookup_eq_none h)

namespace GrowsTo

variable {env env' env'' : Environment}

theorem refl (env : Environment) : env.GrowsTo env :=
  ⟨[], (List.append_nil _).symm, fun _ h => by cases h⟩

/-- Setting a variable that is not there adds it. -/
theorem set {name : String} (h : env.get? name = none) (value : String) :
    env.GrowsTo (env.set name value) := by
  refine ⟨[(name, value)], bindings_set h value, fun b hb => ?_⟩
  rw [List.mem_singleton.mp hb]
  exact h

/-- A variable that was there keeps its value. -/
theorem get?_eq (h : env.GrowsTo env') {name value : String} (hname : env.get? name = some value) :
    env'.get? name = some value := by
  obtain ⟨added, hadded, -⟩ := h
  rw [Environment.get?, hadded, List.lookup_append]
  show (env.get? name).or _ = _
  rw [hname]
  rfl

theorem get?_eq_none (h : env.GrowsTo env') {name : String} (hname : env'.get? name = none) :
    env.get? name = none := by
  cases hvalue : env.get? name with
  | none => rfl
  | some value =>
    rw [h.get?_eq hvalue] at hname
    cases hname

theorem trans (h : env.GrowsTo env') (h' : env'.GrowsTo env'') : env.GrowsTo env'' := by
  obtain ⟨added', hadded', hnew'⟩ := h'
  have hnew := fun b hb => h.get?_eq_none (hnew' b hb)
  obtain ⟨added, hadded, hnew₀⟩ := h
  refine ⟨added ++ added', by rw [hadded', hadded, List.append_assoc], fun b hb => ?_⟩
  rcases List.mem_append.mp hb with hb | hb
  · exact hnew₀ b hb
  · exact hnew b hb

/-- Without regard to letter case a name means what it meant, unless a variable was added whose name
agrees with it up to case. -/
theorem folded?_eq (h : env.GrowsTo env') {name : String}
    (hadded : ∀ b ∈ env'.bindings, env.get? b.1 = none → Text.lower b.1 ≠ Text.lower name) :
    env'.folded? name = env.folded? name := by
  obtain ⟨added, hbindings, hnew⟩ := h
  -- Of several variables the last one counts, so the ones that were added are asked first.
  have hnone : added.reverse.find? (fun b => Text.lower b.1 == Text.lower name) = none := by
    rw [List.find?_eq_none]
    intro b hb
    rw [List.mem_reverse] at hb
    have hmem : b ∈ env'.bindings := by
      rw [hbindings]
      exact List.mem_append_right _ hb
    simpa using hadded b hmem (hnew b hb)
  rw [folded?, folded?, hbindings, List.reverse_append, List.find?_append, hnone]
  rfl

end GrowsTo
end Environment

namespace Dotenv

/-- **Filling gaps.** Assignments add variables and leave alone those that are there. -/
theorem growsTo_fillGaps (env : Environment) (as : List Assignment) :
    env.GrowsTo (fillGaps env as).1 := by
  -- Each assignment is looked at in the environment that the ones before it have left.
  induction as generalizing env with
  | nil => exact .refl env
  | cons a as ih =>
    obtain ⟨name, value⟩ := a
    cases value with
    | none => exact ih env
    | some value =>
      rw [fillGaps]
      cases hname : env.get? name with
      | some old => exact ih env
      | none =>
        cases checkVariable name value with
        -- The rest is not looked at any more.
        | error e => exact .refl env
        | ok u => exact (Environment.GrowsTo.set hname value).trans (ih _)

/-- A load adds variables and leaves alone those that are there. -/
theorem growsTo_load (env : Environment) (file : Option (List UInt8)) :
    env.GrowsTo (load env file).environment := by
  rw [load.eq_def]
  split
  · exact .refl env
  · split
    · exact .refl env
    · split
      · exact .refl env
      · exact growsTo_fillGaps env _

/-! ### What a load is -/

variable {env : Environment} {bytes : List UInt8} {text : String}

theorem assignments_of_decode (precedence : Precedence) (env : Environment)
    (hdecode : Text.Utf8.decode bytes = .ok text) :
    assignments precedence env bytes
      = .ok (assignmentsOf precedence env (statements text), warningsOf (statements text)) := by
  rw [assignments, hdecode]
  rfl

theorem load_of_disabled (h : isDisabled env = true) (file : Option (List UInt8)) :
    load env file = ⟨env, [.disabled], none⟩ := by
  rw [load.eq_def, if_pos h]

theorem load_none (h : ¬isDisabled env = true) : load env none = ⟨env, [], none⟩ := by
  rw [load.eq_def, if_neg h]

theorem load_of_decode_error {e : Text.Utf8.Fault} (h : ¬isDisabled env = true)
    (hdecode : Text.Utf8.decode bytes = .error e) :
    load env (some bytes) = ⟨env, [], some (.undecodable e)⟩ := by
  rw [load.eq_def, if_neg h]
  dsimp only
  rw [assignments, hdecode]
  rfl

/-- An enabled load of a file that can be read fills gaps with the assignments of its statements. -/
theorem load_of_decode (h : ¬isDisabled env = true) (hdecode : Text.Utf8.decode bytes = .ok text) :
    load env (some bytes)
      = ⟨(fillGaps env (assignmentsOf .environmentFirst env (statements text))).1,
        warningsOf (statements text),
        (fillGaps env (assignmentsOf .environmentFirst env (statements text))).2⟩ := by
  rw [load.eq_def, if_neg h]
  dsimp only
  rw [assignments_of_decode _ _ hdecode]

/-! ### What is added -/

/-- **One value a name.** The assignments of a file name each name once. -/
theorem nodup_assignmentsOf (precedence : Precedence) (env : Environment) (ss : List Statement) :
    ((assignmentsOf precedence env ss).map (·.1)).Nodup := by
  -- What is behind the statements so far holds at the start and is kept by each statement.
  suffices h : ∀ as : List Assignment, (as.map (·.1)).Nodup →
      ((ss.foldl (assignStatement precedence env) as).map (·.1)).Nodup from h [] List.nodup_nil
  induction ss with
  | nil => exact fun as h => h
  | cons s ss ih =>
    intro as h
    refine ih _ ?_
    cases s with
    | binding name value =>
      exact Table.nodup_write name _ h
    | _ => exact h

/-- A variable that filling gaps has added has the value of an assignment. -/
theorem mem_of_fillGaps {env : Environment} {as : List Assignment} {name value : String}
    (hname : env.get? name = none) (h : (fillGaps env as).1.get? name = some value) :
    (name, some value) ∈ as := by
  induction as generalizing env with
  | nil =>
    rw [fillGaps, hname] at h
    cases h
  | cons a as ih =>
    obtain ⟨n, v⟩ := a
    cases v with
    | none => exact List.mem_cons_of_mem _ (ih hname h)
    | some v =>
      rw [fillGaps] at h
      split at h
      · exact List.mem_cons_of_mem _ (ih hname h)
      · split at h
        -- A refused variable ends the load, and the name is still missing then.
        · rw [hname] at h
          cases h
        · by_cases heq : name = n
          · -- The value that is set here is the one at the end.
            subst heq
            have hset : (env.set name v).get? name = some v := by simp
            rw [(growsTo_fillGaps _ as).get?_eq hset] at h
            obtain rfl := Option.some.inj h
            exact List.mem_cons_self ..
          · have hset : (env.set n v).get? name = none := by simp [heq, hname]
            exact List.mem_cons_of_mem _ (ih hset h)

/-- **What was added** is what the file gives to the name. -/
theorem given_of_load {file : Option (List UInt8)} {name value : String}
    (hname : env.get? name = none) (h : (load env file).environment.get? name = some value) :
    ∃ bytes as warnings, file = some bytes
      ∧ assignments .environmentFirst env bytes = .ok (as, warnings)
      ∧ as.lookup name = some (some value) := by
  have hnew : env.get? name ≠ some value := by simp [hname]
  by_cases hdisabled : isDisabled env = true
  · rw [load_of_disabled hdisabled] at h
    exact absurd h hnew
  cases file with
  | none =>
    rw [load_none hdisabled] at h
    exact absurd h hnew
  | some bytes =>
    -- All that can put the name there is an assignment of the file.
    cases hdecode : Text.Utf8.decode bytes with
    | error e =>
      rw [load_of_decode_error hdisabled hdecode] at h
      exact absurd h hnew
    | ok text =>
      rw [load_of_decode hdisabled hdecode] at h
      exact ⟨bytes, _, _, rfl, assignments_of_decode _ _ hdecode,
        Table.lookup_eq_some_of_mem (nodup_assignmentsOf _ _ _) (mem_of_fillGaps hname h)⟩

/-! ### Loading twice -/

/-- The names of assignments, and which of them have a value. -/
def shape (as : List Assignment) : List (String × Bool) := as.map fun a => (a.1, a.2.isSome)

theorem shape_write (name : String) (value : Option String) (as : List Assignment) :
    shape (Table.write name value as) = Table.write name value.isSome (shape as) :=
  Table.map_write Option.isSome name value as

/-- Which names a file gives a value to depends neither on the environment nor on what counts first. -/
theorem shape_assignmentsOf (precedence precedence' : Precedence) (env env' : Environment)
    (ss : List Statement) :
    shape (assignmentsOf precedence env ss) = shape (assignmentsOf precedence' env' ss) := by
  -- The fold is compared from any two lists of one shape.
  suffices h : ∀ as as' : List Assignment, shape as = shape as' →
      shape (ss.foldl (assignStatement precedence env) as)
        = shape (ss.foldl (assignStatement precedence' env') as') from h [] [] rfl
  induction ss with
  | nil => exact fun as as' h => h
  | cons s ss ih =>
    intro as as' h
    refine ih _ _ ?_
    cases s with
    | binding name value =>
      rw [assignStatement, assignStatement, shape_write, shape_write, h, Option.isSome_map,
        Option.isSome_map]
    | _ => exact h

theorem mem_shape_iff {as : List Assignment} {name : String} :
    (name, true) ∈ shape as ↔ ∃ value, (name, some value) ∈ as := by
  rw [shape, List.mem_map]
  refine ⟨?_, fun ⟨value, h⟩ => ⟨_, h, rfl⟩⟩
  rintro ⟨⟨n, v⟩, hmem, heq⟩
  obtain ⟨rfl, hv⟩ := Prod.mk.inj heq
  obtain ⟨value, rfl⟩ := Option.isSome_iff_exists.mp hv
  exact ⟨value, hmem⟩

/-- Filling gaps to the end leaves no gap. -/
theorem filled_of_fillGaps {env env' : Environment} {as : List Assignment} {name value : String}
    (h : fillGaps env as = (env', none)) (hmem : (name, some value) ∈ as) :
    (env'.get? name).isSome := by
  induction as generalizing env with
  | nil => cases hmem
  | cons a as ih =>
    obtain ⟨n, v⟩ := a
    cases v with
    | none =>
      rw [fillGaps] at h
      rcases List.mem_cons.mp hmem with heq | hmem
      · cases heq
      · exact ih h hmem
    | some v =>
      have hgrows := growsTo_fillGaps env ((n, some v) :: as)
      rw [h] at hgrows
      rw [fillGaps] at h
      split at h
      -- A name that is there stays there, and one that is set stays set, since the environment only
      -- grows.
      · next hthere =>
        rcases List.mem_cons.mp hmem with heq | hmem
        · obtain ⟨rfl, -⟩ := Prod.mk.inj heq
          obtain ⟨w, hw⟩ := Option.isSome_iff_exists.mp hthere
          rw [hgrows.get?_eq hw]
          rfl
        · exact ih h hmem
      · split at h
        · cases h
        · rcases List.mem_cons.mp hmem with heq | hmem
          · obtain ⟨rfl, -⟩ := Prod.mk.inj heq
            have hset : (env.set name v).get? name = some v := by simp
            have hrest := growsTo_fillGaps (env.set name v) as
            rw [h] at hrest
            rw [hrest.get?_eq hset]
            rfl
          · exact ih h hmem

/-- Where there is no gap, nothing is filled. -/
theorem fillGaps_eq_self {env : Environment} {as : List Assignment}
    (h : ∀ name value, (name, some value) ∈ as → (env.get? name).isSome) :
    fillGaps env as = (env, none) := by
  induction as with
  | nil => rfl
  | cons a as ih =>
    obtain ⟨n, v⟩ := a
    have hrest := ih fun name value hmem => h name value (List.mem_cons_of_mem _ hmem)
    cases v with
    | none => exact hrest
    | some v => rw [fillGaps, if_pos (h n v (List.mem_cons_self ..)), hrest]

/-- **A second load** right behind a first one that came to its end adds nothing. -/
theorem load_load {file : Option (List UInt8)} (h : (load env file).failure = none) :
    ∃ warnings, load (load env file).environment file
      = ⟨(load env file).environment, warnings, none⟩ := by
  by_cases hdisabled : isDisabled env = true
  · rw [load_of_disabled hdisabled, load_of_disabled hdisabled]
    exact ⟨_, rfl⟩
  cases file with
  | none =>
    rw [load_none hdisabled, load_none hdisabled]
    exact ⟨_, rfl⟩
  | some bytes =>
    cases hdecode : Text.Utf8.decode bytes with
    | error e =>
      rw [load_of_decode_error hdisabled hdecode] at h
      cases h
    | ok text =>
      rw [load_of_decode hdisabled hdecode] at h ⊢
      dsimp only at h ⊢
      rcases hfill : fillGaps env (assignmentsOf .environmentFirst env (statements text))
        with ⟨env', failure⟩
      rw [hfill] at h
      dsimp only at h ⊢
      subst h
      -- The second load is turned off by the first one, or finds every name there.
      by_cases hdisabled' : isDisabled env' = true
      · rw [load_of_disabled hdisabled']
        exact ⟨_, rfl⟩
      have hthere : ∀ name value,
          (name, some value) ∈ assignmentsOf .environmentFirst env' (statements text) →
            (env'.get? name).isSome := by
        intro name value hmem
        have hshape := mem_shape_iff.mpr ⟨value, hmem⟩
        rw [shape_assignmentsOf _ .environmentFirst _ env] at hshape
        obtain ⟨value', hmem'⟩ := mem_shape_iff.mp hshape
        exact filled_of_fillGaps hfill hmem'
      rw [load_of_decode hdisabled' hdecode, fillGaps_eq_self hthere]
      exact ⟨_, rfl⟩

end Dotenv
end ChatProbe
