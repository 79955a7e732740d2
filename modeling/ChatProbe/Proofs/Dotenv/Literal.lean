import ChatProbe.Proofs.Dotenv.Loading
/-!
# Values without references

The values of a `.env` file are read twice: for the environment, where its variables count before the
assignments of the file, and for settings, where the assignments count first. The two readings can
differ in values that refer to other names. They agree about a name whose values are literal
(`Dotenv.filter_assignmentsOf`).

Where no variable of an environment has such a name, in any letter case, a load that comes to its end
gives it what settings read in the file (`Dotenv.folded?_of_fillGaps`).
-/

namespace ChatProbe
namespace Dotenv

/-- Whether a value holds no beginning of a reference. -/
def Literal (value : String) : Prop := ¬['$', '\x7b'] <:+: value.toList

theorem expandList_of_literal {lookup : String → Option (Option String)} (fuel : Nat) {cs : List Char}
    (h : ¬['$', '\x7b'] <:+: cs) : expandList lookup fuel cs = cs := by
  induction fuel generalizing cs with
  | zero => rw [expandList]
  | succ fuel ih =>
    cases cs with
    | nil => rw [expandList]
    | cons c cs =>
      -- What stands behind the first character is literal as well.
      have hrest : expandList lookup fuel cs = cs :=
        ih fun hinside => h (hinside.trans (List.suffix_cons c cs).isInfix)
      rw [expandList.eq_def]
      dsimp only
      split
      · -- A dollar sign in front of a brace is what a literal value does not hold.
        next rest => exact absurd (List.prefix_append ['$', '\x7b'] rest).isInfix h
      · rw [hrest]

theorem expand_of_literal {lookup : String → Option (Option String)} {value : String}
    (h : Literal value) : expand lookup value = value := by
  rw [expand, expandList_of_literal _ h, String.ofList_toList]

/-! ### The assignments under a name -/

/-- Whether something is under a name, letter case apart. -/
def spells {α : Type} (field : String) (a : String × α) : Bool := Text.lower a.1 == Text.lower field

/-- Whether all values that statements give to a name, in any letter case, are literal. -/
def GivesLiterally (ss : List Statement) (field : String) : Prop :=
  ∀ name value, .binding name (some value) ∈ ss → Text.lower name = Text.lower field → Literal value

section Filter

variable {field name : String} {value : Option String}

theorem filter_write_of_spells (h : spells field (name, value) = true) (as : List Assignment) :
    (Table.write name value as).filter (spells field)
      = Table.write name value (as.filter (spells field)) :=
  Table.filter_write_of_pos (p := fun n => Text.lower n == Text.lower field) h value as

theorem filter_write_of_not_spells (h : ¬spells field (name, value) = true) (as : List Assignment) :
    (Table.write name value as).filter (spells field) = as.filter (spells field) :=
  Table.filter_write_of_neg (p := fun n => Text.lower n == Text.lower field) h value as

/-- **Literal values read the same**, whatever counts first and in whatever environment. -/
theorem filter_assignmentsOf {ss : List Statement} (h : GivesLiterally ss field)
    (precedence precedence' : Precedence) (env env' : Environment) :
    (assignmentsOf precedence env ss).filter (spells field)
      = (assignmentsOf precedence' env' ss).filter (spells field) := by
  -- Both folds start from nothing, but the induction needs any two lists that agree on the field.
  suffices hfold : ∀ as as' : List Assignment,
      as.filter (spells field) = as'.filter (spells field) →
        (ss.foldl (assignStatement precedence env) as).filter (spells field)
          = (ss.foldl (assignStatement precedence' env') as').filter (spells field) from
    hfold [] [] rfl
  induction ss with
  | nil => exact fun as as' hsame => hsame
  | cons s ss ih =>
    intro as as' hsame
    refine ih (fun name value hmem => h name value (List.mem_cons_of_mem _ hmem)) _ _ ?_
    cases s with
    | blank | unreadable line => exact hsame
    | binding name value =>
      rw [assignStatement, assignStatement]
      by_cases hspells : Text.lower name = Text.lower field
      · -- Both readings leave a literal value as it is written.
        have hread : ∀ lookup, value.map (expand lookup) = value := by
          intro lookup
          cases value with
          | none => rfl
          | some text =>
            have hliteral := h name text (List.mem_cons_self ..) hspells
            rw [Option.map_some, expand_of_literal hliteral]
        have hname : spells field (name, value) = true := beq_iff_eq.mpr hspells
        rw [hread, hread, filter_write_of_spells hname, filter_write_of_spells hname, hsame]
      · have hname : ∀ v : Option String, ¬spells field (name, v) = true :=
          fun v hv => hspells (beq_iff_eq.mp hv)
        rw [filter_write_of_not_spells (hname _), filter_write_of_not_spells (hname _), hsame]

/-- A file that never names a field assigns nothing to it. -/
theorem filter_assignmentsOf_eq_nil {ss : List Statement}
    (h : ∀ name value, .binding name value ∈ ss → Text.lower name ≠ Text.lower field)
    (precedence : Precedence) (env : Environment) :
    (assignmentsOf precedence env ss).filter (spells field) = [] := by
  -- As above, the induction is over all that could have been assigned before.
  suffices hfold : ∀ as : List Assignment, as.filter (spells field) = [] →
      (ss.foldl (assignStatement precedence env) as).filter (spells field) = [] from hfold [] rfl
  induction ss with
  | nil => exact fun as hnone => hnone
  | cons s ss ih =>
    intro as hnone
    refine ih (fun name value hmem => h name value (List.mem_cons_of_mem _ hmem)) _ ?_
    cases s with
    | blank | unreadable line => exact hnone
    | binding name value =>
      rw [assignStatement, filter_write_of_not_spells, hnone]
      exact fun hspells => h name value (List.mem_cons_self ..) (beq_iff_eq.mp hspells)

end Filter

/-! ### What a load makes of them -/

/-- The variable that an assignment asks for. -/
def asked? (a : Assignment) : Option (String × String) := a.2.map fun value => (a.1, value)

/-- Filling gaps to the end: the first assignment finds its name taken, or sets it. -/
theorem fillGaps_cons_cases {env env' : Environment} {name value : String} {as : List Assignment}
    (h : fillGaps env ((name, some value) :: as) = (env', none)) :
    (∃ old, env.get? name = some old) ∧ fillGaps env as = (env', none)
      ∨ env.get? name = none ∧ fillGaps (env.set name value) as = (env', none) := by
  rw [fillGaps] at h
  cases hname : env.get? name with
  | some old =>
    rw [hname] at h
    exact .inl ⟨⟨old, rfl⟩, h⟩
  | none =>
    rw [hname, Option.isSome_none, if_neg Bool.false_ne_true] at h
    -- A variable that is refused ends the load with a failure.
    cases hcheck : checkVariable name value with
    | error e =>
      rw [hcheck] at h
      cases h
    | ok u =>
      rw [hcheck] at h
      exact .inr ⟨rfl, h⟩

/-- **Filling gaps** adds the variables under a name that assignments ask for, where there was none. -/
theorem filter_fillGaps {env env' : Environment} {as : List Assignment} {field : String}
    (hnames : (as.map (·.1)).Nodup) (hfree : ∀ a ∈ as, spells field a = true → env.get? a.1 = none)
    (h : fillGaps env as = (env', none)) :
    env'.bindings.filter (spells field)
      = env.bindings.filter (spells field) ++ (as.filter (spells field)).filterMap asked? := by
  induction as generalizing env with
  | nil =>
    cases h
    exact (List.append_nil _).symm
  | cons a as ih =>
    obtain ⟨name, value⟩ := a
    obtain ⟨hnew, hdistinct⟩ := List.nodup_cons.mp hnames
    have hrest : ∀ a ∈ as, spells field a = true → env.get? a.1 = none :=
      fun a ha => hfree a (List.mem_cons_of_mem _ ha)
    cases value with
    | none =>
      rw [ih hdistinct hrest h, List.filter_cons]
      split
      · rfl
      · rfl
    | some value =>
      rcases fillGaps_cons_cases h with ⟨⟨old, hold⟩, hnext⟩ | ⟨hname, hnext⟩
      · -- The name is taken, so it is none of those that are looked for.
        have hspells : ¬spells field (name, some value) = true := by
          intro hspells
          rw [hfree _ (List.mem_cons_self ..) hspells] at hold
          cases hold
        rw [List.filter_cons_of_neg hspells]
        exact ih hdistinct hrest hnext
      -- The gap is filled at the end, and the names behind it are still free.
      · have hbindings : (env.set name value).bindings = env.bindings ++ [(name, value)] :=
          Environment.bindings_set hname value
        have hset : ∀ a ∈ as, spells field a = true → (env.set name value).get? a.1 = none := by
          intro a ha hspells
          have hne : a.1 ≠ name := fun heq => hnew (List.mem_map.mpr ⟨a, ha, heq⟩)
          rw [Environment.get?_set, if_neg hne]
          exact hrest a ha hspells
        rw [ih hdistinct hset hnext, hbindings, List.filter_append, List.append_assoc]
        congr 1
        have hsame : spells field (name, some value) = spells field (name, value) := rfl
        rw [List.filter_cons, List.filter_cons, hsame]
        split
        · rfl
        · rfl

/-- The last entry that passes a test is the last of those that do. -/
theorem find?_reverse {α : Type} (p : α → Bool) (as : List α) :
    as.reverse.find? p = (as.filter p).getLast? := by
  rw [← List.head?_filter, List.filter_reverse, List.head?_reverse]

theorem filter_eq_nil_of_folded? {env : Environment} {field : String} (h : env.folded? field = none) :
    env.bindings.filter (spells field) = [] := by
  rw [Environment.folded?, Option.map_eq_none_iff] at h
  have hlast := (find?_reverse (spells field) env.bindings).symm.trans h
  exact List.getLast?_eq_none_iff.mp hlast

/-- **What settings read in a file, a load gives**, where no variable has the name, in any letter case,
and the file gives literal values to it. -/
theorem folded?_of_fillGaps {env env' : Environment} {ss : List Statement} {field text : String}
    (hliteral : GivesLiterally ss field) (hfree : env.folded? field = none)
    (hfill : fillGaps env (assignmentsOf .environmentFirst env ss) = (env', none))
    (hlast : ((assignmentsOf .fileFirst env' ss).reverse.find? (spells field)).bind (·.2)
      = some text) : env'.folded? field = some text := by
  have hnone := filter_eq_nil_of_folded? hfree
  have hgap : ∀ a ∈ assignmentsOf .environmentFirst env ss, spells field a = true →
      env.get? a.1 = none := by
    intro a _ hspells
    rw [Environment.get?, List.lookup_eq_none_iff]
    intro b hb
    rw [bne_iff_ne]
    intro heq
    -- A variable of this name would be one of those that are not there.
    have hmem : b ∈ env.bindings.filter (spells field) := by
      refine List.mem_filter.mpr ⟨hb, ?_⟩
      rw [spells, ← heq]
      exact hspells
    rw [hnone] at hmem
    cases hmem
  have hfilter := filter_fillGaps (nodup_assignmentsOf _ _ _) hgap hfill
  rw [hnone, List.nil_append, filter_assignmentsOf hliteral _ .fileFirst env env'] at hfilter
  rw [find?_reverse] at hlast
  obtain ⟨⟨name, value⟩, hassignment, hvalue⟩ := Option.bind_eq_some_iff.mp hlast
  obtain ⟨front, hfront⟩ := List.getLast?_eq_some_iff.mp hassignment
  dsimp only at hvalue
  subst hvalue
  rw [hfront, List.filterMap_append] at hfilter
  have hlookup : env'.folded? field
      = ((env'.bindings.filter (spells field)).getLast?).map (·.2) := by
    rw [← find?_reverse]
    rfl
  rw [hlookup, hfilter]
  simp [asked?]

end Dotenv
end ChatProbe
