import ChatProbe.Proofs.Json.Members
import ChatProbe.Proofs.Settings.Sources
import ChatProbe.Proofs.Value.Plain
/-!
# Settings from two sources that say the same

Settings are built from the environment and from the assignments of a `.env` file. What both of them
have for a group is merged. A dictionary that is merged with itself stays as it is, to any depth, since
the dictionaries of a group come from documents that were read and so have each key once
(`mergeEntries_self`, `TextSource.mergeValue_self`).

So assignments add nothing to settings where they are `Redundant`: what they say about a field outside
the groups, the environment says something about as well, and what they say about a group is what the
environment says about it (`AppSettings.build_of_redundant`).
-/

namespace ChatProbe
namespace Settings

/-! ### Merging a dictionary with itself -/

section Merge

variable {ms : List (Str × Json)} {name : Str} {j : Json}

theorem insertEntry_of_mem (hnames : (ms.map (·.1)).Nodup) (h : (name, j) ∈ ms) :
    Value.insertEntry (.str name) j.toValue (Json.toEntries ms) = Json.toEntries ms := by
  induction ms with
  | nil => cases h
  | cons m ms ih =>
    obtain ⟨name', j'⟩ := m
    obtain ⟨hnew, hnames⟩ := List.nodup_cons.mp hnames
    rw [Json.toEntries, Value.insertEntry, Value.sameKey_str]
    rcases List.mem_cons.mp h with heq | hmem
    · cases heq
      rw [if_pos (beq_self_eq_true name)]
    -- Names are distinct, so the entry is not the first one and the induction hypothesis finds it.
    · have hne : name' ≠ name := fun heq => hnew (List.mem_map.mpr ⟨(name, j), hmem, heq.symm⟩)
      rw [if_neg (fun hsame => hne (beq_iff_eq.mp hsame)), ih hnames hmem]

theorem lookupEntry_of_mem (hnames : (ms.map (·.1)).Nodup) (h : (name, j) ∈ ms) :
    Value.lookupEntry (Value.sameKey (.str name)) (Json.toEntries ms) = some j.toValue := by
  induction ms with
  | nil => cases h
  | cons m ms ih =>
    obtain ⟨name', j'⟩ := m
    obtain ⟨hnew, hnames⟩ := List.nodup_cons.mp hnames
    rw [Json.toEntries, Value.lookupEntry, Value.sameKey_str]
    rcases List.mem_cons.mp h with heq | hmem
    · cases heq
      rw [if_pos (beq_self_eq_true name)]
    · have hne : name ≠ name' := fun heq => hnew (List.mem_map.mpr ⟨(name, j), hmem, heq⟩)
      rw [if_neg (fun hsame => hne (beq_iff_eq.mp hsame)), ih hnames hmem]

/-- An entry of the dictionary of an object is a member of the object. -/
theorem exists_mem_of_mem_toEntries {e : Value × Value} (h : e ∈ Json.toEntries ms) :
    ∃ name j, (name, j) ∈ ms ∧ e = (.str name, j.toValue) := by
  induction ms with
  | nil => cases h
  | cons m ms ih =>
    obtain ⟨name, j⟩ := m
    rw [Json.toEntries] at h
    rcases List.mem_cons.mp h with rfl | h
    · exact ⟨name, j, List.mem_cons_self .., rfl⟩
    · obtain ⟨name', j', hmem, heq⟩ := ih h
      exact ⟨name', j', List.mem_cons_of_mem _ hmem, heq⟩

theorem foldl_eq_self {α β : Type} {f : β → α → β} {b : β} {as : List α} (h : ∀ a ∈ as, f b a = b) :
    as.foldl f b = b := by
  induction as with
  | nil => rfl
  | cons a as ih =>
    rw [List.foldl_cons, h a (List.mem_cons_self ..)]
    exact ih fun a' ha' => h a' (List.mem_cons_of_mem _ ha')

/-- **A dictionary merged with itself** stays as it is. -/
theorem mergeEntries_self (depth : Nat) (hnames : (ms.map (·.1)).Nodup)
    (hms : Json.WellFormedMembers ms) :
    mergeEntries depth (Json.toEntries ms) (Json.toEntries ms) = Json.toEntries ms := by
  induction depth generalizing ms with
  | zero =>
    rw [mergeEntries]
    refine foldl_eq_self fun e he => ?_
    obtain ⟨name, j, hmem, rfl⟩ := exists_mem_of_mem_toEntries he
    exact insertEntry_of_mem hnames hmem
  | succ depth ih =>
    rw [mergeEntries]
    refine foldl_eq_self fun e he => ?_
    obtain ⟨name, j, hmem, rfl⟩ := exists_mem_of_mem_toEntries he
    have hinsert := insertEntry_of_mem hnames hmem
    dsimp only
    rw [lookupEntry_of_mem hnames hmem]
    -- A dictionary below a name is merged with itself in its turn.
    cases j with
    | object inner =>
      have hinner : (Json.object inner).WellFormed := Json.wellFormed_of_mem hms hmem
      dsimp only [Json.toValue]
      rw [ih hinner.1 hinner.2]
      exact hinsert
    | _ => exact hinsert

end Merge

/-! ### The dictionary of a group -/

/-- Documents under names as arguments. -/
def fieldsOf (ms : List (String × Json)) : Inputs := ms.map fun m => (m.1, m.2.toValue)

theorem write_fieldsOf (name : String) (j : Json) (ms : List (String × Json)) :
    Table.write name j.toValue (fieldsOf ms) = fieldsOf (Table.write name j ms) :=
  (Table.map_write Json.toValue name j ms).symm

/-- The members of an object under known spellings are well-formed documents, each name once. -/
theorem exists_normalized (names : List String) {ms : List (Str × Json)}
    (hms : Json.WellFormedMembers ms) :
    ∃ ms', normalized names (ms.map fun m => (m.1.mended, m.2.toValue)) = fieldsOf ms'
      ∧ (ms'.map (·.1)).Nodup ∧ ∀ m ∈ ms', m.2.WellFormed := by
  suffices h : ∀ before : List (String × Json), (before.map (·.1)).Nodup →
      (∀ m ∈ before, m.2.WellFormed) →
      ∃ ms', (ms.map fun m => (m.1.mended, m.2.toValue)).foldl
        (fun acc i => Table.write ((knownName? names i.1).getD i.1) i.2 acc) (fieldsOf before)
          = fieldsOf ms' ∧ (ms'.map (·.1)).Nodup ∧ ∀ m ∈ ms', m.2.WellFormed by
    refine h [] List.nodup_nil ?_
    intro m hm
    cases hm
  -- The documents so far stay under different names, and the next one is put in or in place.
  induction ms with
  | nil => exact fun before hnames hbefore => ⟨before, rfl, hnames, hbefore⟩
  | cons m ms ih =>
    obtain ⟨name, j⟩ := m
    intro before hnames hbefore
    let known := (knownName? names name.mended).getD name.mended
    have hnow : ∀ m ∈ Table.write known j before, m.2.WellFormed := by
      intro m hm
      rcases Table.mem_write hm with rfl | hm
      · exact hms.1
      · exact hbefore m hm
    obtain ⟨ms', hfold, hms'⟩ := ih hms.2 _ (Table.nodup_write known j hnames) hnow
    refine ⟨ms', ?_, hms'⟩
    rw [← hfold, ← write_fieldsOf]
    rfl

/-- Such documents are the members of a well-formed object. -/
theorem exists_object_fieldsOf {ms : List (String × Json)} (hnames : (ms.map (·.1)).Nodup)
    (hms : ∀ m ∈ ms, m.2.WellFormed) :
    ∃ ms', dictOfInputs (fieldsOf ms) = .dict (Json.toEntries ms') ∧ (Json.object ms').WellFormed := by
  refine ⟨ms.map fun m => (m.1, m.2), ?_, ?_, ?_⟩
  · rw [dictOfInputs, Value.dictOfFields, fieldsOf, List.map_map, List.map_map]
    congr 1
    -- The induction is on the members alone, and what is known of all of them would only be in its way.
    clear hnames hms
    induction ms with
    | nil => rfl
    | cons m ms ih => rw [List.map_cons, ih]; rfl
  · have hwhole := hnames.map (f := Str.whole) fun _ _ => Str.whole.inj
    rw [List.map_map] at hwhole ⊢
    exact hwhole
  · clear hnames
    induction ms with
    | nil => trivial
    | cons m ms ih =>
      rw [List.forall_mem_cons] at hms
      exact ⟨hms.1, ih hms.2⟩

namespace TextSource

variable {s : TextSource} {names : List String} {field : String} {v : Option Value}

/-- **What a source has for a group**, merged with itself, stays as it is. -/
theorem mergeValue_self (h : s.group names field = .ok v) : mergeValue v v = v := by
  rw [group] at h
  split at h
  · cases h
    rfl
  · next text _ =>
    split at h
    · cases h
    · cases h
      rfl
    · next ms hread =>
      cases h
      -- Only an object is merged name by name, and there distinct names make each entry write itself.
      have hms : (Json.object ms).WellFormed := Json.wellFormed_read hread
      obtain ⟨fields, hfields, hnames, hfine⟩ := exists_normalized names hms.2
      obtain ⟨ms', hdict, hms'⟩ := exists_object_fieldsOf hnames hfine
      rw [hfields, hdict, mergeValue, mergeEntries_self _ hms'.1 hms'.2]
    · next j hnull hobject hread =>
      cases h
      cases j with
      -- Anything else replaces what it is merged into.
      | object ms => exact absurd rfl (hobject ms)
      | _ => rfl

/-- What a source has for a group is told by the text under its name. The name of the source occurs in
failures only. -/
theorem group_of_lookup_eq {s' : TextSource} (hsame : s'.lookup field = s.lookup field)
    (h : s.group names field = .ok v) : s'.group names field = .ok v := by
  rw [group] at h ⊢
  rw [hsame]
  -- Both sides read the same text from here on.
  generalize s.lookup field = text at h ⊢
  cases text with
  | none => exact h
  | some text =>
    dsimp only at h ⊢
    generalize Json.read text = document at h ⊢
    cases document with
    | error e => cases h
    | ok j =>
      cases j with
      | _ => exact h

end TextSource

/-! ### Redundant assignments -/

/-- Assignments that say nothing about a field which the environment does not say anything about, and
about a group nothing but what the environment says about it. -/
structure Redundant (env : Environment) (as : List Dotenv.Assignment) : Prop where
  fields : ∀ name ∈ GroupName.app.fieldNames, (dotenvSource as).lookup name ≠ none →
    env.folded? name ≠ none
  groups : ∀ g : GroupName, ∀ field ∈ g.fieldName?, (dotenvSource as).lookup field ≠ none →
    (dotenvSource as).lookup field = env.folded? field

namespace Redundant

variable {env : Environment} {as : List Dotenv.Assignment}

theorem nil (env : Environment) : Redundant env [] :=
  ⟨fun _ _ h => absurd rfl h, fun _ _ _ h => absurd rfl h⟩

/-- The environment comes first, so nothing is left to say about a field. -/
theorem field_eq (h : Redundant env as) {name : String} (hname : name ∈ GroupName.app.fieldNames) :
    ((environmentSource env).lookup name <|> (dotenvSource as).lookup name)
      = (environmentSource env).lookup name := by
  cases henv : (environmentSource env).lookup name with
  | some text => rfl
  | none =>
    have hnone : (dotenvSource as).lookup name = none := by
      by_contra hsome
      exact h.fields name hname hsome henv
    rw [hnone]
    rfl

/-- Where the environment can be read, so can the assignments, and what they have for a group adds
nothing. -/
theorem group_eq (h : Redundant env as) {g : GroupName} {field : String} (hfield : field ∈ g.fieldName?)
    {names : List String} {v : Option Value}
    (hv : (environmentSource env).group names field = .ok v) :
    ∃ w, (dotenvSource as).group names field = .ok w ∧ mergeValue w v = v := by
  by_cases hsome : (dotenvSource as).lookup field = none
  · refine ⟨none, ?_, ?_⟩
    · rw [TextSource.group, hsome]
    · cases v with
      | none => rfl
      | some v => rfl
  · have hsame : (dotenvSource as).lookup field = (environmentSource env).lookup field :=
      h.groups g field hfield hsome
    exact ⟨v, TextSource.group_of_lookup_eq hsame hv, TextSource.mergeValue_self hv⟩

/-- All groups of redundant assignments can be read where those of the environment can, and add
nothing to them. -/
theorem groups_eq (h : Redundant env as) {outer : GroupValues}
    (houter : (environmentSource env).groups = .ok outer) :
    ∃ inner, (dotenvSource as).groups = .ok inner
      ∧ mergeValue inner.logging outer.logging = outer.logging
      ∧ mergeValue inner.telemetry outer.telemetry = outer.telemetry
      ∧ mergeValue inner.mockServer outer.mockServer = outer.mockServer := by
  rw [TextSource.groups] at houter
  -- The groups are read one after the other, and no outer one fails.
  obtain ⟨logging, hlogging, houter⟩ := Outcome.bind_eq_ok.mp houter
  obtain ⟨telemetry, htelemetry, houter⟩ := Outcome.bind_eq_ok.mp houter
  obtain ⟨mockServer, hmockServer, houter⟩ := Outcome.bind_eq_ok.mp houter
  cases houter
  have hnames : "logging" ∈ GroupName.logging.fieldName? ∧ "telemetry" ∈ GroupName.telemetry.fieldName?
      ∧ "mock_server" ∈ GroupName.mockServer.fieldName? := ⟨rfl, rfl, rfl⟩
  obtain ⟨logging', hlogging', hmerge₁⟩ := h.group_eq hnames.1 hlogging
  obtain ⟨telemetry', htelemetry', hmerge₂⟩ := h.group_eq hnames.2.1 htelemetry
  obtain ⟨mockServer', hmockServer', hmerge₃⟩ := h.group_eq hnames.2.2 hmockServer
  refine ⟨⟨logging', telemetry', mockServer'⟩, ?_, hmerge₁, hmerge₂, hmerge₃⟩
  rw [TextSource.groups, hlogging', htelemetry', hmockServer']
  rfl

end Redundant

/-- **Redundant assignments change nothing**, neither settings nor what stands in their way. -/
theorem AppSettings.build_of_redundant {env : Environment} {as : List Dotenv.Assignment}
    (h : Redundant env as) : AppSettings.build env as [] = AppSettings.build env [] [] := by
  have hnil := Redundant.nil env
  rw [build, build]
  dsimp only
  cases houter : (environmentSource env).groups with
  | error e => rfl
  | ok outer =>
    obtain ⟨inner, hinner, hlogging, htelemetry, hmockServer⟩ := h.groups_eq houter
    obtain ⟨inner', hinner', hlogging', htelemetry', hmockServer'⟩ := hnil.groups_eq houter
    have hfields : "app_name" ∈ GroupName.app.fieldNames ∧ "app_version" ∈ GroupName.app.fieldNames
        ∧ "app_env" ∈ GroupName.app.fieldNames := by decide
    rw [hinner, hinner']
    simp only [h.field_eq hfields.1, h.field_eq hfields.2.1, h.field_eq hfields.2.2,
      hnil.field_eq hfields.1, hnil.field_eq hfields.2.1, hnil.field_eq hfields.2.2]
    -- With what was read in hand, both sides are made of what the environment has for the groups.
    simp only [bind, Except.bind, hlogging, htelemetry, hmockServer, hlogging', htelemetry',
      hmockServer']

end Settings
end ChatProbe
