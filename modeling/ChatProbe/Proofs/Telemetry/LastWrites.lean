import Mathlib.Data.Finset.Card
import ChatProbe.Proofs.Table
import ChatProbe.Proofs.Telemetry.Verdict
/-!
# What the attributes of a span say in the end

While a block is open, attributes are written on its span: those that the block begins with, and then
whatever the calls on the span ask for. Only a write under a name, of a value that has a text, leaves
anything behind (`Request.written?`), and what it leaves is the text.

As long as the names of these writes are no more than the span may hold (`Fits`), none of them is
dropped, and the last write under each name is what the span says in the end (`Attributes.Holds`,
`Action.attributes_of_block`). Neither the exception that leaves the block nor anything behind the block
changes it.
-/

namespace ChatProbe
namespace Telemetry

/-! ### What is written -/

/-- The name and the text that a helper writes when it is asked to. It writes nothing under a key that
is no name, and nothing for a value without a text. -/
def Request.written? : Request → Option (Str × Str)
  | .attribute key v =>
    match Attributes.name? key, v.text? with
    | some name, some text => some (name, text)
    | _, _ => none
  | .status .. => none

theorem Request.written?_of_textless (key : Value) {v : Value} (htext : v.text? = none) :
    (Request.attribute key v).written? = none := by
  rw [written?, htext]
  cases Attributes.name? key with
  | none => rfl
  | some name => rfl

theorem Request.written?_of_unnamed {key : Value} (hname : Attributes.name? key = none) (v : Value) :
    (Request.attribute key v).written? = none := by
  rw [written?, hname]

theorem Request.written?_of_text {key v : Value} {name text : Str}
    (hname : Attributes.name? key = some name) (htext : v.text? = some text) :
    (Request.attribute key v).written? = some (name, text) := by
  rw [written?, hname, htext]

/-- What a call writes on the span at a position. -/
def HelperCall.written? (i : Nat) (c : HelperCall) : Option (Str × Str) :=
  match c.subject with
  | .span j => if j = i then c.request.written? else none
  | _ => none

/-- The writes on the span at a position, in the order of the calls that make them. -/
def attributeWrites (i : Nat) (calls : List HelperCall) : List (Str × Str) :=
  calls.filterMap (HelperCall.written? i)

theorem attributeWrites_append (i : Nat) (calls more : List HelperCall) :
    attributeWrites i (calls ++ more) = attributeWrites i calls ++ attributeWrites i more :=
  List.filterMap_append

theorem attributeWrites_cons (i : Nat) (c : HelperCall) (calls : List HelperCall) :
    attributeWrites i (c :: calls) = (c.written? i).toList ++ attributeWrites i calls := by
  rw [attributeWrites, List.filterMap_cons]
  cases c.written? i with
  | none => rfl
  | some write => rfl

/-- The attributes that a block begins with are written one after the other. -/
theorem attributeWrites_writes (i : Nat) (attributes : List (Str × Value)) :
    attributeWrites i (HelperCall.writes i attributes)
      = attributes.filterMap fun a => Request.written? (.attribute (.str a.1) a.2) := by
  rw [attributeWrites, HelperCall.writes, List.filterMap_map]
  refine List.filterMap_congr fun a _ => ?_
  exact if_pos rfl

/-! ### Room for all names -/

/-- The names of writes are no more than a bound allows. -/
def Fits (count : Option Nat) (writes : List (Str × Str)) : Prop :=
  ∀ n, count = some n → (writes.map (·.1)).toFinset.card ≤ n

namespace Fits

variable {count : Option Nat} {writes more : List (Str × Str)}

/-- Fewer writes have no more names. -/
theorem of_append (h : Fits count (writes ++ more)) : Fits count writes := by
  intro n hn
  have hsubset : (writes.map (·.1)).toFinset ⊆ ((writes ++ more).map (·.1)).toFinset := by
    rw [List.map_append, List.toFinset_append]
    exact Finset.subset_union_left
  exact (Finset.card_le_card hsubset).trans (h n hn)

/-- Names that are written, each listed once, are no more than the bound. -/
theorem length_le {n : Nat} (h : Fits (some n) writes) {names : List Str} (hnodup : names.Nodup)
    (hsubset : ∀ name ∈ names, name ∈ writes.map (·.1)) : names.length ≤ n := by
  have hcard : names.toFinset ⊆ (writes.map (·.1)).toFinset := by
    intro name hname
    rw [List.mem_toFinset] at hname ⊢
    exact hsubset name hname
  calc names.length
      = names.toFinset.card := (List.toFinset_card_of_nodup hnodup).symm
    _ ≤ (writes.map (·.1)).toFinset.card := Finset.card_le_card hcard
    _ ≤ n := h n rfl

end Fits

/-! ### Attributes that say the last write -/

namespace Attributes

variable {a : Attributes} {writes : List (Str × Str)} {count : Option Nat} {name text : Str}

/-- Attributes that say under each name what was written there last, and under no other. -/
structure Holds (a : Attributes) (writes : List (Str × Str)) : Prop where
  lookup : ∀ name, a.entries.lookup name = (writes.reverse.lookup name).map Value.str
  /-- Each name stands there once. -/
  nodup : (a.entries.map (·.1)).Nodup

theorem Holds.empty : Attributes.empty.Holds [] where
  lookup := fun _ => rfl
  nodup := List.nodup_nil

/-- Whatever changes no entry changes nothing. -/
theorem Holds.of_entries (h : a.Holds writes) {a' : Attributes} (hentries : a'.entries = a.entries) :
    a'.Holds writes where
  lookup := fun name => by rw [hentries, h.lookup]
  nodup := by rw [hentries]; exact h.nodup

/-- What attributes say was written. -/
theorem Holds.mem_names (h : a.Holds writes) (hname : name ∈ a.entries.map (·.1)) :
    name ∈ writes.map (·.1) := by
  obtain ⟨⟨key, v⟩, hentry, rfl⟩ := List.mem_map.mp hname
  have hlookup := Table.lookup_eq_some_of_mem h.nodup hentry
  rw [h.lookup] at hlookup
  obtain ⟨text, htext, -⟩ := Option.map_eq_some_iff.mp hlookup
  obtain ⟨write, hwrite, heq⟩ := List.lookup_isSome_iff.mp (Option.isSome_of_eq_some htext)
  refine List.mem_map.mpr ⟨write, List.mem_reverse.mp hwrite, ?_⟩
  exact (beq_iff_eq.mp heq).symm

/-- **Room for one more.** Where all names written fit, an attribute is put behind the others, its own
old value excepted, and nothing makes room for it. -/
theorem Holds.entries_put (h : a.Holds writes) (hfits : Fits count (writes ++ [(name, text)])) :
    (a.put count name (.str text)).entries
      = (a.entries.filter fun e => e.1 != name) ++ [(name, .str text)] := by
  unfold put
  by_cases hthere : (a.entries.lookup name).isSome = true
  · rw [if_pos hthere]
  · rw [if_neg hthere]
    have hnew : name ∉ a.entries.map (·.1) := by
      intro hname
      obtain ⟨entry, hentry, rfl⟩ := List.mem_map.mp hname
      rw [Table.lookup_eq_some_of_mem h.nodup hentry] at hthere
      exact hthere rfl
    have hroom : ¬count = some a.entries.length := by
      rintro rfl
      -- The names of the entries and the new one would be more than fit.
      have hlength := hfits.length_le (List.nodup_cons.mpr ⟨hnew, h.nodup⟩) (by
        intro other hother
        rw [List.map_append]
        rcases List.mem_cons.mp hother with rfl | hother
        · exact List.mem_append_right _ (List.mem_singleton.mpr rfl)
        · exact List.mem_append_left _ (h.mem_names hother))
      rw [List.length_cons, List.length_map] at hlength
      exact Nat.not_succ_le_self _ hlength
    rw [if_neg hroom]
    have hsame : (a.entries.filter fun e => e.1 != name) = a.entries := by
      refine List.filter_eq_self.mpr fun entry hentry => ?_
      refine bne_iff_ne.mpr fun heq => hnew ?_
      exact List.mem_map.mpr ⟨entry, hentry, heq⟩
    rw [hsame]

/-- **A write** counts under its name from then on, and the last writes under the other names still
count. -/
theorem Holds.put (h : a.Holds writes) (hfits : Fits count (writes ++ [(name, text)])) :
    (a.put count name (.str text)).Holds (writes ++ [(name, text)]) := by
  have hentries := h.entries_put hfits
  refine ⟨fun other => ?_, ?_⟩
  · rw [hentries, List.lookup_append, List.reverse_append, List.reverse_singleton,
      List.singleton_append, Table.lookup_cons_eq_ite, Table.lookup_cons_eq_ite]
    -- A name that is written again loses its old entry, and a new one stands behind the others.
    by_cases hother : other = name
    · have hgone : (a.entries.filter fun e => e.1 != name).lookup other = none := by
        refine List.lookup_eq_none_iff.mpr fun entry hentry => ?_
        rw [hother, bne_comm]
        exact (List.mem_filter.mp hentry).2
      rw [hgone, if_pos hother, if_pos hother]
      rfl
    · rw [Table.lookup_filter_ne hother, if_neg hother, if_neg hother, h.lookup, List.lookup_nil,
        Option.or_none]
  · rw [hentries, List.map_append, List.map_singleton, ← List.concat_eq_append]
    -- The old entry of the name was taken out, so the new one repeats none.
    refine List.Nodup.concat (fun hname => ?_) (h.nodup.sublist (List.filter_sublist.map _))
    obtain ⟨entry, hentry, heq⟩ := List.mem_map.mp hname
    exact bne_iff_ne.mp (List.mem_filter.mp hentry).2 heq

/-- Writing a text under a name. -/
theorem Holds.set (h : a.Holds writes) {key : Value} (hname : name? key = some name)
    (hfits : Fits count (writes ++ [(name, text)])) :
    (a.set count none key (.str text)).Holds (writes ++ [(name, text)]) := by
  unfold Attributes.set
  have hsome : ¬count = some 0 := by
    rintro rfl
    have hlength := hfits.length_le (List.nodup_singleton name) (by
      intro other hother
      rw [List.mem_singleton.mp hother, List.map_append]
      exact List.mem_append_right _ (List.mem_singleton.mpr rfl))
    cases hlength
  rw [if_neg hsome, hname]
  exact h.put hfits

/-- Writing under what is no name. -/
theorem Holds.set_of_unnamed (h : a.Holds writes) {key : Value} (hname : name? key = none)
    (length : Option Nat) (v : Value) : (a.set count length key v).Holds writes := by
  unfold Attributes.set
  split
  · exact h.of_entries rfl
  · rw [hname]
    exact h

end Attributes

/-! ### The attributes of a span -/

namespace Span.Open

variable {s : Span} {limits : Limits} {writes : List (Str × Str)}

/-- **A request** to a span whose attributes say the writes so far. -/
theorem attributes_apply (hs : s.Open) (hlength : limits.spanTextLength = none)
    (h : s.attributes.Holds writes) (r : Request)
    (hfits : Fits limits.spanAttributes (writes ++ r.written?.toList)) :
    (r.apply limits s).attributes.Holds (writes ++ r.written?.toList) := by
  rcases r with ⟨key, v⟩ | ⟨success, message⟩
  · rw [Request.apply]
    cases htext : v.text? with
    | none =>
      -- The old value stays, whatever the key is.
      rw [Request.written?_of_textless key htext, Option.toList_none, List.append_nil]
      exact h
    | some text =>
      have hset : (s.setAttribute limits key (.str text)).attributes
          = s.attributes.set limits.spanAttributes none key (.str text) := by
        rw [Span.setAttribute, hs.update, hlength]
      dsimp only
      rw [hset]
      cases hname : Attributes.name? key with
      | none =>
        rw [Request.written?_of_unnamed hname, Option.toList_none, List.append_nil]
        exact h.set_of_unnamed hname none (.str text)
      | some name =>
        have hwritten := Request.written?_of_text hname htext
        rw [hwritten, Option.toList_some] at hfits ⊢
        exact h.set hname hfits
  · have hkept : (s.setStatus (Tracing.statusOf success message)).attributes = s.attributes := by
      rw [Span.setStatus, hs.update]
    show (s.setStatus _).attributes.Holds (writes ++ [])
    rw [hkept, List.append_nil]
    exact h

/-- **A call** writes on its own span and on no other. -/
theorem attributes_write (hs : s.Open) (hlength : limits.spanTextLength = none)
    (h : s.attributes.Holds writes) (i : Nat) (c : HelperCall)
    (hfits : Fits limits.spanAttributes (writes ++ (c.written? i).toList)) :
    (c.write limits i s).attributes.Holds (writes ++ (c.written? i).toList) := by
  obtain ⟨subject, r⟩ := c
  cases subject with
  -- A call that is not on a span writes nothing to this one.
  | none | double d =>
    show s.attributes.Holds (writes ++ [])
    rw [List.append_nil]
    exact h
  | span j =>
    -- Of the calls on spans only those on this one count.
    by_cases hij : j = i
    · subst hij
      have hwritten : HelperCall.written? j ⟨.span j, r⟩ = r.written? := if_pos rfl
      rw [hwritten] at hfits ⊢
      rw [HelperCall.write_self]
      exact hs.attributes_apply hlength h r hfits
    · have hwritten : HelperCall.written? i ⟨.span j, r⟩ = none := if_neg hij
      rw [hwritten, HelperCall.write_of_ne hij, Option.toList_none, List.append_nil]
      exact h

/-- **Calls** write one after the other. -/
theorem attributes_written (hs : s.Open) (hlength : limits.spanTextLength = none)
    (h : s.attributes.Holds writes) (i : Nat) (calls : List HelperCall)
    (hfits : Fits limits.spanAttributes (writes ++ attributeWrites i calls)) :
    (s.written limits i calls).attributes.Holds (writes ++ attributeWrites i calls) := by
  induction calls generalizing s writes with
  | nil =>
    show s.attributes.Holds (writes ++ [])
    rw [List.append_nil]
    exact h
  | cons c calls ih =>
    rw [attributeWrites_cons, ← List.append_assoc] at hfits ⊢
    -- What fits in the end fits all along.
    have hfirst := hs.attributes_write hlength h i c hfits.of_append
    exact ih (hs.write limits i c) hfirst hfits

end Span.Open

/-- The end of a block, and an exception that leaves it, write no attribute. -/
theorem Span.Open.attributes_closed {s : Span} (hs : s.Open) (tracer : Tracer)
    (flight : Option Raised) : (s.closed tracer flight).attributes = s.attributes := by
  unfold Span.closed
  cases flight with
  | none => rw [Option.map_none, Option.getD_none, hs.finish]
  | some e =>
    rw [Option.map_some, Option.getD_some, (hs.report tracer e).finish]
    show (s.report tracer e).attributes = s.attributes
    unfold Span.report
    cases e.message? with
    | none => rfl
    | some message =>
      dsimp only
      -- The record of an exception goes to the events and its text to the status.
      split
      · rw [Span.setStatus, (hs.addEvent ..).update, Span.addEvent, hs.update]
      · rfl

/-- **The attributes of a span.** Take any block, opened in any state of a program whose spans are
recorded and whose texts are not cut, with any attributes to begin with and any body. Its writes are
those of these attributes, in front of those of the calls that the body makes on the span of the block;
let their names be no more than a span may hold.

* The span has ended behind the block. Under each name that was written it says the text of the last
  write, and it says nothing under any other name. A value without a text was no write.
* Nothing that comes behind the block changes the span. -/
theorem Action.attributes_of_block {t : Tracing} (hrecorded : t.tracer.recorded = true)
    (hlength : t.tracer.limits.spanTextLength = none) (current : Option Nat) (name : String)
    (attributes : List (Str × Value)) (catches : Bool) (body : List Action) :
    let i := t.spans.length
    let inside := ((t.enter name current).1.addAttributes i attributes).1
    let writes := (attributes.filterMap fun a => Request.written? (.attribute (.str a.1) a.2))
      ++ attributeWrites i (helperCallsAll (some i) body inside)
    let behind := (Action.run current (.block name attributes catches body) t).1
    Fits t.tracer.limits.spanAttributes writes →
    ∃ s, behind.spans[i]? = some s
      ∧ s.ended = true
      ∧ (∀ key, s.attributes.entries.lookup key = (writes.reverse.lookup key).map Value.str)
      ∧ (s.attributes.entries.map (·.1)).Nodup
      ∧ ∀ current' later, (runAll current' later behind).1.spans[i]? = some s := by
  intro i inside writes behind hfits
  obtain ⟨opened, hopen, -, hempty, hspan, hended, hlater⟩ :=
    Action.exists_span_of_block hrecorded current name attributes catches body
  have hnothing : opened.attributes.Holds [] := by
    rw [hempty]
    exact .empty
  have hwrites : attributeWrites i
      (HelperCall.writes i attributes ++ helperCallsAll (some i) body inside) = writes := by
    rw [attributeWrites_append, attributeWrites_writes]
  -- The span starts without attributes, so the writes of the block are all that it has to say.
  have hholds := hopen.attributes_written hlength hnothing i
    (HelperCall.writes i attributes ++ helperCallsAll (some i) body inside)
    (by rw [hwrites]; exact hfits)
  rw [hwrites, List.nil_append] at hholds
  have hwritten := hopen.written t.tracer.limits i
    (HelperCall.writes i attributes ++ helperCallsAll (some i) body inside)
  rw [← hwritten.attributes_closed t.tracer (runAll (some i) body inside).2] at hholds
  exact ⟨_, hspan, hended, hholds.lookup, hholds.nodup, hlater⟩

/-- Writes on the span around them and on none, some of values without a text, and an exception. -/
def overwriting : List Action :=
  [.attribute .innermost (.str "size") (.bool true),
   .block "inner" [("size", .str "inner")] true
    [.attribute (.named "outer") (.str "size") (.list [.null]), .raise (.mk "KeyError" [] none)],
   .attribute .innermost (.str "size") unprintable,
   .attribute .innermost (.str "lost") (.tuple [unprintable]),
   .attribute .nothing (.str "size") (.str "none")]

/-- The write from inside the inner block is the last one of a value with a text. -/
theorem Action.attributes_of_block_outer :
    let outer := Action.block "outer" [("size", .null), ("kind", .str "probe")] false overwriting
    let behind := (Action.run none outer (.start plainTracer [])).1
    ∃ s, behind.spans[0]? = some s
      ∧ s.attributes.entries.lookup ↑"size" = some (.str "[None]")
      ∧ s.attributes.entries.lookup ↑"kind" = some (.str "probe")
      ∧ s.attributes.entries.lookup ↑"lost" = none
      ∧ (runAll none [.attribute (.opened 0) (.str "size") .null] behind).1.spans[0]? = some s := by
  obtain ⟨s, hs, -, hlookup, -, hlater⟩ :=
    Action.attributes_of_block (t := .start plainTracer []) rfl rfl none "outer"
      [("size", .null), ("kind", .str "probe")] false overwriting (by
        intro n hn
        cases hn
        decide)
  -- Of the two writes under one name the later one is found, and the one without a text is not.
  exact ⟨s, hs, hlookup "size", hlookup "kind", hlookup "lost", hlater none _⟩

/-- Where the environment sets no limits, a span is recorded, its texts are not cut, and it may hold 128
names. -/
example : (Tracer.ofEnvironment .empty).map (fun tracer =>
      (tracer.recorded, tracer.limits.spanTextLength, tracer.limits.spanAttributes))
    = .ok (true, none, some 128) := by rfl

end Telemetry
end ChatProbe
