/-
Which global names there are decides between free and global, and nothing else.

Two passes that are told different global names, and the same besides, go the same
way through a tree: they come to the same names at the same places, and every name is
looked up in the same frames.  Where they part is the last step of the
classification, when a name that is neither the receiver nor bound is global or
free.  So all counts but these two agree, these two have the same sum
(`Node.metCount_withGlobals`), and a pass that is told more global names takes the
references it took before but for those names (`Context.takes_withGlobals`).

What flag a global name has does not come into it, nor in which order they were
gathered.
-/
import FreeNames.Proofs.Census

namespace FreeNames

namespace Context

variable {c : Context} {g : Globals}

/-- The context with other global names. -/
def withGlobals (c : Context) (g : Globals) : Context := { c with globals := g }

/-- Of what a reference is, the global names decide one step only. -/
theorem classify_withGlobals {classes : Classification → Bool}
    (hclasses : classes .free = classes .global) (x : Ident) :
    classes ((c.withGlobals g).classify x) = classes (c.classify x) := by
  have hlast (b : Bool) : classes (if b then .global else .free) = classes .free := by
    cases b with
    | true => exact hclasses.symm
    | false => rfl
  have hbinds : (c.withGlobals g).binds x.name = c.binds x.name := rfl
  have hreceiver : (c.withGlobals g).receiver = c.receiver := rfl
  unfold classify
  rw [hbinds, hreceiver]
  split
  · rfl
  · split
    · rfl
    · split
      · rfl
      · rw [hlast, hlast]

theorem classifyTarget_withGlobals {classes : Classification → Bool}
    (hclasses : classes .free = classes .global) (x : Ident) :
    classes ((c.withGlobals g).classifyTarget x) = classes (c.classifyTarget x) := by
  have hpreserves : (c.withGlobals g).preserves = c.preserves := rfl
  unfold classifyTarget
  rw [hpreserves]
  cases c.preserves with
  | true => rfl
  | false => exact classify_withGlobals hclasses x

end Context

namespace Node

variable {c : Context} {g : Globals} {pos pos' : Position} {classes : Classification → Bool}

theorem metCount_linkEvents_withGlobals (hclasses : classes .free = classes .global)
    (hpos : pos'.stance = pos.stance) (n : Node) :
    metCount classes ((c.withGlobals g).linkEvents pos' n)
      = metCount classes (c.linkEvents pos n) := by
  have hreceiver : (c.withGlobals g).receiver = c.receiver := rfl
  have hstart : metCount classes ((c.withGlobals g).startEvents n)
      = metCount classes (c.startEvents n) := by
    unfold Context.startEvents
    rw [hreceiver]
    split
    · rename_i x _
      rw [metCount_note, metCount_note, Context.classify_withGlobals hclasses x]
    · rfl
    · rfl
  cases pos with
  | value =>
      cases pos' with
      | value => exact hstart
      | _ => cases hpos
  | written =>
      cases pos' with
      | written => rfl
      | _ => cases hpos
  | along free =>
      cases pos' with
      | along free' => rfl
      | _ => cases hpos

theorem metCount_eventsOf_withGlobals {parts : List Node}
    (h : ∀ n ∈ parts, metCount classes (n.events (c.withGlobals g) .value)
      = metCount classes (n.events c .value)) :
    metCount classes (eventsOf (c.withGlobals g) parts) = metCount classes (eventsOf c parts) := by
  induction parts with
  | nil => rfl
  | cons n rest ih =>
      have hn := h n (by simp)
      have hrest := ih fun m hm => h m (by simp [hm])
      rw [eventsOf, eventsOf, metCount_append, metCount_append, hn, hrest]

/-- A link with more behind it. -/
theorem metCount_link_withGlobals (hclasses : classes .free = classes .global)
    (hpos : pos'.stance = pos.stance) {n next : Node} {rest rest' : List Event}
    (hnext : ∀ {pos pos' : Position}, pos'.stance = pos.stance →
      metCount classes (next.events (c.withGlobals g) pos')
        = metCount classes (next.events c pos))
    (hrest : metCount classes rest' = metCount classes rest) :
    metCount classes ((c.withGlobals g).linkEvents pos' n
        ++ next.events (c.withGlobals g) ((c.withGlobals g).inward pos' n) ++ rest')
      = metCount classes (c.linkEvents pos n ++ next.events c (c.inward pos n) ++ rest) := by
  have hinward : ((c.withGlobals g).inward pos' n).stance = (c.inward pos n).stance := by
    rw [Context.stance_inward, Context.stance_inward, hpos]
  have hlink := metCount_linkEvents_withGlobals (c := c) (g := g) hclasses hpos n
  simp only [metCount_append, hlink, hnext hinward, hrest]

/-- **Global names decide between free and global only.**  Identifiers that are neither are counted
as what they are whatever the global names are, and so are those that are either. -/
theorem metCount_withGlobals (hclasses : classes .free = classes .global)
    (hpos : pos'.stance = pos.stance) (n : Node) :
    metCount classes (n.events (c.withGlobals g) pos') = metCount classes (n.events c pos) := by
  induction n generalizing c pos pos' with
  | name role x =>
      have hvalue := Context.classify_withGlobals (c := c) (g := g) hclasses x
      have htarget := Context.classifyTarget_withGlobals (c := c) (g := g) hclasses x
      cases role with
      | reference =>
          show metCount classes ((c.withGlobals g).nameEvents pos' .reference x)
            = metCount classes (c.nameEvents pos .reference x)
          unfold Context.nameEvents
          cases pos with
          | value =>
              cases pos' with
              | value => simp [hvalue]
              | _ => cases hpos
          | written =>
              cases pos' with
              | written => simp [htarget]
              | _ => cases hpos
          | along free =>
              cases pos' with
              | along free' => simp
              | _ => cases hpos
      | _ => rfl
  | thisRef s => rfl
  | member s o object x ih =>
      rw [events, events]
      exact metCount_link_withGlobals hclasses hpos ih rfl
  | index s o object key ihobject ihkey =>
      rw [events, events]
      exact metCount_link_withGlobals hclasses hpos ihobject (ihkey rfl)
  | field s o object f ih =>
      rw [events, events, ← List.append_nil (_ ++ _), ← List.append_nil (_ ++ events c _ _)]
      exact metCount_link_withGlobals hclasses hpos ih rfl
  | call s o callee args ihcallee ihargs =>
      have hargs := metCount_eventsOf_withGlobals fun n hn => ihargs n hn (c := c) rfl
      rw [events, events]
      exact metCount_link_withGlobals hclasses hpos ihcallee hargs
  | chain s element ih =>
      rw [events, events, ← List.append_nil (_ ++ _), ← List.append_nil (_ ++ events c _ _)]
      exact metCount_link_withGlobals hclasses hpos ih rfl
  | nonNull s value ih =>
      rw [events, events, ← List.append_nil (_ ++ _), ← List.append_nil (_ ++ events c _ _)]
      exact metCount_link_withGlobals hclasses hpos ih rfl
  | write target ih => exact ih rfl
  | shorthandTarget s x value ih =>
      have hvalue : metCount classes (value.events (c.withGlobals g) .value)
          = metCount classes (value.events c .value) := ih rfl
      have htarget := Context.classifyTarget_withGlobals (c := c) (g := g) hclasses x
      rw [events, events, metCount_note, metCount_note, metCount_append, metCount_append, hvalue,
        htarget, metCount_edits, metCount_edits]
  | shorthand x =>
      have hname := Context.classify_withGlobals (c := c) (g := g) hclasses x
      rw [events, events, metCount_tally, metCount_tally, metCount_note, metCount_note, hname,
        metCount_edits, metCount_edits]
  | declarator s symbol pattern value ihpattern ihvalue =>
      let inner := c.declaring symbol pattern value
      have hpattern : metCount classes (pattern.events (inner.withGlobals g) .value)
          = metCount classes (pattern.events inner .value) := ihpattern rfl
      have hvalue : metCount classes (value.events (inner.withGlobals g) .value)
          = metCount classes (value.events inner .value) := ihvalue rfl
      rw [events, events, metCount_append, metCount_append, ← hpattern, ← hvalue]
      rfl
  | form kind s parts ih =>
      exact metCount_eventsOf_withGlobals fun n hn => ih n hn (c := c) rfl
  | region kind s scope parts ih =>
      exact metCount_eventsOf_withGlobals (c := c.enter scope) fun n hn => ih n hn rfl

end Node

/-- With more global names a pass takes the references it took, but for those names. -/
theorem Context.takes_withGlobals {c : Context} {g : Globals} {named : List String}
    (h : ∀ name, g.contains name = true ↔ c.globals.contains name = true ∨ name ∈ named)
    (r : Reference) :
    (c.withGlobals g).takes r = (c.takes r && decide (r.ident.name ∉ named)) := by
  have hfree : ((c.withGlobals g).around r).isFree r.ident
      = ((c.around r).isFree r.ident && decide (r.ident.name ∉ named)) := by
    have hname := h r.ident.name
    rw [Bool.eq_iff_iff, Bool.and_eq_true, isFree_iff, isFree_iff, decide_eq_true_iff,
      ← Bool.not_eq_true ((c.around r).globals.contains r.ident.name),
      ← Bool.not_eq_true (((c.withGlobals g).around r).globals.contains r.ident.name)]
    show (_ ∧ _ ∧ _ ∧ ¬g.contains r.ident.name = true)
      ↔ (_ ∧ _ ∧ _ ∧ ¬c.globals.contains r.ident.name = true) ∧ _
    rw [hname]
    constructor
    · rintro ⟨hplaced, hreceiver, hunbound, hnot⟩
      exact ⟨⟨hplaced, hreceiver, hunbound, fun hc => hnot (.inl hc)⟩, fun hc => hnot (.inr hc)⟩
    · rintro ⟨⟨hplaced, hreceiver, hunbound, hnot⟩, hnamed⟩
      exact ⟨hplaced, hreceiver, hunbound, fun hc => hc.elim hnot hnamed⟩
  have hpreserves : (c.withGlobals g).preserves = c.preserves := rfl
  unfold takes
  rw [hfree, hpreserves, Bool.and_right_comm]

/-- The counts, heading by heading. -/
theorem Stats.ofEvents_eq (events : List Event) :
    ofEvents events =
      { bound := metCount (· == .bound) events
        global := metCount (· == .global) events
        receiver := metCount (· == .receiver) events
        exempt := metCount Classification.isExempt events
        synthetic := metCount (· == .synthetic) events
        free := metCount (· == .free) events } := by
  rw [← exempt_ofEvents]
  rfl

/-- What is free or global is one or the other. -/
theorem Stats.free_add_global (events : List Event) :
    (ofEvents events).free + (ofEvents events).global
      = metCount (fun k => k == .free || k == .global) events := by
  rw [ofEvents_eq]
  unfold metCount
  generalize events.filterMap Event.classification? = classes
  induction classes with
  | nil => rfl
  | cons k rest ih =>
      cases k <;> simp at ih ⊢ <;> omega

/-- Between two counts that differ only in that `n` of the names that are free in the one are global
in the other. -/
structure Stats.Moved (s s' : Stats) (n : Nat) : Prop where
  free : s.free = s'.free + n
  global : s'.global = s.global + n
  bound : s'.bound = s.bound
  receiver : s'.receiver = s.receiver
  exempt : s'.exempt = s.exempt
  synthetic : s'.synthetic = s.synthetic

/-- Counts between which no name has moved are the same. -/
theorem Stats.Moved.eq {s s' : Stats} (h : s.Moved s' 0) : s' = s := by
  obtain ⟨hfree, hglobal, hbound, hreceiver, hexempt, hsynthetic⟩ := h
  cases s
  cases s'
  simp_all

namespace Scoped

/-- **More global names cost the edits of these names, and nothing else.**  A pass that is told
them besides takes the references it took but for those that have one of these names, and counts
those as global and no longer as free. -/
theorem pass_withGlobals (p : Scoped) (i : Instructions) (g : Globals) {named : List String}
    (h : ∀ name, g.contains name = true ↔ i.globals.contains name = true ∨ name ∈ named) :
    let more := { i with globals := g }
    p.taken more = (p.taken i).filter (·.ident.name ∉ named)
      ∧ (p.pass i).stats.Moved (p.pass more).stats
          ((p.taken i).countP (·.ident.name ∈ named)) := by
  intro more
  have htaken : p.taken more = (p.taken i).filter (·.ident.name ∉ named) := by
    unfold taken
    rw [List.filter_filter]
    refine List.filter_congr fun r _ => ?_
    rw [Bool.and_comm]
    exact Context.takes_withGlobals (c := .ofScopes p.scopes i) h r
  have hcount (classes : Classification → Bool) (hclasses : classes .free = classes .global) :
      metCount classes (p.pass more).events = metCount classes (p.pass i).events :=
    Node.metCount_withGlobals (c := .ofScopes p.scopes i) (g := g) hclasses rfl p.tree
  have hfree : (p.pass i).stats.free
      = (p.pass more).stats.free + (p.taken i).countP (·.ident.name ∈ named) := by
    have hsplit := List.length_eq_countP_add_countP (fun r : Reference => r.ident.name ∈ named)
      (l := p.taken i)
    rw [p.free_stats_pass i, p.free_stats_pass more, edits_eq_taken, edits_eq_taken, htaken,
      List.length_map, List.length_map, ← List.countP_eq_length_filter]
    simp only [decide_not, Bool.decide_eq_true] at hsplit ⊢
    omega
  have hsum : (p.pass more).stats.free + (p.pass more).stats.global
      = (p.pass i).stats.free + (p.pass i).stats.global := by
    unfold Report.stats
    rw [Stats.free_add_global, Stats.free_add_global]
    exact hcount _ rfl
  refine ⟨htaken, hfree, by omega, ?_, ?_, ?_, ?_⟩
  all_goals
    unfold Report.stats
    rw [Stats.ofEvents_eq, Stats.ofEvents_eq]
    exact hcount _ rfl

end Scoped

end FreeNames
