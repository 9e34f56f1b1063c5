/-
Frames that form a forest.

Where every parent is a frame and no frame lies in itself, there is one way from each frame to
its root, and it meets no frame twice.  A walk with as much fuel as this way is long is over
before the fuel is: it asks the frames on the way one after the other and gives what the first
one says that says anything (`walk_of_outward`).

From this follows how far a binding reaches.  It reaches inwards, to every frame below that has
no nearer frame in between that catches the name.  And a frame in which the binding of one name
is made, changed or taken away says the same of every other name, and is asked for this one only
from where no nearer frame catches it (`resolve_rebind`).
-/
import FreeNames.Proofs.Lookup
import Mathlib.Data.Fintype.Card
import Mathlib.Data.Fintype.EquivFin

namespace FreeNames

namespace Frame

variable {f : Frame} {name other : String} {b : Option SymbolId}

/-- What a frame says of a name: the symbol that it binds it to, or else that it is the
`arguments` of a function that is no arrow. -/
def Says (f : Frame) (name : String) : Resolution → Prop
  | .symbol id => f.binding? name = some id
  | .implicit =>
    f.binding? name = none ∧ name = "arguments" ∧ .function ∈ f.flags ∧ .arrow ∉ f.flags

theorem hasArguments_eq_true_iff : f.hasArguments = true ↔ .function ∈ f.flags ∧ .arrow ∉ f.flags := by
  simp [hasArguments]

theorem catch?_eq_some_iff {r : Resolution} : f.catch? name = some r ↔ f.Says name r := by
  unfold catch?
  cases hb : f.binding? name with
  | some id => cases r <;> simp [Says, hb]
  | none =>
      cases r with
      | symbol id => simp [Says, hb]
      | implicit => simp [Says, hb, hasArguments_eq_true_iff]

/-- The frame with another binding of a name, or with none. -/
def rebind (f : Frame) (name : String) : Option SymbolId → Frame
  | some id => f.bind name id
  | none => f.unbind name

@[simp] theorem parent_rebind : (f.rebind name b).parent = f.parent := by
  cases b <;> rfl

@[simp] theorem flags_rebind : (f.rebind name b).flags = f.flags := by
  cases b <;> rfl

theorem binding?_rebind_self : (f.rebind name b).binding? name = b := by
  cases b with
  | some id => simp [rebind, bind, binding?]
  | none =>
      simp only [rebind, unbind, binding?, List.lookup_eq_none_iff, List.mem_filter]
      rintro p ⟨-, hp⟩
      exact bne_iff_ne.2 (bne_iff_ne.1 hp).symm

theorem binding?_rebind_of_ne (h : other ≠ name) :
    (f.rebind name b).binding? other = f.binding? other := by
  cases b with
  | some id =>
      have hskip : (other == name) = false := by simpa using h
      simp [rebind, bind, binding?, List.lookup_cons, hskip]
  | none =>
      exact lookup_filter_name (· != name) (bne_iff_ne.2 h) f.bindings

theorem catch?_rebind_of_ne (h : other ≠ name) : (f.rebind name b).catch? other = f.catch? other := by
  unfold catch? hasArguments
  rw [binding?_rebind_of_ne h, flags_rebind]

theorem catch?_rebind_some {id : SymbolId} :
    (f.rebind name (some id)).catch? name = some (.symbol id) :=
  catch?_eq_some_iff.2 binding?_rebind_self

end Frame

namespace Scopes

variable {t : Scopes} {name other : String} {s p a : ScopeId} {way nearer : List ScopeId}
  {b : Option SymbolId}

/-- Frames that lie in each other without going round in circles. -/
structure IsForest (t : Scopes) : Prop where
  /-- What a frame lies in is a frame. -/
  closed : ∀ s p, t.LiesIn s p → p < t.frames.size
  /-- No frame lies in itself, at whatever depth. -/
  acyclic : ∀ s, ¬ Relation.TransGen t.LiesIn s s

/-- The way from a frame to its root: the frame, its parent, and so on up to the one that has no
parent. -/
inductive Outward (t : Scopes) : ScopeId → List ScopeId → Prop
  | root {s : ScopeId} {f : Frame} (hf : t.frames[s]? = some f) (hp : f.parent = none) :
      Outward t s [s]
  | inside {s p : ScopeId} {f : Frame} {way : List ScopeId} (hf : t.frames[s]? = some f)
      (hp : f.parent = some p) (h : Outward t p way) : Outward t s (s :: way)

/-- What the frame of a number says of a name, if there is one and it says something. -/
def catchAt? (t : Scopes) (name : String) (a : ScopeId) : Option Resolution :=
  t.frames[a]?.bind (·.catch? name)

/-- Whether a name passes the frame of a number. -/
def Passes (t : Scopes) (name : String) (a : ScopeId) : Prop :=
  ∀ f, t.frames[a]? = some f → f.LetsPass name

theorem catchAt?_eq_none_iff : t.catchAt? name a = none ↔ t.Passes name a := by
  unfold catchAt? Passes
  cases t.frames[a]? with
  | none => simp
  | some f => simp [Frame.catch?_eq_none_iff]

theorem catchAt?_eq_some_iff {r : Resolution} :
    t.catchAt? name a = some r ↔ ∃ f, t.frames[a]? = some f ∧ f.Says name r := by
  simp only [catchAt?, Option.bind_eq_some_iff, Frame.catch?_eq_some_iff]

/-! ### The way to the root -/

theorem Outward.unique {way' : List ScopeId} (h : t.Outward s way) (h' : t.Outward s way') :
    way = way' := by
  induction h generalizing way' with
  | root hf hp =>
      cases h' with
      | root hf' hp' => rfl
      | inside hf' hp' h' =>
          obtain rfl := Option.some.inj (hf.symm.trans hf')
          rw [hp] at hp'
          cases hp'
  | inside hf hp h ih =>
      cases h' with
      | root hf' hp' =>
          obtain rfl := Option.some.inj (hf.symm.trans hf')
          rw [hp] at hp'
          cases hp'
      | inside hf' hp' h' =>
          obtain rfl := Option.some.inj (hf.symm.trans hf')
          obtain rfl := Option.some.inj (hp.symm.trans hp')
          rw [ih h']

theorem Outward.around (h : t.Outward s way) : ∀ a ∈ way, Relation.ReflTransGen t.LiesIn s a := by
  induction h with
  | root hf hp =>
      intro a ha
      rw [List.mem_singleton.1 ha]
  | inside hf hp h ih =>
      intro a ha
      rcases List.mem_cons.1 ha with rfl | ha
      · exact .refl
      · exact .head ⟨_, hf, hp⟩ (ih a ha)

theorem Outward.all_lt_size (h : t.Outward s way) : ∀ a ∈ way, a < t.frames.size := by
  induction h with
  | root hf hp =>
      intro a ha
      rw [List.mem_singleton.1 ha]
      exact (Array.getElem?_eq_some_iff.mp hf).1
  | inside hf hp h ih =>
      intro a ha
      rcases List.mem_cons.1 ha with rfl | ha
      · exact (Array.getElem?_eq_some_iff.mp hf).1
      · exact ih a ha

namespace IsForest

/-- From every frame there is a way to a root: there are finitely many frames, so no chain of
parents goes on for ever. -/
theorem exists_outward (h : t.IsForest) (hs : s < t.frames.size) : ∃ way, t.Outward s way := by
  let Below (a b : Fin t.frames.size) : Prop := Relation.TransGen t.LiesIn b a
  have : IsTrans _ Below := ⟨fun _ _ _ hab hbc => hbc.trans hab⟩
  have : Std.Irrefl Below := ⟨fun a => h.acyclic a⟩
  have hwf : WellFounded Below := Finite.wellFounded_of_trans_of_irrefl Below
  suffices hall : ∀ a : Fin t.frames.size, ∃ way, t.Outward a way from hall ⟨s, hs⟩
  intro a
  induction a using hwf.induction with
  | _ a ih =>
      have hf : t.frames[a.val]? = some t.frames[a.val] := Array.getElem?_eq_getElem a.isLt
      cases hp : t.frames[a.val].parent with
      | none => exact ⟨_, .root hf hp⟩
      | some p =>
          have hin : t.LiesIn a p := ⟨_, hf, hp⟩
          obtain ⟨way, hway⟩ := ih ⟨p, h.closed _ _ hin⟩ (.single hin)
          exact ⟨_, .inside hf hp hway⟩

theorem nodup (h : t.IsForest) (hway : t.Outward s way) : way.Nodup := by
  induction hway with
  | root hf hp => simp
  | inside hf hp hrest ih =>
      refine List.nodup_cons.2 ⟨fun hs => ?_, ih⟩
      exact h.acyclic _ (.head' ⟨_, hf, hp⟩ (hrest.around _ hs))

/-- No frame comes again behind itself. -/
theorem not_mem_nearer (h : t.IsForest) {farther : List ScopeId}
    (hway : t.Outward s (nearer ++ a :: farther)) : a ∉ nearer := fun hmem =>
  (List.nodup_append.1 (h.nodup hway)).2.2 a hmem a List.mem_cons_self rfl

theorem length_le (h : t.IsForest) (hway : t.Outward s way) : way.length ≤ t.frames.size := by
  have hsub : way ⊆ List.range t.frames.size := fun a ha => List.mem_range.2 (hway.all_lt_size a ha)
  have hle := (List.subperm_of_subset (h.nodup hway) hsub).length_le
  rwa [List.length_range] at hle

/-- Frames each of which lies in an earlier one form a forest. -/
theorem of_parents_before
    (h : ∀ s : Fin t.frames.size, ∀ p ∈ t.frames[s].parent, p < s.val) : t.IsForest := by
  have hbefore {s p : ScopeId} (hin : t.LiesIn s p) : s < t.frames.size ∧ p < s := by
    obtain ⟨f, hf, hp⟩ := hin
    obtain ⟨hs, rfl⟩ := Array.getElem?_eq_some_iff.1 hf
    exact ⟨hs, h ⟨s, hs⟩ p hp⟩
  have hlt {s a : ScopeId} (ha : Relation.TransGen t.LiesIn s a) : a < s := by
    induction ha with
    | single hstep => exact (hbefore hstep).2
    | tail _ hstep ih => exact (hbefore hstep).2.trans ih
  exact ⟨fun s p hin => (hbefore hin).2.trans (hbefore hin).1, fun s hs => Nat.lt_irrefl s (hlt hs)⟩

end IsForest

/-! ### The walk along the way -/

/-- **A walk that may go as far as the root** gives what the first frame says that says
something, however much further it might go. -/
theorem walk_of_outward (h : t.Outward s way) {fuel : Nat} (hfuel : way.length ≤ fuel) :
    t.walk name fuel s = some (way.findSome? (t.catchAt? name)) := by
  induction h generalizing fuel with
  | @root s f hf hp =>
      obtain ⟨fuel, rfl⟩ := Nat.exists_eq_add_of_le' hfuel
      have hcatch : t.catchAt? name s = f.catch? name := by simp [catchAt?, hf]
      cases hc : f.catch? name <;> simp [walk, hf, hp, hcatch, hc]
  | @inside s p f way hf hp h ih =>
      rw [List.length_cons] at hfuel
      obtain ⟨fuel, rfl⟩ := Nat.exists_eq_add_of_le' (Nat.le_of_add_left_le hfuel)
      have hrest : t.walk name fuel p = some (way.findSome? (t.catchAt? name)) := ih (by omega)
      have hcatch : t.catchAt? name s = f.catch? name := by simp [catchAt?, hf]
      cases hc : f.catch? name <;> simp [walk, hf, hp, hcatch, hc, hrest]

theorem resolve?_of_outward (ht : t.IsForest) (h : t.Outward s way) :
    t.resolve? name s = some (way.findSome? (t.catchAt? name)) :=
  walk_of_outward h ((ht.length_le h).trans (Nat.le_succ _))

theorem resolve_of_outward (ht : t.IsForest) (h : t.Outward s way) :
    t.resolve name s = way.findSome? (t.catchAt? name) := by
  rw [resolve, resolve?_of_outward ht h, Option.join_some]

/-! ### Another binding in one frame -/

/-- The frames with another binding of a name in one of them, or with none there. -/
def rebind (t : Scopes) (a : ScopeId) (name : String) (b : Option SymbolId) : Scopes :=
  ⟨t.frames.modify a (·.rebind name b)⟩

theorem getElem?_rebind (c : ScopeId) : (t.rebind a name b).frames[c]?
    = if a = c then t.frames[c]?.map (·.rebind name b) else t.frames[c]? :=
  Array.getElem?_modify

theorem parent_rebind (t : Scopes) (a : ScopeId) (name : String) (b : Option SymbolId)
    (c : ScopeId) : (t.rebind a name b).frames[c]?.map (·.parent) = t.frames[c]?.map (·.parent) := by
  rw [getElem?_rebind]
  split
  · simp [Option.map_map, Function.comp_def]
  · rfl

theorem liesIn_rebind : (t.rebind a name b).LiesIn = t.LiesIn := by
  have hmap (u : Scopes) (s p : ScopeId) :
      u.LiesIn s p ↔ u.frames[s]?.map (·.parent) = some (some p) := by
    rw [Option.map_eq_some_iff]
    rfl
  funext s p
  rw [eq_iff_iff, hmap, hmap, parent_rebind]

theorem IsForest.rebind (h : t.IsForest) : (t.rebind a name b).IsForest where
  closed := by
    rw [liesIn_rebind]
    intro s p hin
    exact (h.closed s p hin).trans_eq (Array.size_modify ..).symm
  acyclic := by
    rw [liesIn_rebind]
    exact h.acyclic

theorem Outward.rebind (h : t.Outward s way) : (t.rebind a name b).Outward s way := by
  have hparent {c : ScopeId} {f : Frame} (hf : t.frames[c]? = some f) :
      ∃ g, (t.rebind a name b).frames[c]? = some g ∧ g.parent = f.parent := by
    have hmap := parent_rebind t a name b c
    rw [hf, Option.map_some, Option.map_eq_some_iff] at hmap
    exact hmap
  induction h with
  | root hf hp =>
      obtain ⟨g, hg, hparent⟩ := hparent hf
      exact .root hg (hparent.trans hp)
  | inside hf hp _ ih =>
      obtain ⟨g, hg, hparent⟩ := hparent hf
      exact .inside hg (hparent.trans hp) ih

theorem catchAt?_rebind_of_ne {c : ScopeId} (h : c ≠ a ∨ other ≠ name) :
    (t.rebind a name b).catchAt? other c = t.catchAt? other c := by
  unfold catchAt?
  rw [getElem?_rebind]
  split
  · rename_i hc
    have hother : other ≠ name := h.resolve_left (fun hne => hne hc.symm)
    cases t.frames[c]? with
    | none => rfl
    | some f => exact Frame.catch?_rebind_of_ne hother
  · rfl

theorem catchAt?_rebind_some {id : SymbolId} (ha : a < t.frames.size) :
    (t.rebind a name (some id)).catchAt? name a = some (.symbol id) := by
  unfold catchAt?
  rw [getElem?_rebind, if_pos rfl, Array.getElem?_eq_getElem ha]
  exact Frame.catch?_rebind_some

theorem findSome?_rebind (h : a ∉ way ∨ other ≠ name) :
    way.findSome? ((t.rebind a name b).catchAt? other) = way.findSome? (t.catchAt? other) := by
  induction way with
  | nil => rfl
  | cons c rest ih =>
      rw [List.findSome?_cons, List.findSome?_cons]
      rw [catchAt?_rebind_of_ne (h.imp_left fun ha hc => ha (by simp [hc])),
        ih (h.imp_left fun ha hc => ha (by simp [hc]))]

/-- Another binding of a name in one frame is seen only from where no nearer frame catches the
name. -/
theorem exists_of_resolve_rebind_ne (ht : t.IsForest) (h : t.Outward s way)
    (hne : (t.rebind a name b).resolve name s ≠ t.resolve name s) :
    ∃ nearer farther, way = nearer ++ a :: farther ∧ ∀ c ∈ nearer, t.Passes name c := by
  rw [resolve_of_outward ht.rebind h.rebind, resolve_of_outward ht h] at hne
  have ha : a ∈ way := by
    by_contra ha
    exact hne (findSome?_rebind (.inl ha))
  obtain ⟨nearer, farther, rfl⟩ := List.append_of_mem ha
  refine ⟨nearer, farther, rfl, fun c hc => ?_⟩
  have hnot : a ∉ nearer := ht.not_mem_nearer h
  rw [List.findSome?_append, List.findSome?_append, findSome?_rebind (.inl hnot)] at hne
  -- If the frames before this one caught the name, both lookups would end there.
  cases hfirst : nearer.findSome? (t.catchAt? name) with
  | some r =>
      rw [hfirst] at hne
      exact absurd rfl hne
  | none => exact catchAt?_eq_none_iff.1 (List.findSome?_eq_none_iff.1 hfirst c hc)

theorem resolve_rebind_some (ht : t.IsForest) {farther : List ScopeId} {id : SymbolId}
    (h : t.Outward s (nearer ++ a :: farther)) (hnearer : ∀ c ∈ nearer, t.Passes name c) :
    (t.rebind a name (some id)).resolve name s = some (.symbol id) := by
  have hnot : a ∉ nearer := ht.not_mem_nearer h
  have hpass : nearer.findSome? (t.catchAt? name) = none :=
    List.findSome?_eq_none_iff.2 fun c hc => catchAt?_eq_none_iff.2 (hnearer c hc)
  have ha : a < t.frames.size := h.all_lt_size a (by simp)
  rw [resolve_of_outward ht.rebind h.rebind, List.findSome?_append, findSome?_rebind (.inl hnot),
    hpass, Option.none_or, List.findSome?_cons, catchAt?_rebind_some ha]

/-! ### Lookups -/

theorem resolve_eq_some_iff_nearest (ht : t.IsForest) (h : t.Outward s way) {r : Resolution} :
    t.resolve name s = some r ↔ ∃ nearer a farther f, way = nearer ++ a :: farther
      ∧ t.frames[a]? = some f ∧ f.Says name r ∧ ∀ c ∈ nearer, t.Passes name c := by
  rw [resolve_of_outward ht h, List.findSome?_eq_some_iff]
  constructor
  · rintro ⟨nearer, a, farther, hway, ha, hnearer⟩
    obtain ⟨f, hf, hsays⟩ := catchAt?_eq_some_iff.1 ha
    exact ⟨nearer, a, farther, f, hway, hf, hsays,
      fun c hc => catchAt?_eq_none_iff.1 (hnearer c hc)⟩
  · rintro ⟨nearer, a, farther, f, hway, hf, hsays, hnearer⟩
    exact ⟨nearer, a, farther, hway, catchAt?_eq_some_iff.2 ⟨f, hf, hsays⟩,
      fun c hc => catchAt?_eq_none_iff.2 (hnearer c hc)⟩

theorem isBound_of_around {inner : ScopeId} (h : Relation.ReflTransGen t.LiesIn inner s)
    (hbound : t.isBound name s = true) : t.isBound name inner = true := by
  by_contra hfree
  have hunbound : t.Unbound name inner := resolve_eq_none_iff.1 (by simpa [isBound] using hfree)
  have hnone : t.resolve name s = none :=
    resolve_eq_none_iff.2 fun a f ha hf => hunbound a f (h.trans ha) hf
  simp [isBound, hnone] at hbound

/-- What the lookups from a frame do, `way` being the frames from there to the root. -/
structure Lookups (t : Scopes) (s : ScopeId) (way : List ScopeId) : Prop where
  outward : t.Outward s way
  /-- There is no other way. -/
  only : ∀ other, t.Outward s other → other = way
  /-- No frame is met twice. -/
  nodup : way.Nodup
  /-- A walk is over when it has met the frames on the way, or before. -/
  ends : ∀ name fuel, way.length ≤ fuel → t.walk name fuel s = some (t.resolve name s)
  resolve? : ∀ name, t.resolve? name s = some (t.resolve name s)
  /-- The nearest frame that says something of the name decides. -/
  found : ∀ name r, t.resolve name s = some r ↔
    ∃ nearer a farther f, way = nearer ++ a :: farther
      ∧ t.frames[a]? = some f ∧ f.Says name r ∧ ∀ c ∈ nearer, t.Passes name c
  /-- Nothing is found if none of them says anything. -/
  missed : ∀ name, t.resolve name s = none ↔ ∀ c ∈ way, t.Passes name c
  /-- What is bound in a frame is bound in the frames inside. -/
  inward : ∀ name inner, Relation.ReflTransGen t.LiesIn inner s → t.isBound name s = true →
    t.isBound name inner = true
  /-- The binding of one name says nothing of another. -/
  apart : ∀ a name b other, other ≠ name →
    (t.rebind a name b).resolve other s = t.resolve other s
  /-- The binding of a name in one frame counts only if no nearer frame catches the name. -/
  reach : ∀ a name b, (t.rebind a name b).resolve name s ≠ t.resolve name s →
    ∃ nearer farther, way = nearer ++ a :: farther ∧ ∀ c ∈ nearer, t.Passes name c
  /-- There it does count. -/
  reached : ∀ a name id nearer farther, way = nearer ++ a :: farther →
    (∀ c ∈ nearer, t.Passes name c) →
    (t.rebind a name (some id)).resolve name s = some (.symbol id)

/-- **A lookup asks the frames from its place outwards**, and the nearest one that knows the name
decides; so a binding counts for its name alone, and inwards as far as no nearer frame catches
the name. -/
theorem lookups_of_isForest (ht : t.IsForest) (hs : s < t.frames.size) :
    ∃ way, t.Lookups s way := by
  obtain ⟨way, hway⟩ := ht.exists_outward hs
  exact ⟨way,
    { outward := hway
      only := fun other hother => hother.unique hway
      nodup := ht.nodup hway
      ends := fun name fuel hfuel => by
        rw [walk_of_outward hway hfuel, resolve_of_outward ht hway]
      resolve? := fun name => by
        rw [resolve?_of_outward ht hway, resolve_of_outward ht hway]
      found := fun name r => resolve_eq_some_iff_nearest ht hway
      missed := fun name => by
        simp only [resolve_of_outward ht hway, List.findSome?_eq_none_iff, catchAt?_eq_none_iff]
      inward := fun name inner => isBound_of_around
      apart := fun a name b other hother => by
        rw [resolve_of_outward ht.rebind hway.rebind, resolve_of_outward ht hway,
          findSome?_rebind (.inr hother)]
      reach := fun a name b => exists_of_resolve_rebind_ne ht hway
      reached := fun a name id nearer farther hsplit hnearer => by
        subst hsplit
        exact resolve_rebind_some ht hway hnearer }⟩

/-- A program with a function, a block in it and an arrow in the block. -/
def nested : Scopes :=
  .ofNames [(none, [.top], ["y"]), (some 0, [.function], ["a"]), (some 1, [], ["b"]),
    (some 2, [.function, .arrow], ["e"])]

/-- The arrow lies in the block, the function and the program, and finds the `arguments` of the
function. -/
theorem lookups_nested : nested.IsForest ∧ 3 < nested.frames.size ∧
    ∃ way, nested.Lookups 3 way :=
  have hforest : nested.IsForest := .of_parents_before (by decide)
  ⟨hforest, by decide, lookups_of_isForest hforest (by decide)⟩

example : nested.resolve "arguments" 3 = some .implicit := by decide

end Scopes

end FreeNames
