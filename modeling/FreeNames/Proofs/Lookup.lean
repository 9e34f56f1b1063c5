/-
What the lookup of a name finds.

In a list of entries it is the first entry of the name, so entries of other names do not matter,
and where no name stands twice the order does not either.

In frames, `Scopes.walk` goes from frame to frame with a fuel of one step more than there are
frames, and stops at the first frame that catches the name.  Two facts are needed
of it.

  * It finds exactly the first frame on the way out that catches the name
    (`resolve_eq_some_iff`).  This takes a pigeonhole: before that frame no frame
    is met twice, for from each of them the way to it has another length, so the
    fuel is never what stops the walk.
  * It finds nothing exactly if no frame around the place binds the name
    (`resolve_eq_none_iff`).

Neither asks for the frames to be free of cycles: a way that comes back to a frame
it has passed catches nothing that the first round did not.
-/
import FreeNames.Scope.Frame
import Mathlib.Data.List.Perm.Subperm
import Mathlib.Logic.Relation

namespace FreeNames

/-! ### Entries by name -/

/-- Entries that are dropped for their names do not matter to other names. -/
theorem lookup_filter_name {α : Type} (keep : String → Bool) {name : String}
    (h : keep name = true) (entries : List (String × α)) :
    (entries.filter fun e => keep e.1).lookup name = entries.lookup name := by
  induction entries with
  | nil => rfl
  | cons e rest ih =>
      obtain ⟨other, value⟩ := e
      by_cases heq : name = other
      · subst heq
        simp [h]
      · have hne : (name == other) = false := beq_false_of_ne heq
        by_cases hkeep : keep other = true
        · simp [hkeep, List.lookup_cons, hne, ih]
        · simp [hkeep, List.lookup_cons, hne, ih]

/-- Where no name stands twice, a lookup finds the entries. -/
theorem lookup_eq_some_iff_mem {α : Type} {entries : List (String × α)} {name : String} {value : α}
    (h : (entries.map (·.1)).Nodup) :
    entries.lookup name = some value ↔ (name, value) ∈ entries := by
  rw [List.lookup_eq_some_iff]
  constructor
  · rintro ⟨before, behind, rfl, -⟩
    simp
  · intro hmem
    obtain ⟨before, behind, rfl⟩ := List.append_of_mem hmem
    refine ⟨before, behind, rfl, fun e he => bne_iff_ne.2 fun heq => ?_⟩
    rw [List.map_append, List.nodup_append] at h
    exact h.2.2 e.1 (List.mem_map_of_mem he) name (by simp) heq.symm

/-! ### The frames around a place -/

namespace Frame

/-- Whether the frame lets a name pass: it neither binds it nor is the function that
`arguments` belongs to. -/
def LetsPass (f : Frame) (name : String) : Prop :=
  f.binding? name = none ∧ (name = "arguments" → f.hasArguments = false)

theorem catch?_eq_none_iff (f : Frame) (name : String) :
    f.catch? name = none ↔ f.LetsPass name := by
  unfold catch? LetsPass
  cases hb : f.binding? name with
  | some id => simp
  | none =>
      by_cases ha : name = "arguments"
      · cases f.hasArguments <;> simp [ha]
      · simp [ha]

end Frame

namespace Scopes

variable {t : Scopes} {name : String} {s p : ScopeId} {r : Resolution}

/-- One frame lies directly in another. -/
def LiesIn (t : Scopes) (s p : ScopeId) : Prop :=
  ∃ f, t.frames[s]? = some f ∧ f.parent = some p

/-- No frame from `s` outwards binds the name or has it as its `arguments`. -/
def Unbound (t : Scopes) (name : String) (s : ScopeId) : Prop :=
  ∀ a f, Relation.ReflTransGen t.LiesIn s a → t.frames[a]? = some f → f.LetsPass name

/-- The first frame from `s` outwards that catches the name is `k` frames away, and this is what
it says. -/
inductive FoundAfter (t : Scopes) (name : String) : Nat → ScopeId → Resolution → Prop
  | here {s : ScopeId} {f : Frame} {r : Resolution} (hf : t.frames[s]? = some f)
      (hr : f.catch? name = some r) : FoundAfter t name 0 s r
  | outward {k : Nat} {s p : ScopeId} {f : Frame} {r : Resolution} (hf : t.frames[s]? = some f)
      (hnone : f.catch? name = none) (hp : f.parent = some p)
      (h : FoundAfter t name k p r) : FoundAfter t name (k + 1) s r

/-- What the first frame from `s` outwards that catches the name says of it. -/
def Finds (t : Scopes) (name : String) (s : ScopeId) (r : Resolution) : Prop :=
  ∃ k, t.FoundAfter name k s r

/-! ### The way to the first frame that catches a name

Its length depends on the place it starts from only, so the places on it differ
from each other, and there are no more of them than frames.
-/

theorem FoundAfter.unique {k j : Nat} {r' : Resolution} (h : t.FoundAfter name k s r)
    (h' : t.FoundAfter name j s r') : k = j ∧ r = r' := by
  induction h generalizing j with
  | here hf hr =>
      cases h' with
      | here hf' hr' =>
          obtain rfl := Option.some.inj (hf.symm.trans hf')
          exact ⟨rfl, Option.some.inj (hr.symm.trans hr')⟩
      | outward hf' hnone' hp' h' =>
          obtain rfl := Option.some.inj (hf.symm.trans hf')
          rw [hr] at hnone'
          cases hnone'
  | outward hf hnone hp h ih =>
      cases h' with
      | here hf' hr' =>
          obtain rfl := Option.some.inj (hf.symm.trans hf')
          rw [hnone] at hr'
          cases hr'
      | outward hf' hnone' hp' h' =>
          obtain rfl := Option.some.inj (hf.symm.trans hf')
          obtain rfl := Option.some.inj (hp.symm.trans hp')
          obtain ⟨hk, hr⟩ := ih h'
          exact ⟨by rw [hk], hr⟩

theorem FoundAfter.lt_size {k : Nat} (h : t.FoundAfter name k s r) : s < t.frames.size := by
  cases h with
  | here hf _ => exact (Array.getElem?_eq_some_iff.mp hf).1
  | outward hf _ _ _ => exact (Array.getElem?_eq_some_iff.mp hf).1

/-- The places on the way, all of them frames and none of them twice. -/
theorem FoundAfter.places {k : Nat} (h : t.FoundAfter name k s r) :
    ∃ way : List ScopeId, way.length = k + 1 ∧ way.Nodup ∧
      ∀ a ∈ way, ∃ j, j ≤ k ∧ t.FoundAfter name j a r := by
  induction h with
  | @here s f r hf hr =>
      refine ⟨[s], rfl, by simp, ?_⟩
      intro a ha
      obtain rfl : a = s := by simpa using ha
      exact ⟨0, Nat.le_refl _, .here hf hr⟩
  | @outward k s p f r hf hnone hp h ih =>
      obtain ⟨way, hlen, hnodup, hall⟩ := ih
      have hfound : t.FoundAfter name (k + 1) s r := .outward hf hnone hp h
      refine ⟨s :: way, by simp [hlen], ?_, ?_⟩
      · refine List.nodup_cons.mpr ⟨?_, hnodup⟩
        intro hs
        obtain ⟨j, hj, hagain⟩ := hall s hs
        have := (hagain.unique hfound).1
        omega
      · intro a ha
        rcases List.mem_cons.mp ha with rfl | ha
        · exact ⟨k + 1, Nat.le_refl _, hfound⟩
        · obtain ⟨j, hj, haj⟩ := hall a ha
          exact ⟨j, by omega, haj⟩

theorem FoundAfter.count_lt {k : Nat} (h : t.FoundAfter name k s r) : k < t.frames.size := by
  obtain ⟨way, hlen, hnodup, hall⟩ := h.places
  have hsub : way ⊆ List.range t.frames.size := by
    intro a ha
    obtain ⟨j, -, haj⟩ := hall a ha
    exact List.mem_range.mpr haj.lt_size
  have hle := (List.subperm_of_subset hnodup hsub).length_le
  rw [List.length_range] at hle
  omega

/-! ### The walk and what it finds -/

theorem walk_of_foundAfter {k fuel : Nat} (h : t.FoundAfter name k s r) (hk : k < fuel) :
    t.walk name fuel s = some (some r) := by
  induction h generalizing fuel with
  | here hf hr =>
      obtain ⟨fuel, rfl⟩ := Nat.exists_eq_succ_of_ne_zero (Nat.ne_of_gt hk)
      simp [walk, hf, hr]
  | @outward k s p f r hf hnone hp h ih =>
      obtain ⟨fuel, rfl⟩ := Nat.exists_eq_succ_of_ne_zero (Nat.ne_of_gt (Nat.zero_lt_of_lt hk))
      have hrest : t.walk name fuel p = some (some r) := ih (by omega)
      simp [walk, hf, hnone, hp, hrest]

theorem finds_of_walk {fuel : Nat} (h : t.walk name fuel s = some (some r)) :
    t.Finds name s r := by
  induction fuel generalizing s with
  | zero => simp [walk] at h
  | succ fuel ih =>
      unfold walk at h
      cases hf : t.frames[s]? with
      | none => simp [hf] at h
      | some f =>
          cases hc : f.catch? name with
          | some r' =>
              obtain rfl : r' = r := by simpa [hf, hc] using h
              exact ⟨0, .here hf hc⟩
          | none =>
              cases hp : f.parent with
              | none => simp [hf, hc, hp] at h
              | some p =>
                  obtain ⟨k, hk⟩ := ih (s := p) (by simpa [hf, hc, hp] using h)
                  exact ⟨k + 1, .outward hf hc hp hk⟩

/-- **A lookup finds what the first frame that catches the name says.** -/
theorem resolve_eq_some_iff : t.resolve name s = some r ↔ t.Finds name s r := by
  constructor
  · intro h
    unfold resolve at h
    have hwalk : t.walk name (t.frames.size + 1) s = some (some r) :=
      Option.join_eq_some_iff.mp h
    exact finds_of_walk hwalk
  · rintro ⟨k, hk⟩
    have hlt := hk.count_lt
    unfold resolve resolve?
    rw [walk_of_foundAfter hk (by omega)]
    rfl

theorem finds_of_around {a : ScopeId} {f : Frame}
    (ha : Relation.ReflTransGen t.LiesIn s a) (hf : t.frames[a]? = some f)
    (hc : f.catch? name = some r) : ∃ r', t.Finds name s r' := by
  induction ha using Relation.ReflTransGen.head_induction_on with
  | refl => exact ⟨r, 0, .here hf hc⟩
  | head hstep _ ih =>
      obtain ⟨g, hg, hp⟩ := hstep
      cases hgc : g.catch? name with
      | some r' => exact ⟨r', 0, .here hg hgc⟩
      | none =>
          obtain ⟨r', k, hk⟩ := ih
          exact ⟨r', k + 1, .outward hg hgc hp hk⟩

theorem FoundAfter.not_unbound {k : Nat} (h : t.FoundAfter name k s r) :
    ¬ t.Unbound name s := by
  induction h with
  | here hf hr =>
      intro hall
      have hpass := (Frame.catch?_eq_none_iff _ _).mpr (hall _ _ .refl hf)
      rw [hr] at hpass
      cases hpass
  | outward hf _ hp _ ih =>
      intro hall
      exact ih fun a g ha hg => hall a g (.head ⟨_, hf, hp⟩ ha) hg

/-- **A lookup finds nothing exactly if no frame around the place binds the name.** -/
theorem resolve_eq_none_iff : t.resolve name s = none ↔ t.Unbound name s := by
  constructor
  · intro h a f ha hf
    rw [← Frame.catch?_eq_none_iff]
    by_contra hc
    obtain ⟨r, hr⟩ := Option.ne_none_iff_exists'.mp hc
    obtain ⟨r', hr'⟩ := finds_of_around ha hf hr
    rw [resolve_eq_some_iff.mpr hr'] at h
    cases h
  · intro h
    cases hr : t.resolve name s with
    | none => rfl
    | some r =>
        obtain ⟨k, hk⟩ := resolve_eq_some_iff.mp hr
        exact absurd h hk.not_unbound

end Scopes

end FreeNames
