/-
Induction over trees.

A node holds lists of nodes, so the recursor of `Node` speaks of nodes and of lists
of nodes at once.  Every fact about a pass is one about a node and about each of its
parts, which is what `Node.byParts` offers: one case for each construct, with the
fact for each part at hand.
-/
import FreeNames.Qualify.Report

namespace FreeNames

/-- A pass leaves a name as it is, unless the name is a reference that it qualifies. -/
theorem Context.qualifyName_cases (c : Context) (pos : Position) (role : Role) (x : Ident) :
    c.qualifyName pos role x = .name role x
      ∨ role = .reference ∧ c.qualifies pos x = true
        ∧ c.qualifyName pos role x = c.qualified x := by
  unfold qualifyName
  by_cases hq : (role == .reference && c.qualifies pos x) = true
  · rw [if_pos hq]
    simp only [Bool.and_eq_true, beq_iff_eq] at hq
    exact .inr ⟨hq.1, hq.2, rfl⟩
  · rw [if_neg hq]
    exact .inl rfl

namespace Node

/-- To show something of all trees, show it of each construct, given it of the parts. -/
@[elab_as_elim, induction_eliminator]
theorem byParts {motive : Node → Prop}
    (name : ∀ role x, motive (.name role x))
    (thisRef : ∀ s, motive (.thisRef s))
    (member : ∀ s o object x, motive object → motive (.member s o object x))
    (index : ∀ s o object key, motive object → motive key → motive (.index s o object key))
    (field : ∀ s o object f, motive object → motive (.field s o object f))
    (call : ∀ s o callee args, motive callee → (∀ n ∈ args, motive n) →
      motive (.call s o callee args))
    (chain : ∀ s element, motive element → motive (.chain s element))
    (nonNull : ∀ s value, motive value → motive (.nonNull s value))
    (write : ∀ target, motive target → motive (.write target))
    (shorthandTarget : ∀ s x value, motive value → motive (.shorthandTarget s x value))
    (shorthand : ∀ x, motive (.shorthand x))
    (declarator : ∀ s symbol pattern value, motive pattern → motive value →
      motive (.declarator s symbol pattern value))
    (form : ∀ kind s parts, (∀ n ∈ parts, motive n) → motive (.form kind s parts))
    (region : ∀ kind s scope parts, (∀ n ∈ parts, motive n) →
      motive (.region kind s scope parts))
    (n : Node) : motive n := by
  refine @Node.rec motive (fun parts => ∀ n ∈ parts, motive n) name thisRef member index field
    call chain nonNull write shorthandTarget shorthand declarator form region ?_ ?_ n
  · intro n hn
    cases hn
  · intro head rest hhead hrest n hn
    rcases List.mem_cons.mp hn with rfl | hn
    · exact hhead
    · exact hrest n hn

theorem qualifyAll_eq_map (c : Context) (parts : List Node) :
    qualifyAll c parts = parts.map (qualify c .value) := by
  induction parts with
  | nil => rfl
  | cons n rest ih => rw [qualifyAll, ih, List.map_cons]

theorem isAbsent_iff {n : Node} : n.isAbsent = true ↔ n = absent := by
  constructor
  · intro h
    unfold isAbsent at h
    split at h
    · rfl
    · cases h
  · rintro rfl
    rfl

/-- A pass leaves every node at its place. -/
theorem span_qualify (c : Context) (pos : Position) (n : Node) :
    (n.qualify c pos).span = n.span := by
  induction n generalizing c pos with
  | name role x =>
      unfold qualify Context.qualifyName
      split <;> rfl
  | shorthandTarget s x value ih =>
      unfold qualify Context.qualifyShorthandTarget
      split <;> rfl
  | shorthand x =>
      unfold qualify Context.qualifyShorthand
      split <;> rfl
  | write target ih =>
      unfold qualify
      exact ih c .written
  | _ => rfl

end Node

/-! ### The start of a chain

The verdict that a link carries inwards is the one about the start of its chain,
and a link starts where the node it goes on with starts.
-/

namespace Position

/-- Whether the verdict that is carried along a chain, if one is, is the right one for what is
left of the chain. -/
def Fits (c : Context) (n : Node) : Position → Prop
  | .along free => free = c.startsFree n
  | _ => True

end Position

namespace Context

variable (c : Context)

theorem isFree_of_name_eq_receiver {x : Ident} (h : x.name = c.receiver) : c.isFree x = false := by
  unfold isFree classify
  by_cases hspan : x.span.isNowhere = true
  · simp [hspan]
  · simp [hspan, h]

theorem startsFree_reference (x : Ident) : c.startsFree (.name .reference x) = c.isFree x := by
  unfold startsFree Node.root Node.leftmost
  by_cases h : x.name = c.receiver
  · simp [h, c.isFree_of_name_eq_receiver h]
  · simp [h]

/-- What a link starts with is what the node it goes on with starts with. -/
theorem fits_inward {n next : Node} {pos : Position} (hfit : pos.Fits c n)
    (hstart : c.startsFree n = c.startsFree next) : (c.inward pos n).Fits c next := by
  cases pos with
  | value => exact hstart
  | written => trivial
  | along free => exact Eq.trans hfit hstart

end Context

end FreeNames
