/-
Reading the new text of a unit.

The tree that a pass leaves and the text that its edits make are meant to be the same
program.  Of a unit without free names this is so, for there is nothing to edit and
the tree stays as it is.
-/
import FreeNames.Outcome
import FreeNames.Proofs.Passes

namespace FreeNames

namespace Node

mutual

/-- A tree without the places of its nodes, and without the numbers of frames and symbols. -/
def shape : Node → Node
  | .name role x => .name role ⟨x.name, .nowhere⟩
  | .thisRef _ => .thisRef .nowhere
  | .member _ o object x => .member .nowhere o (shape object) ⟨x.name, .nowhere⟩
  | .index _ o object key => .index .nowhere o (shape object) (shape key)
  | .field _ o object f => .field .nowhere o (shape object) f
  | .call _ o callee args => .call .nowhere o (shape callee) (shapeAll args)
  | .chain _ element => .chain .nowhere (shape element)
  | .nonNull _ value => .nonNull .nowhere (shape value)
  | .write target => .write (shape target)
  | .shorthandTarget _ x value => .shorthandTarget .nowhere ⟨x.name, .nowhere⟩ (shape value)
  | .shorthand x => .shorthand ⟨x.name, .nowhere⟩
  | .declarator _ _ pattern value => .declarator .nowhere none (shape pattern) (shape value)
  | .form kind _ parts => .form kind .nowhere (shapeAll parts)
  | .region kind _ _ parts => .region kind .nowhere none (shapeAll parts)

/-- Trees that stand side by side without the places of their nodes. -/
def shapeAll : List Node → List Node
  | [] => []
  | n :: rest => shape n :: shapeAll rest

end

theorem shapeAll_eq_map (parts : List Node) : shapeAll parts = parts.map shape := by
  induction parts with
  | nil => rfl
  | cons n rest ih => rw [shapeAll, ih, List.map_cons]

theorem shapeAll_bareAll {parts : List Node} (h : ∀ n ∈ parts, n.bare.shape = n.shape) :
    shapeAll (bareAll parts) = shapeAll parts := by
  rw [shapeAll_eq_map, shapeAll_eq_map, bareAll_eq_map, List.map_map]
  exact List.map_congr_left h

/-- The numbers do not show in the shape. -/
theorem shape_bare (n : Node) : n.bare.shape = n.shape := by
  induction n with
  | name | thisRef | shorthand => rfl
  | member _ _ _ _ ih | field _ _ _ _ ih | chain _ _ ih | nonNull _ _ ih | write _ ih
  | shorthandTarget _ _ _ ih => simp only [bare, shape, ih]
  | index _ _ _ _ ihfirst ihsecond | declarator _ _ _ _ ihfirst ihsecond =>
      simp only [bare, shape, ihfirst, ihsecond]
  | call s o callee args ihcallee ihargs =>
      simp only [bare, shape, ihcallee, shapeAll_bareAll ihargs]
  | form kind s parts ih => simp only [bare, shape, shapeAll_bareAll ih]
  | region kind s scope parts ih => simp only [bare, shape, shapeAll_bareAll ih]

theorem shape_withScopes (tree : Node) (strict : Bool) :
    (tree.withScopes strict).tree.shape = tree.shape := by
  rw [← shape_bare, bare_withScopes, shape_bare]

end Node

namespace Scoped

/-- A pass that counts no free name makes no edit and leaves the tree as it is. -/
theorem pass_eq_self (p : Scoped) (i : Instructions) (h : (p.pass i).stats.free = 0) :
    (p.pass i).edits = [] ∧ (p.pass i).tree = p.tree := by
  have hedits : (p.pass i).edits = [] := by
    rw [p.free_stats_pass i] at h
    exact List.length_eq_zero_iff.mp h
  have hnone : p.tree.references.filter (Context.ofScopes p.scopes i).takes = [] := by
    rw [p.edits_pass i] at hedits
    exact List.map_eq_nil_iff.mp hedits
  refine ⟨hedits, Node.qualify_eq_self (.root p.scopes i p.tree) fun r hr => ?_⟩
  exact Bool.eq_false_iff.mpr (List.filter_eq_nil_iff.mp hnone r hr)

end Scoped

namespace Options

/-- The new text of a unit reads as the tree that the pass has left. -/
def Rereads (o : Options) (source : String) (program : Program) (unit : UnitGlobals) : Prop :=
  ∃ again, Program.parse? o.sourceKind (o.outcome source program unit).code = some again
    ∧ again.tree.shape = (o.report program unit.globals).tree.shape

/-- **A unit without free names keeps its text, and reads as what it was.** -/
theorem rereads_of_free_eq_zero (o : Options) {source : String} {program : Program}
    (unit : UnitGlobals) (hread : Program.parse? o.sourceKind source = some program)
    (hnone : (o.report program unit.globals).stats.free = 0) :
    (o.outcome source program unit).code = source ∧ o.Rereads source program unit := by
  obtain ⟨hedits, htree⟩ := Scoped.pass_eq_self _ _ hnone
  have hcode : (o.outcome source program unit).code = source := by
    show (Edit.spliceAll? (o.report program unit.globals).edits source).getD source = source
    have hnothing : Edit.spliceAll? [] source = some (String.ofList source.toList) := by
      rw [Edit.spliceAll?, Edit.backToFront, List.mergeSort_nil]
      rfl
    rw [show (o.report program unit.globals).edits = [] from hedits, hnothing, Option.getD_some,
      String.ofList_toList]
  refine ⟨hcode, program, ?_, ?_⟩
  · rw [hcode]
    exact hread
  · rw [show (o.report program unit.globals).tree = _ from htree, Node.shape_withScopes]

end Options

end FreeNames
