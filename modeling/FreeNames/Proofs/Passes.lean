/-
Passes one after the other over the same tree.

What one pass does to the references is all that is needed of it: each reference
that it takes is gone, the receiver in its place stands nowhere, and every other
reference is what it was (`Node.references_qualify`).  A name that stands nowhere is
never taken, whatever the receiver is, so nothing that a pass has put in is touched
by a later one, and a pass that is made twice finds nothing the second time.

That later passes look names up in the same frames is `Node.withScopes_pass`.
-/
import FreeNames.Proofs.Counts
import FreeNames.Proofs.Rebuild
import Mathlib.Data.List.Induction

namespace FreeNames

namespace Reference

/-- Whether the reference stands in the source. -/
def isPlaced (r : Reference) : Bool := !r.ident.span.isNowhere

end Reference

namespace Context

variable (c : Context)

/-- What a pass leaves of a reference: the receiver, if the reference is taken and the receiver is
a name, or the reference itself. -/
def leaves (r : Reference) : List Reference :=
  if c.takes r then c.receiverNode.referencesIn { scope := r.scope } else [r]

/-- What stands nowhere is not taken. -/
theorem isPlaced_of_takes {r : Reference} (h : c.takes r = true) : r.isPlaced = true := by
  unfold takes at h
  rw [Bool.and_eq_true, isFree_iff] at h
  have hplaced : r.ident.span ≠ .nowhere := h.1.1
  simpa [Reference.isPlaced, Span.isNowhere] using hplaced

theorem takes_eq_false_of_unplaced {r : Reference} (h : r.isPlaced = false) :
    c.takes r = false := by
  by_contra htakes
  rw [c.isPlaced_of_takes (by simpa using htakes)] at h
  cases h

/-- The receiver stands nowhere, and for itself. -/
theorem of_mem_receiver {r : Reference} {site : Site}
    (h : r ∈ c.receiverNode.referencesIn site) : r.isPlaced = false ∧ r.toSite = site := by
  unfold receiverNode at h
  split at h
  · cases h
  · obtain rfl := List.mem_singleton.mp h
    exact ⟨rfl, rfl⟩

theorem leaves_of_takes {r : Reference} (h : c.takes r = true) :
    c.leaves r = c.receiverNode.referencesIn { scope := r.scope } := by
  unfold leaves
  rw [if_pos h]

theorem leaves_of_not_takes {r : Reference} (h : c.takes r = false) : c.leaves r = [r] := by
  unfold leaves
  rw [if_neg (by simp [h])]

end Context

namespace Node

variable {c : Context} {pos : Position} {site : Site}

/-! ### What a pass leaves of the references -/

/-- The symbol of a declarator is nothing to a value that is not one name. -/
theorem referencesIn_own {n : Node} (h : ∀ x, n ≠ .name .reference x) (own : Option SymbolId) :
    n.referencesIn { site with own } = n.referencesIn site := by
  cases n with
  | name role x =>
      cases role with
      | reference => exact absurd rfl (h x)
      | _ => rfl
  | form kind s parts =>
      by_cases hkind : kind = .targetDefault
      · subst hkind
        cases parts <;> rfl
      · rw [referencesIn_form _ _ hkind, referencesIn_form _ _ hkind]
        rfl
  | _ => rfl

theorem selfSymbol_eq (symbol : Option SymbolId) (pattern value : Node) :
    selfSymbol symbol pattern value = pattern.face.binding.bind fun x =>
      match value with
      | .name .reference y => if x.name = y.name then symbol else none
      | _ => none := by
  cases pattern with
  | name role x =>
      cases role with
      | binding =>
          cases value with
          | name role y => cases role <;> rfl
          | _ => rfl
      | _ => rfl
  | _ => rfl

/-- A value that a pass leaves a name is the name it was. -/
theorem eq_of_qualify_eq_name {n : Node} {x : Ident}
    (h : n.qualify c pos = .name .reference x) : n = .name .reference x := by
  cases n with
  | name role y =>
      have hq : c.qualifyName pos role y = .name .reference x := h
      unfold Context.qualifyName at hq
      split at hq
      · cases hq
      · exact hq
  | shorthand y =>
      have hq : c.qualifyShorthand y = .name .reference x := h
      unfold Context.qualifyShorthand at hq
      split at hq <;> cases hq
  | shorthandTarget s y value =>
      have hq : c.qualifyShorthandTarget s y (value.qualify c .value) = .name .reference x := h
      unfold Context.qualifyShorthandTarget at hq
      split at hq <;> cases hq
  | _ => cases h

/-- After a pass the value of a declarator is looked at as it was before. -/
theorem referencesIn_qualify_own (symbol : Option SymbolId) (pattern value : Node) :
    (value.qualify c .value).referencesIn
        { site with own := selfSymbol symbol (pattern.qualify c .value) (value.qualify c .value) }
      = (value.qualify c .value).referencesIn
        { site with own := selfSymbol symbol pattern value } := by
  by_cases hname : ∃ x, value.qualify c .value = .name .reference x
  · obtain ⟨x, hx⟩ := hname
    rw [hx, eq_of_qualify_eq_name hx, selfSymbol_eq, selfSymbol_eq, face_qualify]
  · have hno : ∀ x, value.qualify c .value ≠ .name .reference x := fun x hx => hname ⟨x, hx⟩
    exact (referencesIn_own hno _).trans (referencesIn_own hno _).symm

theorem referencesOf_qualifyAll {parts : List Node}
    (h : ∀ n ∈ parts, ((n.qualify c .value).referencesIn site).Perm
      ((n.referencesIn site).flatMap c.leaves)) :
    (referencesOf site (qualifyAll c parts)).Perm ((referencesOf site parts).flatMap c.leaves) := by
  induction parts with
  | nil => exact .refl _
  | cons n rest ih =>
      have hn := h n (by simp)
      have hrest := ih fun m hm => h m (by simp [hm])
      rw [qualifyAll, referencesOf, referencesOf, List.flatMap_append]
      exact hn.append hrest

/-- In an expanded target the receiver stands in front of the default. -/
theorem references_expanded (c : Context) (s : Span) (x : Ident) (value : Node) (site : Site) :
    (Node.form (.targetProperty false) s
        [.name .key x,
         if value.isAbsent then .write (c.qualified x)
         else .form .targetDefault s [.write (c.qualified x), value]]).referencesIn site
      = c.receiverNode.referencesIn { scope := site.scope } ++ value.referencesIn site.part := by
  cases habsent : value.isAbsent with
  | true =>
      obtain rfl := isAbsent_iff.mp habsent
      rfl
  | false =>
      show c.receiverNode.referencesIn { scope := site.scope }
        ++ (value.referencesIn site.part ++ []) ++ [] = _
      rw [List.append_nil, List.append_nil]

/-- **A pass replaces the references it takes by the receiver**, and leaves the others. -/
theorem references_qualify {n : Node} (h : Arrives c pos site n) :
    ((n.qualify c pos).referencesIn site).Perm ((n.referencesIn site).flatMap c.leaves) := by
  induction n generalizing c pos site with
  | name role x =>
      cases role with
      | reference =>
          show ((c.qualifyName pos .reference x).referencesIn site).Perm _
          rw [referencesIn, List.flatMap_singleton]
          have htakes := h.takes_reference
          unfold Context.qualifyName
          cases hq : c.qualifies pos x with
          | true =>
              rw [c.leaves_of_takes (htakes.trans hq)]
              exact .refl _
          | false =>
              rw [c.leaves_of_not_takes (htakes.trans hq)]
              exact .refl _
      | _ => exact .refl _
  | thisRef s => exact .refl _
  | member s o object x ih => exact ih (h.inward (by simp) rfl)
  | index s o object key ihobject ihkey =>
      rw [qualify, referencesIn, referencesIn, List.flatMap_append]
      exact (ihobject (h.inward (by simp) rfl)).append (ihkey (h.part (by simp)))
  | field s o object f ih => exact ih (h.inward (by simp) rfl)
  | call s o callee args ihcallee ihargs =>
      rw [qualify, referencesIn, referencesIn, List.flatMap_append]
      exact (ihcallee (h.inward (by simp) rfl)).append
        (referencesOf_qualifyAll fun n hn => ihargs n hn (h.part (by simp)))
  | chain s element ih => exact ih (h.inward (by simp) rfl)
  | nonNull s value ih => exact ih (h.inward (by simp) rfl)
  | write target ih => exact ih (h.target (by simp))
  | shorthandTarget s x value ih =>
      have hvalue := ih (h.part (by simp))
      have htakes := h.takes_shorthandTarget
      rw [qualify, referencesIn, List.flatMap_append, List.flatMap_singleton]
      unfold Context.qualifyShorthandTarget
      cases hfree : c.isFreeTarget x with
      | true =>
          rw [c.leaves_of_takes (htakes.trans hfree)]
          rw [if_pos rfl, references_expanded]
          exact (hvalue.append_left _).trans List.perm_append_comm
      | false =>
          rw [c.leaves_of_not_takes (htakes.trans hfree)]
          exact hvalue.append_right _
  | shorthand x =>
      have htakes := h.takes_shorthand
      rw [qualify, referencesIn, List.flatMap_singleton]
      unfold Context.qualifyShorthand
      cases hfree : c.isFree x with
      | true =>
          rw [c.leaves_of_takes (htakes.trans hfree)]
          show (c.receiverNode.referencesIn { scope := site.scope } ++ []).Perm _
          rw [List.append_nil]
          exact .refl _
      | false =>
          rw [c.leaves_of_not_takes (htakes.trans hfree)]
          exact .refl _
  | declarator s symbol pattern value ihpattern ihvalue =>
      rw [qualify, referencesIn, referencesIn, List.flatMap_append, referencesIn_qualify_own]
      exact (ihpattern (h.pattern symbol pattern value)).append
        (ihvalue (h.value symbol pattern value))
  | form kind s parts ih =>
      by_cases hkind : kind = .targetDefault
      · subst hkind
        cases parts with
        | nil => exact .refl _
        | cons target rest =>
            rw [qualify, qualifyAll, referencesIn, referencesIn, List.flatMap_append]
            refine (ih target (by simp) (h.part (by simp) site.key)).append ?_
            exact referencesOf_qualifyAll fun n hn =>
              ih n (List.mem_cons_of_mem _ hn) (h.part (by simp))
      · rw [qualify, referencesIn_form _ _ hkind, referencesIn_form _ _ hkind,
          keyPlace_qualifyAll]
        exact referencesOf_qualifyAll fun n hn => ih n hn (h.part (by simp) _)
  | region kind s scope parts ih =>
      exact referencesOf_qualifyAll (c := c.enter scope) fun n hn =>
        ih n hn (h.enter (by simp) scope)

/-! ### A pass that takes no reference changes nothing -/

theorem qualifyAll_eq_self {parts : List Node}
    (h : ∀ n ∈ parts, (∀ r ∈ n.referencesIn site, c.takes r = false) → n.qualify c .value = n)
    (hnone : ∀ r ∈ referencesOf site parts, c.takes r = false) : qualifyAll c parts = parts := by
  induction parts with
  | nil => rfl
  | cons n rest ih =>
      rw [referencesOf, List.forall_mem_append] at hnone
      rw [qualifyAll, h n (by simp) hnone.1, ih (fun m hm => h m (by simp [hm])) hnone.2]

/-- A tree of which no reference is taken stays as it is. -/
theorem qualify_eq_self {n : Node} (h : Arrives c pos site n)
    (hnone : ∀ r ∈ n.referencesIn site, c.takes r = false) : n.qualify c pos = n := by
  induction n generalizing c pos site with
  | name role x =>
      cases role with
      | reference =>
          have hq : c.qualifies pos x = false := by
            rw [← h.takes_reference]
            exact hnone _ (List.mem_singleton.mpr rfl)
          show c.qualifyName pos .reference x = _
          unfold Context.qualifyName
          rw [hq, Bool.and_false]
          rfl
      | _ => rfl
  | thisRef s => rfl
  | member s o object x ih => rw [qualify, ih (h.inward (by simp) rfl) hnone]
  | index s o object key ihobject ihkey =>
      rw [referencesIn, List.forall_mem_append] at hnone
      rw [qualify, ihobject (h.inward (by simp) rfl) hnone.1, ihkey (h.part (by simp)) hnone.2]
  | field s o object f ih => rw [qualify, ih (h.inward (by simp) rfl) hnone]
  | call s o callee args ihcallee ihargs =>
      rw [referencesIn, List.forall_mem_append] at hnone
      rw [qualify, ihcallee (h.inward (by simp) rfl) hnone.1,
        qualifyAll_eq_self (fun n hn => ihargs n hn (h.part (by simp))) hnone.2]
  | chain s element ih => rw [qualify, ih (h.inward (by simp) rfl) hnone]
  | nonNull s value ih => rw [qualify, ih (h.inward (by simp) rfl) hnone]
  | write target ih => rw [qualify, ih (h.target (by simp)) hnone]
  | shorthandTarget s x value ih =>
      rw [referencesIn, List.forall_mem_append] at hnone
      have hfree : c.isFreeTarget x = false := by
        rw [← h.takes_shorthandTarget]
        exact hnone.2 _ (List.mem_singleton.mpr rfl)
      rw [qualify, ih (h.part (by simp)) hnone.1]
      unfold Context.qualifyShorthandTarget
      rw [hfree]
      rfl
  | shorthand x =>
      have hfree : c.isFree x = false := by
        rw [← h.takes_shorthand]
        exact hnone _ (List.mem_singleton.mpr rfl)
      rw [qualify]
      unfold Context.qualifyShorthand
      rw [hfree]
      rfl
  | declarator s symbol pattern value ihpattern ihvalue =>
      rw [referencesIn, List.forall_mem_append] at hnone
      rw [qualify, ihpattern (h.pattern symbol pattern value) hnone.1,
        ihvalue (h.value symbol pattern value) hnone.2]
  | form kind s parts ih =>
      rw [qualify]
      by_cases hkind : kind = .targetDefault
      · subst hkind
        cases parts with
        | nil => rfl
        | cons target rest =>
            rw [referencesIn, List.forall_mem_append] at hnone
            rw [qualifyAll, ih target (by simp) (h.part (by simp) site.key) hnone.1,
              qualifyAll_eq_self
                (fun n hn => ih n (List.mem_cons_of_mem _ hn) (h.part (by simp))) hnone.2]
      · rw [referencesIn_form _ _ hkind] at hnone
        rw [qualifyAll_eq_self (fun n hn => ih n hn (h.part (by simp) _)) hnone]
  | region kind s scope parts ih =>
      rw [qualify, qualifyAll_eq_self (c := c.enter scope)
        (fun n hn => ih n hn (h.enter (by simp) scope)) hnone]

end Node

namespace Context

variable (c : Context)

theorem of_mem_leaves {r r' : Reference} (h : r' ∈ c.leaves r) :
    (r'.isPlaced = false ∧ r'.key = none) ∨ (c.takes r = false ∧ r' = r) := by
  cases htakes : c.takes r with
  | true =>
      rw [c.leaves_of_takes htakes] at h
      obtain ⟨hplaced, hsite⟩ := c.of_mem_receiver h
      exact .inl ⟨hplaced, by rw [hsite]⟩
  | false =>
      rw [c.leaves_of_not_takes htakes] at h
      exact .inr ⟨rfl, List.mem_singleton.mp h⟩

/-- What stands in the source after a pass did so before, and was not taken. -/
theorem placed_leaves (refs : List Reference) :
    (refs.flatMap c.leaves).filter Reference.isPlaced
      = (refs.filter Reference.isPlaced).filter fun r => !c.takes r := by
  induction refs with
  | nil => rfl
  | cons r rest ih =>
      rw [List.flatMap_cons, List.filter_append, ih, List.filter_cons]
      cases htakes : c.takes r with
      | true =>
          have hnone : (c.leaves r).filter Reference.isPlaced = [] := by
            rw [c.leaves_of_takes htakes, List.filter_eq_nil_iff]
            intro r' hr'
            rw [(c.of_mem_receiver hr').1]
            exact Bool.false_ne_true
          rw [hnone, if_pos (c.isPlaced_of_takes htakes), List.filter_cons, htakes]
          rfl
      | false =>
          rw [c.leaves_of_not_takes htakes, List.filter_singleton]
          cases hplaced : r.isPlaced with
          | true => simp [htakes]
          | false => rfl

/-- What stands nowhere is left as it is. -/
theorem unplaced_leaves (refs : List Reference) :
    (refs.filter (!·.isPlaced)).Sublist ((refs.flatMap c.leaves).filter (!·.isPlaced)) := by
  induction refs with
  | nil => exact .refl _
  | cons r rest ih =>
      rw [List.flatMap_cons, List.filter_append, List.filter_cons]
      cases hplaced : r.isPlaced with
      | true => exact ih.trans (List.sublist_append_right _ _)
      | false =>
          rw [c.leaves_of_not_takes (c.takes_eq_false_of_unplaced hplaced),
            List.filter_singleton, hplaced]
          exact ih.cons_cons r

end Context

/-! ### One pass over a tree with its scopes -/

namespace Node

/-- The places in the source of the references. -/
def placedSpans (n : Node) : List Span :=
  (n.references.filter Reference.isPlaced).map (·.ident.span)

/-- The references that stand nowhere, with the way they are used. -/
def unplaced (n : Node) : List Reference :=
  (n.references.filter (!·.isPlaced)).map Reference.bare

theorem placedSpans_eq_bare (n : Node) :
    n.placedSpans
      = ((n.references.map Reference.bare).filter Reference.isPlaced).map (·.ident.span) := by
  rw [List.filter_map, List.map_map]
  rfl

theorem unplaced_eq_bare (n : Node) :
    n.unplaced = (n.references.map Reference.bare).filter (!·.isPlaced) := by
  rw [List.filter_map]
  rfl

theorem placedSpans_withScopes (tree : Node) (strict : Bool) :
    (tree.withScopes strict).tree.placedSpans = tree.placedSpans := by
  rw [placedSpans_eq_bare, placedSpans_eq_bare, references_withScopes]

theorem unplaced_withScopes (tree : Node) (strict : Bool) :
    (tree.withScopes strict).tree.unplaced = tree.unplaced := by
  rw [unplaced_eq_bare, unplaced_eq_bare, references_withScopes]

end Node

namespace Scoped

variable (p : Scoped) (i : Instructions)

theorem references_pass :
    (p.pass i).tree.references.Perm
      (p.tree.references.flatMap (Context.ofScopes p.scopes i).leaves) :=
  Node.references_qualify (.root p.scopes i p.tree)

/-- No reference of the tree that a pass leaves would be taken by the same pass. -/
theorem takes_of_mem_pass {r : Reference} (hr : r ∈ (p.pass i).tree.references) :
    (Context.ofScopes p.scopes i).takes r = false := by
  obtain ⟨r₀, -, hleaves⟩ := List.mem_flatMap.mp ((p.references_pass i).mem_iff.mp hr)
  rcases Context.of_mem_leaves _ hleaves with ⟨hplaced, -⟩ | ⟨htakes, rfl⟩
  · exact Context.takes_eq_false_of_unplaced _ hplaced
  · exact htakes

theorem keysApart_pass (h : ∀ r ∈ p.tree.references, r.key ≠ some r.ident.span) :
    ∀ r ∈ (p.pass i).tree.references, r.key ≠ some r.ident.span := by
  intro r hr
  obtain ⟨r₀, hr₀, hleaves⟩ := List.mem_flatMap.mp ((p.references_pass i).mem_iff.mp hr)
  rcases Context.of_mem_leaves _ hleaves with ⟨-, hkey⟩ | ⟨-, rfl⟩
  · rw [hkey]
    exact nofun
  · exact h r hr₀

/-- A pass parts the references in the source into those it edits and those it leaves. -/
theorem placedSpans_pass :
    p.tree.placedSpans.Perm
      ((p.pass i).edits.map Edit.span ++ (p.pass i).tree.placedSpans) := by
  let c := Context.ofScopes p.scopes i
  let placed := p.tree.references.filter Reference.isPlaced
  have hedits : (p.pass i).edits.map Edit.span = (placed.filter c.takes).map (·.ident.span) := by
    have htaken : placed.filter c.takes = p.tree.references.filter c.takes := by
      rw [List.filter_filter]
      refine List.filter_congr fun r _ => ?_
      cases htakes : c.takes r with
      | true => exact c.isPlaced_of_takes htakes
      | false => rfl
    rw [p.edits_pass i, htaken, List.map_map]
    rfl
  have hleft : (p.pass i).tree.placedSpans.Perm
      ((placed.filter fun r => !c.takes r).map (·.ident.span)) := by
    have hplaced := (p.references_pass i).filter Reference.isPlaced
    rw [c.placed_leaves] at hplaced
    exact hplaced.map _
  have hparts := (List.filter_append_perm c.takes placed).map (·.ident.span)
  rw [List.map_append, ← hedits] at hparts
  exact hparts.symm.trans (hleft.symm.append_left _)

/-- The references that stand nowhere stay. -/
theorem unplaced_pass : p.tree.unplaced.Subperm (p.pass i).tree.unplaced := by
  let c := Context.ofScopes p.scopes i
  have hkept := (c.unplaced_leaves p.tree.references).map Reference.bare
  have hperm := ((p.references_pass i).filter (!·.isPlaced)).map Reference.bare
  exact hkept.subperm.trans hperm.symm.subperm

/-- A pass over what the same pass has left finds nothing. -/
theorem pass_again (q : Scoped) (hscopes : q.scopes = p.scopes) (htree : q.tree = (p.pass i).tree) :
    (q.pass i).edits = [] ∧ (q.pass i).tree = q.tree := by
  have hnone : ∀ r ∈ q.tree.references, (Context.ofScopes q.scopes i).takes r = false := by
    rw [hscopes, htree]
    exact fun r hr => p.takes_of_mem_pass i hr
  have htaken : q.tree.references.filter (Context.ofScopes q.scopes i).takes = [] := by
    rw [List.filter_eq_nil_iff]
    intro r hr
    rw [hnone r hr]
    exact Bool.false_ne_true
  refine ⟨?_, Node.qualify_eq_self (.root q.scopes i q.tree) hnone⟩
  rw [q.edits_pass i, htaken]
  rfl

end Scoped

/-! ### Passes one after the other -/

namespace Node

variable {tree last : Node} {edits : List Edit}

/-- The tree that passes one after the other leave. -/
def after (tree : Node) (strict : Bool) (is : List Instructions) : Node :=
  is.foldl (fun tree i => (tree.pass strict i).tree) tree

theorem passes_concat (tree : Node) (strict : Bool) (is : List Instructions) (i : Instructions) :
    tree.passes strict (is ++ [i])
      = tree.passes strict is ++ [(tree.after strict is).pass strict i] := by
  induction is generalizing tree with
  | nil => rfl
  | cons i' rest ih =>
      rw [List.cons_append, passes, passes, ih]
      rfl

theorem after_concat (tree : Node) (strict : Bool) (is : List Instructions) (i : Instructions) :
    tree.after strict (is ++ [i]) = ((tree.after strict is).pass strict i).tree := by
  unfold after
  rw [List.foldl_append]
  rfl

/-- What holds of the tree that passes have left and the edits they made. -/
structure Passed (tree : Node) (strict : Bool) (last : Node) (edits : List Edit) : Prop where
  /-- The references in the source are those that were edited and those that are left. -/
  spans : tree.placedSpans.Perm (edits.map Edit.span ++ last.placedSpans)
  /-- What was put in is there as it was put in, and nothing was put into it. -/
  insertions : (last.insertions.map Insertion.edit).Perm edits
  /-- What stood nowhere from the start is there too. -/
  unplaced : tree.unplaced.Subperm last.unplaced
  /-- The rest of the tree is what it was. -/
  restored : (last.withScopes strict).tree.restore = (tree.withScopes strict).tree
  keysApart : ∀ r ∈ last.references, r.key ≠ some r.ident.span

namespace Passed

variable {strict : Bool}

/-- Before the first pass. -/
theorem start (strict : Bool) (h : tree.Fresh) : Passed tree strict tree [] where
  spans := .refl _
  insertions := by rw [h.untouched]; exact .refl _
  unplaced := .refl _
  restored := (h.withScopes strict).restore
  keysApart := h.keysApart

/-- One more pass. -/
theorem pass (h : Passed tree strict last edits) (i : Instructions) :
    Passed tree strict (last.pass strict i).tree (edits ++ (last.pass strict i).edits) where
  spans := by
    have hpass := (last.withScopes strict).placedSpans_pass i
    rw [placedSpans_withScopes] at hpass
    rw [List.map_append, List.append_assoc]
    exact h.spans.trans (hpass.append_left _)
  insertions := by
    have hpass := (last.withScopes strict).insertions_pass i
      (keysApart_withScopes strict h.keysApart)
    rw [insertions_withScopes] at hpass
    exact hpass.trans (h.insertions.append_right _)
  unplaced := by
    have hpass := (last.withScopes strict).unplaced_pass i
    rw [unplaced_withScopes] at hpass
    exact h.unplaced.trans hpass
  restored := by
    have hagain := last.withScopes_pass strict i
    unfold Node.pass
    rw [hagain]
    exact ((last.withScopes strict).restore_pass i).trans h.restored
  keysApart :=
    (last.withScopes strict).keysApart_pass i (keysApart_withScopes strict h.keysApart)

/-- Any number of passes. -/
theorem after (strict : Bool) (h : tree.Fresh) (is : List Instructions) :
    Passed tree strict (tree.after strict is)
      ((tree.passes strict is).flatMap Report.edits) := by
  induction is using List.reverseRecOn with
  | nil => exact .start strict h
  | append_singleton is i ih =>
      rw [after_concat, passes_concat, List.flatMap_append, List.flatMap_singleton]
      exact ih.pass i

end Passed

/-- A pass that is made twice finds nothing the second time. -/
theorem pass_pass (tree : Node) (strict : Bool) (i : Instructions) :
    let again := (tree.pass strict i).tree.pass strict i
    again.edits = [] ∧ again.stats.free = 0 ∧ again.tree = (tree.pass strict i).tree := by
  intro again
  have hagain := tree.withScopes_pass strict i
  have hscopes : ((tree.pass strict i).tree.withScopes strict).scopes
      = (tree.withScopes strict).scopes := by
    unfold pass
    rw [hagain]
  have htree : ((tree.pass strict i).tree.withScopes strict).tree = (tree.pass strict i).tree := by
    unfold pass
    rw [hagain]
  obtain ⟨hedits, hsame⟩ := (tree.withScopes strict).pass_again i _ hscopes htree
  have hfree : again.stats.free = again.edits.length := Scoped.free_stats_pass _ i
  refine ⟨hedits, ?_, hsame.trans htree⟩
  rw [hfree]
  exact congrArg List.length hedits

/--
**Passes one after the other qualify each reference at most once.**  Whatever each of
them is told, no place of the source is edited twice, and what is edited was a
reference of the source; all that was put in is in the tree as it was put in, what
stood nowhere from the start stands there still, and the rest of the tree is what it
was; and a pass made twice in a row finds nothing and changes nothing the second
time.
-/
theorem passes_qualify_once (tree : Node) (strict : Bool) (is : List Instructions)
    (hfresh : tree.Fresh) (hdistinct : tree.placedSpans.Nodup) :
    let edits := (tree.passes strict is).flatMap Report.edits
    let last := tree.after strict is
    (edits.map Edit.span).Nodup
      ∧ (∀ e ∈ edits, e.span ∈ tree.placedSpans)
      ∧ (last.insertions.map Insertion.edit).Perm edits
      ∧ tree.unplaced.Subperm last.unplaced
      ∧ (last.withScopes strict).tree.restore = (tree.withScopes strict).tree
      ∧ ∀ i, let again := (last.pass strict i).tree.pass strict i
          again.edits = [] ∧ again.stats.free = 0 ∧ again.tree = (last.pass strict i).tree := by
  intro edits last
  have h : Passed tree strict last edits := .after strict hfresh is
  have hnodup := h.spans.nodup_iff.mp hdistinct
  refine ⟨(List.nodup_append.mp hnodup).1, ?_, h.insertions, h.unplaced, h.restored,
    last.pass_pass strict⟩
  intro e he
  exact h.spans.mem_iff.mpr (List.mem_append_left _ (List.mem_map_of_mem he))

/-- Three passes; the name that stands nowhere is the receiver of the second. -/
def threePasses : List Instructions :=
  [⟨.ofNames ["c"] true, "scope", .preserve⟩, ⟨.empty, "late", .qualify⟩,
    ⟨.empty, "this", .qualify⟩]

theorem passes_takenApart_qualify_once :
    let edits := (takenApart.passes true threePasses).flatMap Report.edits
    let last := takenApart.after true threePasses
    takenApart.Fresh ∧ takenApart.placedSpans.Nodup
      ∧ (edits.map Edit.span).Nodup
      ∧ (∀ e ∈ edits, e.span ∈ takenApart.placedSpans)
      ∧ (last.insertions.map Insertion.edit).Perm edits
      ∧ takenApart.unplaced.Subperm last.unplaced
      ∧ (last.withScopes true).tree.restore = (takenApart.withScopes true).tree
      ∧ (∀ i, let again := (last.pass true i).tree.pass true i
          again.edits = [] ∧ again.stats.free = 0 ∧ again.tree = (last.pass true i).tree)
      ∧ (takenApart.passes true threePasses).map (·.edits.map (·.text))
          = [["scope.y", "a: scope.a", "scope.f"], ["x: late.x", "late.c"], []] := by
  intro edits last
  have hfresh : takenApart.Fresh := ⟨by decide +kernel, by decide +kernel⟩
  have hdistinct : takenApart.placedSpans.Nodup := by decide +kernel
  obtain ⟨hnodup, hspans, hinsertions, hunplaced, hrestored, hagain⟩ :=
    passes_qualify_once takenApart true threePasses hfresh hdistinct
  exact ⟨hfresh, hdistinct, hnodup, hspans, hinsertions, hunplaced, hrestored, hagain,
    by decide +kernel⟩

end Node

end FreeNames
