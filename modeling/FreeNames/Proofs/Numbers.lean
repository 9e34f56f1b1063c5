/-
The numbers that the scope builder writes into a tree.

Building the scopes writes the numbers of frames and symbols into the tree and
changes nothing else: without the numbers (`Node.bare`) it is the tree it was
(`Builder.bare_annotate`).  So what does not read the numbers is said of the tree as
it was read and holds of the one with its scopes, which is all of what a reference
is but the scope it stands in.
-/
import FreeNames.Proofs.Insertions

namespace FreeNames

/-- What surrounds a node, its scope and the symbol of its declarator left aside. -/
def Site.bare (site : Site) : Site := { use := site.use, key := site.key }

/-- A reference, its scope and the symbol of its declarator left aside. -/
def Reference.bare (r : Reference) : Reference := { toSite := r.toSite.bare, ident := r.ident }

namespace Node

mutual

/-- A tree without the numbers of frames and symbols. -/
def bare : Node → Node
  | .name role x => .name role x
  | .thisRef s => .thisRef s
  | .member s o object x => .member s o (bare object) x
  | .index s o object key => .index s o (bare object) (bare key)
  | .field s o object f => .field s o (bare object) f
  | .call s o callee args => .call s o (bare callee) (bareAll args)
  | .chain s element => .chain s (bare element)
  | .nonNull s value => .nonNull s (bare value)
  | .write target => .write (bare target)
  | .shorthandTarget s x value => .shorthandTarget s x (bare value)
  | .shorthand x => .shorthand x
  | .declarator s _ pattern value => .declarator s none (bare pattern) (bare value)
  | .form kind s parts => .form kind s (bareAll parts)
  | .region kind s _ parts => .region kind s none (bareAll parts)

/-- Trees that stand side by side without the numbers of frames and symbols. -/
def bareAll : List Node → List Node
  | [] => []
  | n :: rest => bare n :: bareAll rest

end

theorem bareAll_eq_map (parts : List Node) : bareAll parts = parts.map bare := by
  induction parts with
  | nil => rfl
  | cons n rest ih => rw [bareAll, ih, List.map_cons]

@[simp] theorem span_bare (n : Node) : n.bare.span = n.span := by
  induction n with
  | write target ih => exact ih
  | _ => rfl

@[simp] theorem keySpan?_bare (n : Node) : n.bare.keySpan? = n.keySpan? := by
  cases n <;> rfl

@[simp] theorem receiverText_bare (n : Node) : n.bare.receiverText = n.receiverText := by
  cases n <;> rfl

@[simp] theorem keyPlace_bareAll (kind : Form) (parts : List Node) :
    keyPlace kind (bareAll parts) = keyPlace kind parts := by
  have hhead : (bareAll parts).head?.bind keySpan? = parts.head?.bind keySpan? := by
    cases parts with
    | nil => rfl
    | cons n rest => exact keySpan?_bare n
  unfold keyPlace
  split
  · exact hhead
  · exact hhead
  · rfl

@[simp] theorem selfSymbol_bare (pattern value : Node) :
    selfSymbol none pattern.bare value.bare = none := by
  unfold selfSymbol
  split
  · split <;> rfl
  · rfl

/-! ### References and insertions without their numbers -/

theorem referencesOf_bareAll {parts : List Node} {site : Site}
    (h : ∀ n ∈ parts, n.bare.referencesIn site.bare = (n.referencesIn site).map Reference.bare) :
    referencesOf site.bare (bareAll parts) = (referencesOf site parts).map Reference.bare := by
  induction parts with
  | nil => rfl
  | cons n rest ih =>
      rw [bareAll, referencesOf, referencesOf, h n (by simp), ih fun m hm => h m (by simp [hm]),
        List.map_append]

theorem referencesIn_bare (n : Node) (site : Site) :
    n.bare.referencesIn site.bare = (n.referencesIn site).map Reference.bare := by
  induction n generalizing site with
  | name role x => cases role <;> rfl
  | thisRef s => rfl
  | member s o object x ih => exact ih site.part
  | index s o object key ihobject ihkey =>
      have hobject := ihobject site.part
      have hkey := ihkey site.part
      rw [referencesIn, List.map_append, ← hobject, ← hkey]
      rfl
  | field s o object f ih => exact ih site.part
  | call s o callee args ihcallee ihargs =>
      have hcallee := ihcallee site.part
      have hargs := referencesOf_bareAll fun n hn => ihargs n hn site.part
      rw [referencesIn, List.map_append, ← hcallee, ← hargs]
      rfl
  | chain s element ih => exact ih site.part
  | nonNull s value ih => exact ih site.part
  | write target ih => exact ih { site.part with use := .target, key := site.key }
  | shorthandTarget s x value ih =>
      have hvalue := ih site.part
      rw [referencesIn, List.map_append, ← hvalue]
      rfl
  | shorthand x => rfl
  | declarator s symbol pattern value ihpattern ihvalue =>
      have hpattern := ihpattern site.part
      have hvalue := ihvalue { site.part with own := selfSymbol symbol pattern value }
      rw [referencesIn, List.map_append, ← hpattern, ← hvalue, bare, referencesIn,
        selfSymbol_bare]
      rfl
  | form kind s parts ih =>
      by_cases hkind : kind = .targetDefault
      · subst hkind
        cases parts with
        | nil => rfl
        | cons target rest =>
            have htarget := ih target (by simp) { site.part with key := site.key }
            have hrest := referencesOf_bareAll fun n (hn : n ∈ rest) =>
              ih n (List.mem_cons_of_mem _ hn) site.part
            rw [referencesIn, List.map_append, ← htarget, ← hrest]
            rfl
      · have hparts := referencesOf_bareAll fun n hn =>
          ih n hn { site.part with key := keyPlace kind parts }
        rw [bare, referencesIn_form _ _ hkind, referencesIn_form _ _ hkind, ← hparts,
          keyPlace_bareAll]
        rfl
  | region kind s scope parts ih =>
      exact referencesOf_bareAll fun n hn => ih n hn { scope := scope.or site.scope }

/-- Without its numbers a tree has the references it has with them. -/
theorem references_bare (n : Node) : n.bare.references = n.references.map Reference.bare :=
  referencesIn_bare n {}

theorem insertionsOf_bareAll {parts : List Node} {key : Option Span}
    (h : ∀ n ∈ parts, n.bare.insertionsIn key = n.insertionsIn key) :
    insertionsOf key (bareAll parts) = insertionsOf key parts := by
  induction parts with
  | nil => rfl
  | cons n rest ih =>
      rw [bareAll, insertionsOf, insertionsOf, h n (by simp), ih fun m hm => h m (by simp [hm])]

theorem insertionsIn_bare (n : Node) (key : Option Span) :
    n.bare.insertionsIn key = n.insertionsIn key := by
  induction n generalizing key with
  | member s o object x ih =>
      rw [bare, insertionsIn, insertionsIn, insertionAt, insertionAt, ih, span_bare,
        receiverText_bare]
  | index s o object k ihobject ihk => rw [bare, insertionsIn, insertionsIn, ihobject, ihk]
  | field s o object f ih => exact ih none
  | call s o callee args ihcallee ihargs =>
      rw [bare, insertionsIn, insertionsIn, ihcallee,
        insertionsOf_bareAll fun n hn => ihargs n hn none]
  | chain s element ih => exact ih none
  | nonNull s value ih => exact ih none
  | write target ih => exact ih key
  | shorthandTarget s x value ih => exact ih none
  | declarator s symbol pattern value ihpattern ihvalue =>
      rw [bare, insertionsIn, insertionsIn, ihpattern, ihvalue]
  | form kind s parts ih =>
      by_cases hkind : kind = .targetDefault
      · subst hkind
        cases parts with
        | nil => rfl
        | cons target rest =>
            rw [bare, bareAll, insertionsIn, insertionsIn, ih target (by simp),
              insertionsOf_bareAll fun n hn => ih n (List.mem_cons_of_mem _ hn) none]
      · rw [bare, insertionsIn_form _ _ hkind, insertionsIn_form _ _ hkind, keyPlace_bareAll,
          insertionsOf_bareAll fun n hn => ih n hn _]
  | region kind s scope parts ih => exact insertionsOf_bareAll fun n hn => ih n hn none
  | _ => rfl

theorem insertions_bare (n : Node) : n.bare.insertions = n.insertions := insertionsIn_bare n none

end Node

/-! ### The scope builder writes numbers only -/

namespace Builder

theorem annotate_form (p : Place) {kind : Form} (s : Span) (parts : List Node)
    (hkind : kind ≠ .parameters) :
    annotate p (.form kind s parts) = do
      let inner ← visit p kind parts
      return .form kind s (← annotateAll inner parts) := by
  rw [annotate]
  exact hkind

theorem bareAll_annotateAll {parts : List Node}
    (h : ∀ n ∈ parts, ∀ p b, ((annotate p n).run b).1.bare = n.bare) (p : Place) (b : Builder) :
    Node.bareAll ((annotateAll p parts).run b).1 = Node.bareAll parts := by
  induction parts generalizing b with
  | nil => rfl
  | cons n rest ih =>
      have hn := h n (by simp) p b
      have hrest := ih (fun m hm => h m (by simp [hm])) ((annotate p n).run b).2
      rw [Node.bareAll, ← hn, ← hrest]
      rfl

theorem bareAll_annotateParameters {parts : List Node}
    (h : ∀ n ∈ parts, ∀ p b, ((annotate p n).run b).1.bare = n.bare) (p : Place) (b : Builder) :
    Node.bareAll ((annotateParameters p parts).run b).1 = Node.bareAll parts := by
  induction parts generalizing b with
  | nil => rfl
  | cons n rest ih =>
      let declared := ((declareParameter p n.boundNames).run b).2
      have hn := h n (by simp) p.plain declared
      have hrest := ih (fun m hm => h m (by simp [hm])) ((annotate p.plain n).run declared).2
      rw [Node.bareAll, ← hn, ← hrest]
      rfl

/-- **Building the scopes writes numbers into the tree and changes nothing else.** -/
theorem bare_annotate (p : Place) (n : Node) (b : Builder) :
    ((annotate p n).run b).1.bare = n.bare := by
  induction n generalizing p b with
  | name role x => rfl
  | thisRef s => rfl
  | member s o object x ih =>
      rw [Node.bare, ← ih p.plain b]
      rfl
  | index s o object key ihobject ihkey =>
      have hobject := ihobject p.plain b
      have hkey := ihkey p.plain ((annotate p.plain object).run b).2
      rw [Node.bare, ← hobject, ← hkey]
      rfl
  | field s o object f ih =>
      rw [Node.bare, ← ih p.plain b]
      rfl
  | call s o callee args ihcallee ihargs =>
      have hcallee := ihcallee p.plain b
      have hargs := bareAll_annotateAll ihargs p.plain ((annotate p.plain callee).run b).2
      rw [Node.bare, ← hcallee, ← hargs]
      rfl
  | chain s element ih =>
      rw [Node.bare, ← ih p.plain b]
      rfl
  | nonNull s value ih =>
      rw [Node.bare, ← ih p.plain b]
      rfl
  | write target ih =>
      rw [Node.bare, ← ih p.plain b]
      rfl
  | shorthandTarget s x value ih =>
      rw [Node.bare, ← ih p.plain b]
      rfl
  | shorthand x => rfl
  | declarator s symbol pattern value ihpattern ihvalue =>
      let declared := ((declareBound p pattern.boundNames).run b).2
      have hpattern := ihpattern p.plain declared
      have hvalue := ihvalue p.plain ((annotate p.plain pattern).run declared).2
      rw [Node.bare, ← hpattern, ← hvalue]
      rfl
  | form kind s parts ih =>
      by_cases hkind : kind = .parameters
      · subst hkind
        rw [Node.bare, ← bareAll_annotateParameters ih p b]
        rfl
      · let visited := (visit p kind parts).run b
        have hparts := bareAll_annotateAll ih visited.1 visited.2
        rw [Node.bare, ← hparts, annotate_form p s parts hkind]
        rfl
  | region kind s scope parts ih =>
      let entered := (enter p kind parts).run b
      have hparts := bareAll_annotateAll ih entered.1.2 entered.2
      rw [Node.bare, ← hparts]
      rfl

end Builder

namespace Node

theorem bare_withScopes (tree : Node) (strict : Bool) :
    (tree.withScopes strict).tree.bare = tree.bare :=
  Builder.bare_annotate _ tree {}

/-- The references of a tree with its scopes are those it was read with. -/
theorem references_withScopes (tree : Node) (strict : Bool) :
    (tree.withScopes strict).tree.references.map Reference.bare
      = tree.references.map Reference.bare := by
  rw [← references_bare, ← references_bare, bare_withScopes]

theorem insertions_withScopes (tree : Node) (strict : Bool) :
    (tree.withScopes strict).tree.insertions = tree.insertions := by
  rw [← insertions_bare, bare_withScopes, insertions_bare]

theorem keysApart_withScopes {tree : Node} (strict : Bool)
    (h : ∀ r ∈ tree.references, r.key ≠ some r.ident.span) :
    ∀ r ∈ (tree.withScopes strict).tree.references, r.key ≠ some r.ident.span := by
  intro r hr
  have hbare : r.bare ∈ (tree.withScopes strict).tree.references.map Reference.bare :=
    List.mem_map_of_mem hr
  rw [references_withScopes] at hbare
  obtain ⟨r₀, hr₀, heq⟩ := List.mem_map.mp hbare
  have hkey : r₀.key = r.key := congrArg (·.key) heq
  have hident : r₀.ident = r.ident := congrArg (·.ident) heq
  rw [← hkey, ← hident]
  exact h r₀ hr₀

/-- A tree that is fresh is so with its scopes. -/
theorem Fresh.withScopes {tree : Node} (h : tree.Fresh) (strict : Bool) :
    (tree.withScopes strict).tree.Fresh where
  untouched := (insertions_withScopes tree strict).trans h.untouched
  keysApart := keysApart_withScopes strict h.keysApart

end Node

end FreeNames
