/-
The scopes of a tree that a pass has changed.

A later pass builds the scopes anew, and comes to the same ones.  The builder
declares names and nests frames; of the parts of a node it reads no more than what
they declare and whether they ask for strict mode (`Face`), and neither is changed
by a pass, nor by the numbers that the builder itself writes.

So a tree that has been through a pass with its scopes has them still
(`Node.withScopes_pass`), and passes one after the other all work with the same frames.
-/
import FreeNames.Proofs.Numbers

namespace FreeNames

/-- What the scope builder reads of a part of a node without going into it. -/
@[ext] structure Face where
  /-- The names it declares. -/
  bound : List Ident
  /-- The name it is, if it is a name that is declared. -/
  binding : Option Ident
  /-- Whether it is the directive that asks for strict mode. -/
  isStrict : Bool
  /-- Whether it is the body of a function and asks for strict mode. -/
  hasStrict : Bool
  /-- Whether it is a list of parameters, and whether they are all plain names. -/
  simple : Option Bool

namespace Node

def face (n : Node) : Face where
  bound := n.boundNames
  binding := match n with
    | .name .binding x => some x
    | _ => none
  isStrict := Builder.asksForStrict.isStrictDirective n
  hasStrict := match n with
    | .form .body _ parts => parts.any Builder.asksForStrict.isStrictDirective
    | _ => false
  simple := match n with
    | .form .parameters _ _ => some (Builder.isSimpleList [n])
    | _ => none

/-! ### What the builder asks of parts is decided by their faces -/

theorem boundNamesOf_eq_flatMap (parts : List Node) :
    boundNamesOf parts = (parts.map face).flatMap Face.bound := by
  induction parts with
  | nil => rfl
  | cons n rest ih =>
      rw [boundNamesOf, ih]
      rfl

theorem boundNames_patternDefault (s : Span) (parts : List Node) :
    (Node.form .patternDefault s parts).boundNames
      = match parts.map face with
        | target :: _ => target.bound
        | [] => [] := by
  cases parts <;> rfl

theorem boundNames_patternProperty (computed shorthand : Bool) (s : Span) (parts : List Node) :
    (Node.form (.patternProperty computed shorthand) s parts).boundNames
      = match parts.map face with
        | [_, target] => target.bound
        | _ => [] := by
  match parts with
  | [] | [_] | [_, _] | _ :: _ :: _ :: _ => rfl

theorem nameOf_eq_findSome? (parts : List Node) :
    Builder.nameOf parts = ((parts.map face).findSome? Face.binding).map (·.name) := by
  induction parts with
  | nil => rfl
  | cons n rest ih =>
      cases n with
      | name role x =>
          cases role with
          | binding => rfl
          | _ => exact ih
      | _ => exact ih

theorem asksForStrict_eq_any (parts : List Node) :
    Builder.asksForStrict parts = (parts.map face).any fun f => f.isStrict || f.hasStrict := by
  induction parts with
  | nil => rfl
  | cons n rest ih =>
      rw [List.map_cons, List.any_cons, ← ih]
      cases n with
      | form kind s parts =>
          cases kind with
          | directive text =>
              let asks := text == "\"use strict\"" || text == "\x27use strict\x27"
              show (asks || _) = ((asks || false) || _)
              rw [Bool.or_false]
          | _ => rfl
      | _ => rfl

theorem isBinding_eq (n : Node) :
    (match n with
      | .name .binding _ => true
      | _ => false) = n.face.binding.isSome := by
  cases n with
  | name role x => cases role <;> rfl
  | _ => rfl

theorem isSimpleList_parameters (s : Span) (parts rest : List Node) :
    Builder.isSimpleList (.form .parameters s parts :: rest)
      = (parts.map face).all (·.binding.isSome) := by
  rw [List.all_map]
  exact congrArg (parts.all ·) (funext isBinding_eq)

theorem isSimpleList_eq_findSome? (parts : List Node) :
    Builder.isSimpleList parts = ((parts.map face).findSome? Face.simple).getD true := by
  induction parts with
  | nil => rfl
  | cons n rest ih =>
      cases n with
      | form kind s parts =>
          cases kind with
          | parameters => rfl
          | _ => exact ih
      | _ => exact ih

/-- What a form shows is decided by what its parts show. -/
theorem face_form_congr (kind : Form) (s : Span) {parts parts' : List Node}
    (h : parts.map face = parts'.map face) :
    (Node.form kind s parts).face = (Node.form kind s parts').face := by
  have hbound : (Node.form kind s parts).boundNames = (Node.form kind s parts').boundNames := by
    cases kind with
    | arrayPattern | objectPattern | patternRest | importDefault | importNamespace | importNamed =>
        rw [boundNames, boundNames, boundNamesOf_eq_flatMap, boundNamesOf_eq_flatMap, h]
    | patternDefault => rw [boundNames_patternDefault, boundNames_patternDefault, h]
    | patternProperty => rw [boundNames_patternProperty, boundNames_patternProperty, h]
    | _ => rfl
  have hstrict : parts.any Builder.asksForStrict.isStrictDirective
      = parts'.any Builder.asksForStrict.isStrictDirective := by
    have hany : ∀ parts : List Node, parts.any Builder.asksForStrict.isStrictDirective
        = (parts.map face).any Face.isStrict := fun parts => by rw [List.any_map]; rfl
    rw [hany, hany, h]
  refine Face.ext hbound rfl ?_ ?_ ?_
  · cases kind <;> rfl
  · cases kind with
    | body => exact hstrict
    | _ => rfl
  · cases kind with
    | parameters =>
        show some (Builder.isSimpleList _) = some (Builder.isSimpleList _)
        rw [isSimpleList_parameters, isSimpleList_parameters, h]
    | _ => rfl

theorem face_declarator (s : Span) (symbol : Option SymbolId) (pattern value : Node) :
    (Node.declarator s symbol pattern value).face
      = { bound := pattern.face.bound, binding := none, isStrict := false, hasStrict := false,
          simple := none } := rfl

/-- A pass changes nothing that the builder reads of a part. -/
theorem face_qualify (c : Context) (pos : Position) (n : Node) :
    (n.qualify c pos).face = n.face := by
  induction n generalizing c pos with
  | name role x =>
      show (c.qualifyName pos role x).face = _
      obtain hname | ⟨rfl, -, hname⟩ := c.qualifyName_cases pos role x
      · rw [hname]
      · rw [hname]
        rfl
  | shorthandTarget s x value ih =>
      show (c.qualifyShorthandTarget s x (value.qualify c .value)).face = _
      unfold Context.qualifyShorthandTarget
      split <;> rfl
  | shorthand x =>
      show (c.qualifyShorthand x).face = _
      unfold Context.qualifyShorthand
      split <;> rfl
  | declarator s symbol pattern value ihpattern ihvalue =>
      rw [qualify, face_declarator, face_declarator, ihpattern]
  | form kind s parts ih =>
      rw [qualify]
      refine face_form_congr kind s ?_
      rw [qualifyAll_eq_map, List.map_map]
      exact List.map_congr_left fun n hn => ih n hn c .value
  | _ => rfl

/-- Nor do the numbers that it writes. -/
theorem face_bare (n : Node) : n.bare.face = n.face := by
  induction n with
  | declarator s symbol pattern value ihpattern ihvalue =>
      rw [bare, face_declarator, face_declarator, ihpattern]
  | form kind s parts ih =>
      rw [bare]
      refine face_form_congr kind s ?_
      rw [bareAll_eq_map, List.map_map]
      exact List.map_congr_left ih
  | _ => rfl

end Node

namespace Builder

variable {parts parts' : List Node}

theorem declareCaught_eq (s : ScopeId) (parts : List Node) :
    declareCaught s parts
      = match (parts.map Node.face).head? with
        | none => pure ()
        | some f =>
          match f.binding with
          | some x => do
            let _ ← bindNew s x.name { hoisted := true }
            return ()
          | none => do
            let _ ← declareNames .lexical s f.bound
            return () := by
  cases parts with
  | nil => rfl
  | cons n rest =>
      cases n with
      | name role x => cases role <;> rfl
      | _ => rfl

/-- What happens where a frame is opened is decided by what the parts show. -/
theorem enter_congr (p : Place) (kind : ScopeKind)
    (h : parts.map Node.face = parts'.map Node.face) :
    enter p kind parts = enter p kind parts' := by
  have hname : nameOf (parts.take 1) = nameOf (parts'.take 1) := by
    rw [Node.nameOf_eq_findSome?, Node.nameOf_eq_findSome?, List.map_take, List.map_take, h]
  have hstrict : isStrictInside p kind parts = isStrictInside p kind parts' := by
    unfold isStrictInside
    rw [Node.asksForStrict_eq_any, Node.asksForStrict_eq_any, h]
  have hunique : ∀ strict, needsUnique strict kind parts = needsUnique strict kind parts' := by
    intro strict
    unfold needsUnique
    rw [Node.isSimpleList_eq_findSome?, Node.isSimpleList_eq_findSome?, h]
  have hcaught : ∀ s, declareCaught s parts = declareCaught s parts' := by
    intro s
    rw [declareCaught_eq, declareCaught_eq, h]
  unfold enter
  simp only [hname, hstrict, hunique, hcaught]

/-- So is what is declared where a node stands. -/
theorem visit_congr (p : Place) (kind : Form)
    (h : parts.map Node.face = parts'.map Node.face) :
    visit p kind parts = visit p kind parts' := by
  have hname : nameOf parts = nameOf parts' := by
    rw [Node.nameOf_eq_findSome?, Node.nameOf_eq_findSome?, h]
  have hbound : Node.boundNamesOf parts = Node.boundNamesOf parts' := by
    rw [Node.boundNamesOf_eq_flatMap, Node.boundNamesOf_eq_flatMap, h]
  unfold visit
  simp only [hname, hbound]

/-! ### A tree with its scopes stays one in a pass

What is built again is not the tree that was read but the one that the builder and
then a pass have left.  Both show what the tree showed that was read.
-/

/-- What two steps come to, if the first leaves `b₁` behind. -/
theorem run_bind_eq_iff {α β : Type} {x : Build α} {f : α → Build β} {b b' : Builder} {y : β} :
    (x >>= f).run b = (y, b') ↔ ∃ a b₁, x.run b = (a, b₁) ∧ (f a).run b₁ = (y, b') := by
  constructor
  · intro h
    exact ⟨(x.run b).1, (x.run b).2, rfl, h⟩
  · rintro ⟨a, b₁, hx, hf⟩
    rw [StateT.run_bind, hx]
    exact hf

theorem run_pure_eq_iff {α : Type} {a y : α} {b b' : Builder} :
    (pure a : Build α).run b = (y, b') ↔ a = y ∧ b = b' := by
  rw [StateT.run_pure]
  exact Prod.mk.injEq _ _ _ _ ▸ Iff.rfl

theorem face_annotate {p : Place} {n n' : Node} {b b' : Builder}
    (h : (annotate p n).run b = (n', b')) : n'.face = n.face := by
  have hbare := bare_annotate p n b
  rw [h] at hbare
  rw [← Node.face_bare n', hbare, Node.face_bare]

theorem faces_annotateAll {p : Place} {parts parts' : List Node} {b b' : Builder}
    (h : (annotateAll p parts).run b = (parts', b')) :
    parts'.map Node.face = parts.map Node.face := by
  have hbare : Node.bareAll ((annotateAll p parts).run b).1 = Node.bareAll parts :=
    bareAll_annotateAll (fun n _ p b => bare_annotate p n b) p b
  rw [h, Node.bareAll_eq_map, Node.bareAll_eq_map] at hbare
  have hfaces := congrArg (List.map Node.face) hbare
  rw [List.map_map, List.map_map] at hfaces
  simpa only [Function.comp_def, Node.face_bare] using hfaces

theorem faces_qualifyAll (c : Context) (parts : List Node) :
    (Node.qualifyAll c parts).map Node.face = parts.map Node.face := by
  rw [Node.qualifyAll_eq_map, List.map_map]
  exact List.map_congr_left fun n _ => Node.face_qualify c .value n

/-- That the builder, wherever it comes to what it has made of a node and a pass then has changed,
leaves that as it is and goes on as from the node. -/
def Rebuilds (n : Node) : Prop :=
  ∀ p b n' b' c pos, (annotate p n).run b = (n', b') →
    (annotate p (n'.qualify c pos)).run b = (n'.qualify c pos, b')

theorem annotateAll_qualifyAll {parts parts' : List Node} {p : Place} {b b' : Builder} (c : Context)
    (hall : ∀ n ∈ parts, Rebuilds n) (h : (annotateAll p parts).run b = (parts', b')) :
    (annotateAll p (Node.qualifyAll c parts')).run b = (Node.qualifyAll c parts', b') := by
  induction parts generalizing b parts' with
  | nil =>
      obtain ⟨rfl, rfl⟩ := run_pure_eq_iff.mp h
      rfl
  | cons n rest ih =>
      rw [annotateAll, run_bind_eq_iff] at h
      obtain ⟨n', b₁, hn, h⟩ := h
      obtain ⟨rest', b₂, hrest, h⟩ := run_bind_eq_iff.mp h
      obtain ⟨rfl, rfl⟩ := run_pure_eq_iff.mp h
      have hn' := hall n (by simp) p b n' b₁ c .value hn
      have hrest' := ih (fun m hm => hall m (by simp [hm])) hrest
      rw [Node.qualifyAll, annotateAll, run_bind_eq_iff]
      exact ⟨_, _, hn', run_bind_eq_iff.mpr ⟨_, _, hrest', rfl⟩⟩

theorem annotateParameters_qualifyAll {parts parts' : List Node} {p : Place} {b b' : Builder}
    (c : Context) (hall : ∀ n ∈ parts, Rebuilds n)
    (h : (annotateParameters p parts).run b = (parts', b')) :
    (annotateParameters p (Node.qualifyAll c parts')).run b = (Node.qualifyAll c parts', b') := by
  induction parts generalizing b parts' with
  | nil =>
      obtain ⟨rfl, rfl⟩ := run_pure_eq_iff.mp h
      rfl
  | cons n rest ih =>
      rw [annotateParameters, run_bind_eq_iff] at h
      obtain ⟨u, b₁, hdeclared, h⟩ := h
      obtain ⟨n', b₂, hn, h⟩ := run_bind_eq_iff.mp h
      obtain ⟨rest', b₃, hrest, h⟩ := run_bind_eq_iff.mp h
      obtain ⟨rfl, rfl⟩ := run_pure_eq_iff.mp h
      have hn' := hall n (by simp) p.plain b₁ n' b₂ c .value hn
      have hrest' := ih (fun m hm => hall m (by simp [hm])) hrest
      have hbound : (n'.qualify c .value).boundNames = n.boundNames :=
        congrArg Face.bound ((Node.face_qualify c .value n').trans (face_annotate hn))
      rw [Node.qualifyAll, annotateParameters, hbound, run_bind_eq_iff]
      refine ⟨_, _, hdeclared, run_bind_eq_iff.mpr ⟨_, _, hn', ?_⟩⟩
      exact run_bind_eq_iff.mpr ⟨_, _, hrest', rfl⟩

/-- The symbol of a pattern that declares the names of which these are the symbols. -/
theorem symbolOf_eq {p : Place} {pattern : Node} {ids : List SymbolId} {b b' : Builder}
    (h : (declareBound p pattern.boundNames).run b = (ids, b')) :
    symbolOf pattern ids = pattern.face.binding.bind fun _ => ids.head? := by
  have hnone (hnames : pattern.boundNames = []) : ids.head? = none := by
    rw [hnames] at h
    unfold declareBound at h
    cases hscope : p.scope with
    | none =>
        rw [hscope] at h
        obtain ⟨rfl, -⟩ := run_pure_eq_iff.mp h
        rfl
    | some s =>
        rw [hscope] at h
        obtain ⟨rfl, -⟩ := run_pure_eq_iff.mp h
        rfl
  cases pattern with
  | name role x =>
      cases role with
      | binding => rfl
      | _ => exact hnone rfl
  | _ => rfl

/-- What takes the place of a name declares nothing. -/
theorem annotate_qualified (p : Place) (c : Context) (x : Ident) (b : Builder) :
    (annotate p (c.qualified x)).run b = (c.qualified x, b) := by
  unfold Context.qualified Context.receiverNode
  split <;> rfl

theorem annotateAll_pair {p : Place} {n m : Node} {b b' : Builder}
    (hn : (annotate p n).run b = (n, b)) (hm : (annotate p m).run b = (m, b')) :
    (annotateAll p [n, m]).run b = ([n, m], b') := by
  rw [annotateAll, run_bind_eq_iff]
  refine ⟨_, _, hn, run_bind_eq_iff.mpr ⟨[m], b', ?_, rfl⟩⟩
  rw [annotateAll, run_bind_eq_iff]
  exact ⟨_, _, hm, rfl⟩

/-- A node around one other that neither the builder nor a pass asks anything of. -/
theorem Rebuilds.wrap {n : Node} {f : Node → Node} (hn : Rebuilds n)
    (hbuild : ∀ p m, annotate p (f m) = do return f (← annotate p.plain m))
    (hpass : ∀ c pos m, ∃ inner, (f m).qualify c pos = f (m.qualify c inner)) :
    Rebuilds (f n) := by
  intro p b n' b' c pos h
  rw [hbuild, run_bind_eq_iff] at h
  obtain ⟨m, b₁, hm, h⟩ := h
  obtain ⟨rfl, rfl⟩ := run_pure_eq_iff.mp h
  obtain ⟨inner, hinner⟩ := hpass c pos m
  rw [hinner, hbuild, run_bind_eq_iff]
  exact ⟨_, _, hn _ _ _ _ c inner hm, rfl⟩

/-- **Building the scopes again after a pass gives the tree that the pass left and the scopes it
was given.** -/
theorem rebuilds (n : Node) : Rebuilds n := by
  induction n with
  | name role x =>
      intro p b n' b' c pos h
      obtain ⟨rfl, rfl⟩ := run_pure_eq_iff.mp h
      show (annotate p (c.qualifyName pos role x)).run b = (c.qualifyName pos role x, b)
      unfold Context.qualifyName
      split
      · exact annotate_qualified p c x b
      · rfl
  | thisRef s =>
      intro p b n' b' c pos h
      obtain ⟨rfl, rfl⟩ := run_pure_eq_iff.mp h
      rfl
  | member s o object x ih =>
      exact ih.wrap (f := fun m => .member s o m x) (fun _ _ => rfl) fun _ _ _ => ⟨_, rfl⟩
  | index s o object key ihobject ihkey =>
      intro p b n' b' c pos h
      rw [annotate, run_bind_eq_iff] at h
      obtain ⟨object', b₁, hobject, h⟩ := h
      obtain ⟨key', b₂, hkey, h⟩ := run_bind_eq_iff.mp h
      obtain ⟨rfl, rfl⟩ := run_pure_eq_iff.mp h
      rw [Node.qualify, annotate, run_bind_eq_iff]
      refine ⟨_, _, ihobject _ _ _ _ _ _ hobject, run_bind_eq_iff.mpr ?_⟩
      exact ⟨_, _, ihkey _ _ _ _ _ _ hkey, rfl⟩
  | field s o object f ih =>
      exact ih.wrap (f := fun m => .field s o m f) (fun _ _ => rfl) fun _ _ _ => ⟨_, rfl⟩
  | call s o callee args ihcallee ihargs =>
      intro p b n' b' c pos h
      rw [annotate, run_bind_eq_iff] at h
      obtain ⟨callee', b₁, hcallee, h⟩ := h
      obtain ⟨args', b₂, hargs, h⟩ := run_bind_eq_iff.mp h
      obtain ⟨rfl, rfl⟩ := run_pure_eq_iff.mp h
      rw [Node.qualify, annotate, run_bind_eq_iff]
      refine ⟨_, _, ihcallee _ _ _ _ _ _ hcallee, run_bind_eq_iff.mpr ?_⟩
      exact ⟨_, _, annotateAll_qualifyAll c ihargs hargs, rfl⟩
  | chain s element ih =>
      exact ih.wrap (f := fun m => .chain s m) (fun _ _ => rfl) fun _ _ _ => ⟨_, rfl⟩
  | nonNull s value ih =>
      exact ih.wrap (f := fun m => .nonNull s m) (fun _ _ => rfl) fun _ _ _ => ⟨_, rfl⟩
  | write target ih =>
      exact ih.wrap (f := fun m => .write m) (fun _ _ => rfl) fun _ _ _ => ⟨_, rfl⟩
  | shorthandTarget s x value ih =>
      intro p b n' b' c pos h
      rw [annotate, run_bind_eq_iff] at h
      obtain ⟨value', b₁, hvalue, h⟩ := h
      obtain ⟨rfl, rfl⟩ := run_pure_eq_iff.mp h
      have hvalue' := ih _ _ _ _ c .value hvalue
      have htarget : (annotate p.plain (.write (c.qualified x))).run b
          = (.write (c.qualified x), b) := by
        rw [annotate, run_bind_eq_iff]
        exact ⟨_, _, annotate_qualified _ c x b, rfl⟩
      rw [Node.qualify]
      unfold Context.qualifyShorthandTarget
      split
      · rw [annotate_form _ _ _ (by simp), run_bind_eq_iff]
        refine ⟨p.plain, b, rfl, run_bind_eq_iff.mpr ⟨_, _, annotateAll_pair rfl ?_, rfl⟩⟩
        split
        · rename_i habsent
          rw [Node.isAbsent_iff.mp habsent] at hvalue'
          obtain ⟨-, rfl⟩ := run_pure_eq_iff.mp hvalue'
          exact htarget
        · rw [annotate_form _ _ _ (by simp), run_bind_eq_iff]
          refine ⟨p.plain, b, rfl, run_bind_eq_iff.mpr ⟨_, _, ?_, rfl⟩⟩
          exact annotateAll_pair htarget hvalue'
      · rw [annotate, run_bind_eq_iff]
        exact ⟨_, _, hvalue', rfl⟩
  | shorthand x =>
      intro p b n' b' c pos h
      obtain ⟨rfl, rfl⟩ := run_pure_eq_iff.mp h
      show (annotate p (c.qualifyShorthand x)).run b = (c.qualifyShorthand x, b)
      unfold Context.qualifyShorthand
      split
      · rw [annotate_form _ _ _ (by simp), run_bind_eq_iff]
        refine ⟨p.plain, b, rfl, run_bind_eq_iff.mpr ⟨_, _, ?_, rfl⟩⟩
        exact annotateAll_pair rfl (annotate_qualified _ c x b)
      · rfl
  | declarator s symbol pattern value ihpattern ihvalue =>
      intro p b n' b' c pos h
      rw [annotate, run_bind_eq_iff] at h
      obtain ⟨ids, b₁, hids, h⟩ := h
      obtain ⟨pattern', b₂, hpattern, h⟩ := run_bind_eq_iff.mp h
      obtain ⟨value', b₃, hvalue, h⟩ := run_bind_eq_iff.mp h
      obtain ⟨rfl, rfl⟩ := run_pure_eq_iff.mp h
      let inner := c.declaring (symbolOf pattern ids) pattern' value'
      have hpattern' := ihpattern _ _ _ _ inner .value hpattern
      have hvalue' := ihvalue _ _ _ _ inner .value hvalue
      have hface : (pattern'.qualify inner .value).face = pattern.face :=
        (Node.face_qualify inner .value pattern').trans (face_annotate hpattern)
      have hbound : (pattern'.qualify inner .value).boundNames = pattern.boundNames :=
        congrArg Face.bound hface
      have hids' : (declareBound p (pattern'.qualify inner .value).boundNames).run b
          = (ids, b₁) := by
        rw [hbound]
        exact hids
      have hsymbol : symbolOf (pattern'.qualify inner .value) ids = symbolOf pattern ids := by
        rw [symbolOf_eq hids', symbolOf_eq hids, hface]
      rw [Node.qualify, annotate, run_bind_eq_iff]
      refine ⟨_, _, hids', run_bind_eq_iff.mpr ⟨_, _, hpattern', ?_⟩⟩
      refine run_bind_eq_iff.mpr ⟨_, _, hvalue', ?_⟩
      rw [hsymbol]
      rfl
  | form kind s parts ih =>
      intro p b n' b' c pos h
      by_cases hkind : kind = .parameters
      · subst hkind
        rw [annotate, run_bind_eq_iff] at h
        obtain ⟨parts', b₁, hparts, h⟩ := h
        obtain ⟨rfl, rfl⟩ := run_pure_eq_iff.mp h
        rw [Node.qualify, annotate, run_bind_eq_iff]
        exact ⟨_, _, annotateParameters_qualifyAll c ih hparts, rfl⟩
      · rw [annotate_form _ _ _ hkind, run_bind_eq_iff] at h
        obtain ⟨inner, b₁, hvisit, h⟩ := h
        obtain ⟨parts', b₂, hparts, h⟩ := run_bind_eq_iff.mp h
        obtain ⟨rfl, rfl⟩ := run_pure_eq_iff.mp h
        have hfaces := (faces_qualifyAll c parts').trans (faces_annotateAll hparts)
        rw [Node.qualify, annotate_form _ _ _ hkind, visit_congr p kind hfaces, run_bind_eq_iff]
        refine ⟨_, _, hvisit, run_bind_eq_iff.mpr ?_⟩
        exact ⟨_, _, annotateAll_qualifyAll c ih hparts, rfl⟩
  | region kind s scope parts ih =>
      intro p b n' b' c pos h
      rw [annotate, run_bind_eq_iff] at h
      obtain ⟨⟨id, inner⟩, b₁, henter, h⟩ := h
      obtain ⟨parts', b₂, hparts, h⟩ := run_bind_eq_iff.mp h
      obtain ⟨rfl, rfl⟩ := run_pure_eq_iff.mp h
      have hfaces := (faces_qualifyAll (c.enter (some id)) parts').trans (faces_annotateAll hparts)
      rw [Node.qualify, annotate, enter_congr p kind hfaces, run_bind_eq_iff]
      refine ⟨_, _, henter, run_bind_eq_iff.mpr ?_⟩
      exact ⟨_, _, annotateAll_qualifyAll _ ih hparts, rfl⟩

end Builder

theorem Node.withScopes_eq (tree : Node) (strict : Bool) :
    tree.withScopes strict
      = { tree := ((Builder.annotate { scope := none, strict } tree).run {}).1
          scopes := ⟨((Builder.annotate { scope := none, strict } tree).run {}).2.frames⟩
          clashes :=
            ((Builder.annotate { scope := none, strict } tree).run {}).2.clashes.reverse } :=
  rfl

/-- **A pass leaves the scopes as they are.**  The next pass finds the tree that this one left with
the frames, the numbers and the clashes that this one found. -/
theorem Node.withScopes_pass (tree : Node) (strict : Bool) (i : Instructions) :
    ((tree.withScopes strict).pass i).tree.withScopes strict
      = { tree.withScopes strict with tree := ((tree.withScopes strict).pass i).tree } := by
  let place : Builder.Place := { scope := none, strict }
  have hagain : (Builder.annotate place ((tree.withScopes strict).pass i).tree).run {}
      = (((tree.withScopes strict).pass i).tree, ((Builder.annotate place tree).run {}).2) :=
    Builder.rebuilds tree place {} _ _ (.ofScopes (tree.withScopes strict).scopes i) .value rfl
  rw [withScopes_eq ((tree.withScopes strict).pass i).tree, hagain]
  rfl

end FreeNames
