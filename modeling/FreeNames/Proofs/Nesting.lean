/-
The frames of a program.

A frame is opened in one that is there already, and no declaration moves a frame, whatever it
does to the bindings.  So every frame of a program lies in one with a smaller number, and the
frames are a forest (`Node.isForest_withScopes`): no lookup of a pass goes round in circles.
-/
import FreeNames.Proofs.Forest
import FreeNames.Proofs.Numbers

namespace FreeNames

namespace Builder

variable {α β : Type} {b b' : Builder} {p : Place}

/-! ### Declarations -/

/-- What every frame lies in, in the order of the frames. -/
def parents (b : Builder) : Array (Option ScopeId) := b.frames.map (·.parent)

/-- Whether an action opens no frame and moves none. -/
def Keeps (x : Build α) : Prop := ∀ b, (x.run b).2.parents = b.parents

theorem parents_modify {g : Frame → Frame} (h : ∀ f, (g f).parent = f.parent)
    (frames : Array Frame) (s : ScopeId) :
    (frames.modify s g).map (·.parent) = frames.map (·.parent) := by
  refine Array.ext_getElem? fun i => ?_
  rw [Array.getElem?_map, Array.getElem?_map, Array.getElem?_modify]
  split
  · simp [Option.map_map, Function.comp_def, h]
  · rfl

namespace Keeps

theorem pure (a : α) : Keeps (pure a : Build α) := fun _ => rfl

theorem bind {x : Build α} {f : α → Build β} (hx : Keeps x) (hf : ∀ a, Keeps (f a)) :
    Keeps (x >>= f) := fun b => (hf _ _).trans (hx b)

theorem mapM {f : α → Build β} (hf : ∀ a, Keeps (f a)) (l : List α) : Keeps (l.mapM f) := by
  induction l with
  | nil => exact .pure _
  | cons a rest ih =>
      rw [List.mapM_cons]
      exact (hf a).bind fun _ => ih.bind fun _ => .pure _

theorem forIn {f : α → β → Build (ForInStep β)} (hf : ∀ a c, Keeps (f a c)) (l : List α) (c : β) :
    Keeps (forIn l c f) := by
  induction l generalizing c with
  | nil => exact .pure _
  | cons a rest ih =>
      rw [List.forIn_cons]
      refine (hf a c).bind fun r => ?_
      cases r with
      | done c => exact .pure _
      | yield c => exact ih c

end Keeps

theorem Keeps.modify {g : Builder → Builder} (h : ∀ b, (g b).parents = b.parents) :
    Keeps (modify g : Build Unit) := fun b => h b

theorem keeps_check (name : String) (id : SymbolId) (d : Declaring) : Keeps (check name id d) :=
  .modify fun b => by
    split <;> rfl

theorem keeps_bindNew (s : ScopeId) (name : String) (kinds : SymbolKinds) :
    Keeps (bindNew s name kinds) := fun b =>
  parents_modify (g := (·.bind name b.kinds.size)) (fun _ => rfl) b.frames s

theorem keeps_declareIn (s : ScopeId) (name : String) (d : Declaring) :
    Keeps (declareIn s name d) := by
  refine .bind (fun _ => rfl) fun b => ?_
  split
  · exact (keeps_check _ _ _).bind fun _ => .bind (.modify fun _ => rfl) fun _ => .pure _
  · exact keeps_bindNew _ _ _

theorem parents_moveBinding (b : Builder) (name : String) (id : SymbolId)
    (source target : ScopeId) : (b.moveBinding name id source target).parents = b.parents := by
  unfold moveBinding
  split
  · rfl
  · rw [parents, parents_modify (g := (·.bind name id)) fun _ => rfl,
      parents_modify (g := (·.unbind name)) fun _ => rfl]
    rfl

theorem keeps_declareHoisted (s : ScopeId) (name : String) : Keeps (declareHoisted s name) := by
  refine .bind (fun _ => rfl) fun b => ?_
  dsimp only
  split
  · exact (keeps_check _ _ _).bind fun _ =>
      .bind (.modify fun b => parents_moveBinding b _ _ _ _) fun _ =>
        .bind (.pure _) fun _ => .bind (.modify fun _ => rfl) fun _ => .pure _
  · exact (keeps_declareIn _ _ _).bind fun _ => .bind (.modify fun _ => rfl) fun _ => .pure _

theorem keeps_declareNames (kind : Declares) (s : ScopeId) (names : List Ident) :
    Keeps (declareNames kind s names) := by
  refine .mapM (fun x => ?_) names
  split
  · exact keeps_declareHoisted _ _
  · exact keeps_declareIn _ _ _

theorem keeps_adoptBindings (source target : ScopeId) : Keeps (adoptBindings source target) := by
  have hmoved (moved : List (String × SymbolId)) (frames : Array Frame) (s : ScopeId) :
      (frames.modify s ({ · with bindings := moved })).map (·.parent) = frames.map (·.parent) :=
    parents_modify (g := ({ · with bindings := moved })) (fun _ => rfl) frames s
  exact .modify fun b => (hmoved _ _ _).trans (hmoved _ _ _)

theorem keeps_declareCaught (s : ScopeId) (parts : List Node) : Keeps (declareCaught s parts) := by
  unfold declareCaught
  split
  · exact (keeps_bindNew _ _ _).bind fun _ => .pure _
  · exact (keeps_declareNames _ _ _).bind fun _ => .pure _
  · exact .pure _

theorem keeps_declareBound (p : Place) (names : List Ident) : Keeps (declareBound p names) := by
  unfold declareBound
  split
  · exact keeps_declareNames _ _ _
  · exact .pure _

theorem keeps_declareParameter (p : Place) (names : List Ident) :
    Keeps (declareParameter p names) := by
  unfold declareParameter
  split
  · exact .forIn (fun _ _ => (keeps_declareIn _ _ _).bind fun _ => .pure _) _ _
  · exact .pure _

/-! ### Opening a frame -/

/-- Whether an action opens no frame and moves none, and comes to a result of this kind. -/
def Yields (r : α → Prop) (x : Build α) : Prop := Keeps x ∧ ∀ b, r (x.run b).1

namespace Yields

variable {r : α → Prop}

theorem pure {a : α} (h : r a) : Yields r (pure a : Build α) := ⟨.pure a, fun _ => h⟩

theorem after {x : Build β} {f : β → Build α} (hx : Keeps x) (hf : ∀ c, Yields r (f c)) :
    Yields r (x >>= f) :=
  ⟨hx.bind fun c => (hf c).1, fun _ => (hf _).2 _⟩

end Yields

/-- What a node declares where it stands leaves its parts in the same frame. -/
theorem yields_visit (p : Place) (kind : Form) (parts : List Node) :
    Yields (·.scope = p.scope) (visit p kind parts) := by
  have himported (s : ScopeId) (names : List Ident) : Keeps (do
      for x in names do
        let _ ← declareIn s x.name .imported) :=
    .forIn (fun _ _ => (keeps_declareIn _ _ _).bind fun _ => .pure _) _ _
  unfold visit
  split
  · exact .pure rfl
  · exact .pure rfl
  · split
    · split
      · exact .after (keeps_declareIn _ _ _) fun _ => .pure rfl
      · exact .pure rfl
    · exact .pure rfl
  · split
    · exact .after (himported _ _) fun _ => .pure rfl
    · exact .pure rfl
  · split
    · exact .after (himported _ _) fun _ => .pure rfl
    · exact .pure rfl
  · split
    · exact .after (himported _ _) fun _ => .pure rfl
    · exact .pure rfl
  · exact .pure rfl
  · exact .pure rfl

/-- Whether an action opens one frame, in that of the place, and ends up in it. -/
def Opens (p : Place) (x : Build (ScopeId × Place)) : Prop :=
  ∀ b, (x.run b).2.parents = b.parents.push p.scope
    ∧ (x.run b).1.2.scope = some b.parents.size

namespace Opens

theorem of_openFrame {flags : List ScopeFlag} {f : ScopeId → Build (ScopeId × Place)}
    (h : ∀ id, Yields (·.2.scope = some id) (f id)) : Opens p (openFrame p.scope flags >>= f) := by
  intro b
  have hopened : ((openFrame p.scope flags).run b).2.parents = b.parents.push p.scope :=
    Array.map_push
  have hid : ((openFrame p.scope flags).run b).1 = b.parents.size := (Array.size_map ..).symm
  exact ⟨((h _).1 _).trans hopened, hid ▸ (h _).2 _⟩

theorem after {x : Build α} {f : α → Build (ScopeId × Place)} (hx : Keeps x)
    (hf : ∀ a, Opens p (f a)) : Opens p (x >>= f) := by
  intro b
  have hrest := hf (x.run b).1 (x.run b).2
  rw [hx b] at hrest
  exact hrest

end Opens

theorem opens_enter (p : Place) (kind : ScopeKind) (parts : List Node) :
    Opens p (enter p kind parts) := by
  unfold enter
  dsimp only
  split
  · -- A function declaration binds its name in the frame around its own.
    split
    · exact .after (keeps_declareIn _ _ _) fun _ => .of_openFrame fun _ => .pure rfl
    · exact .of_openFrame fun _ => .pure rfl
  · refine .of_openFrame fun id => ?_
    split
    · split
      · exact .after (keeps_bindNew _ _ _) fun _ => .pure rfl
      · exact .pure rfl
    · split
      · exact .after (keeps_declareIn _ _ _) fun _ => .pure rfl
      · exact .pure rfl
    · split
      · split
        · exact .after (keeps_adoptBindings _ _) fun _ => .pure rfl
        · exact .pure rfl
      · exact .pure rfl
    · exact .after (keeps_declareCaught _ _) fun _ => .pure rfl
    · exact .pure rfl

/-! ### The walk over a tree -/

/-- Whether every frame lies in one that was opened before it. -/
def Orderly (b : Builder) : Prop :=
  ∀ (s : ScopeId) (parent : ScopeId), b.parents[s]? = some (some parent) → parent < s

/-- Whether the frame of a place is there. -/
def Holds (b : Builder) (p : Place) : Prop := ∀ s ∈ p.scope, s < b.parents.size

/-- What one builder has when another has gone on from it: no frame fewer, and every frame in an
earlier one if it was so before. -/
structure Grows (b b' : Builder) : Prop where
  size_le : b.parents.size ≤ b'.parents.size
  orderly : b.Orderly → b'.Orderly

namespace Grows

variable {b'' : Builder}

theorem trans (h : Grows b b') (h' : Grows b' b'') : Grows b b'' :=
  ⟨h.size_le.trans h'.size_le, fun ho => h'.orderly (h.orderly ho)⟩

theorem holds (h : Grows b b') (hp : b.Holds p) : b'.Holds p :=
  fun s hs => (hp s hs).trans_le h.size_le

theorem of_keeps {x : Build α} (hx : Keeps x) : Grows b (x.run b).2 where
  size_le := by rw [hx b]
  orderly ho := by
    unfold Orderly
    rw [hx b]
    exact ho

theorem of_opens {x : Build (ScopeId × Place)} (hx : Opens p x) (hp : b.Holds p) :
    Grows b (x.run b).2 where
  size_le := by
    rw [(hx b).1, Array.size_push]
    exact Nat.le_succ _
  orderly ho s parent hs := by
    rw [(hx b).1, Array.getElem?_push] at hs
    split at hs
    · rename_i hnew
      subst hnew
      exact hp parent (Option.some.inj hs)
    · exact ho s parent hs

end Grows

theorem Opens.holds {x : Build (ScopeId × Place)} (hx : Opens p x) (b : Builder) :
    (x.run b).2.Holds (x.run b).1.2 := by
  intro s hs
  rw [(hx b).2, Option.mem_some_iff] at hs
  rw [(hx b).1, Array.size_push, ← hs]
  exact Nat.lt_succ_self _

/-- That the walk over a node opens every frame in one that is there. -/
def Nests (n : Node) : Prop :=
  ∀ p b, Holds b p → Grows b ((annotate p n).run b).2

theorem grows_annotateAll {parts : List Node} (h : ∀ n ∈ parts, Nests n) (hp : b.Holds p) :
    Grows b ((annotateAll p parts).run b).2 := by
  induction parts generalizing b with
  | nil => exact .of_keeps (.pure _)
  | cons n rest ih =>
      have hn := h n List.mem_cons_self p b hp
      exact hn.trans (ih (fun m hm => h m (List.mem_cons_of_mem _ hm)) (hn.holds hp))

theorem grows_annotateParameters {parts : List Node} (h : ∀ n ∈ parts, Nests n)
    (hp : b.Holds p) : Grows b ((annotateParameters p parts).run b).2 := by
  induction parts generalizing b with
  | nil => exact .of_keeps (.pure _)
  | cons n rest ih =>
      have hdeclared : Grows b ((declareParameter p n.boundNames).run b).2 :=
        .of_keeps (keeps_declareParameter p n.boundNames)
      have hn := hdeclared.trans
        (h n List.mem_cons_self p.plain _ (hdeclared.holds hp))
      exact hn.trans (ih (fun m hm => h m (List.mem_cons_of_mem _ hm)) (hn.holds hp))

theorem nests (n : Node) : Nests n := by
  induction n with
  | name role x => exact fun _ _ _ => .of_keeps (.pure _)
  | thisRef s => exact fun _ _ _ => .of_keeps (.pure _)
  | shorthand x => exact fun _ _ _ => .of_keeps (.pure _)
  | member s o object x ih => exact fun p b hp => ih p.plain b hp
  | field s o object f ih => exact fun p b hp => ih p.plain b hp
  | chain s element ih => exact fun p b hp => ih p.plain b hp
  | nonNull s value ih => exact fun p b hp => ih p.plain b hp
  | write target ih => exact fun p b hp => ih p.plain b hp
  | shorthandTarget s x value ih => exact fun p b hp => ih p.plain b hp
  | index s o object key ihobject ihkey =>
      intro p b hp
      have hobject := ihobject p.plain b hp
      exact hobject.trans (ihkey p.plain _ (hobject.holds hp))
  | call s o callee args ihcallee ihargs =>
      intro p b hp
      have hcallee := ihcallee p.plain b hp
      exact hcallee.trans (grows_annotateAll ihargs (hcallee.holds hp))
  | declarator s symbol pattern value ihpattern ihvalue =>
      intro p b hp
      have hdeclared : Grows b ((declareBound p pattern.boundNames).run b).2 :=
        .of_keeps (keeps_declareBound p pattern.boundNames)
      have hpattern := hdeclared.trans (ihpattern p.plain _ (hdeclared.holds hp))
      exact hpattern.trans (ihvalue p.plain _ (hpattern.holds hp))
  | form kind s parts ih =>
      intro p b hp
      by_cases hkind : kind = .parameters
      · subst hkind
        exact grows_annotateParameters ih hp
      · rw [annotate_form p s parts hkind]
        have hvisited := yields_visit p kind parts
        have hgrows : Grows b ((visit p kind parts).run b).2 := .of_keeps hvisited.1
        have hinside : ((visit p kind parts).run b).2.Holds ((visit p kind parts).run b).1 := by
          unfold Holds
          rw [hvisited.2 b]
          exact hgrows.holds hp
        exact hgrows.trans (grows_annotateAll ih hinside)
  | region kind s scope parts ih =>
      intro p b hp
      have hentered := opens_enter p kind parts
      exact (Grows.of_opens hentered hp).trans (grows_annotateAll ih (hentered.holds b))

end Builder

/-- **The frames of a program are a forest.** -/
theorem Node.isForest_withScopes (tree : Node) (strict : Bool) :
    (tree.withScopes strict).scopes.IsForest := by
  let place : Builder.Place := { scope := none, strict }
  let built : Builder := ((Builder.annotate place tree).run {}).2
  have hgrows : Builder.Grows {} built := Builder.nests tree place {} fun s hs => by cases hs
  have horderly : built.Orderly := hgrows.orderly fun s parent hs => by simp [Builder.parents] at hs
  refine .of_parents_before fun s parent hparent => horderly s parent ?_
  have hframe : built.frames[s.val]? = some built.frames[s.val] :=
    Array.getElem?_eq_getElem s.isLt
  rw [Builder.parents, Array.getElem?_map, hframe]
  exact congrArg some hparent

end FreeNames
