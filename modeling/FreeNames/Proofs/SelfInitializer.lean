/-
The value of a declarator that gives a name itself.

In `var x = x` the declarator must not bind its own value, or the value could never be
free.  A pass sees to this by looking through a symbol.  It never looks through more than
one symbol at a time, and only for a reference that is the whole value of a declarator
that declares its name: everything else that is bound stays (`Scoped.taken_iff_of_finds`).

A symbol is more than a declarator, though.  Whatever else declares the name in the same
frame, a parameter, a function or another declarator, shares the symbol
(`Builder.declareHoisted_shares`), and a frame of a function that declares `arguments` hides
the one it has anyway.  All of these are looked through as well, and so a name is qualified
that would be bound if the declarator were not there (`Options.qualify_redeclared`).
-/
import FreeNames.Outcome
import FreeNames.Proofs.References

namespace FreeNames

/-! ### Where a symbol that is looked through comes from -/

namespace Node

/-- The nodes directly below a node. -/
def parts : Node → List Node
  | .name .. | .thisRef _ | .shorthand _ => []
  | .member _ _ object _ | .field _ _ object _ => [object]
  | .index _ _ object key => [object, key]
  | .call _ _ callee args => callee :: args
  | .chain _ element => [element]
  | .nonNull _ value => [value]
  | .write target => [target]
  | .shorthandTarget _ _ value => [value]
  | .declarator _ _ pattern value => [pattern, value]
  | .form _ _ parts | .region _ _ _ parts => parts

/-- A node stands somewhere in a tree. -/
inductive Contains : Node → Node → Prop
  | self (n : Node) : Contains n n
  | part {n m d : Node} (hm : m ∈ n.parts) (h : Contains m d) : Contains n d

/-- A declarator in a tree that has this symbol and gives its name the value of this reference,
which is spelled the same. -/
def SelfDeclares (n : Node) (id : SymbolId) (y : Ident) : Prop :=
  ∃ s x, x.name = y.name ∧
    n.Contains (.declarator s (some id) (.name .binding x) (.name .reference y))

theorem SelfDeclares.part {n m : Node} {id : SymbolId} {y : Ident} (hm : m ∈ n.parts)
    (h : m.SelfDeclares id y) : n.SelfDeclares id y := by
  obtain ⟨s, x, hname, hin⟩ := h
  exact ⟨s, x, hname, .part hm hin⟩

theorem of_selfSymbol {symbol : Option SymbolId} {pattern value : Node} {id : SymbolId}
    {y : Ident} (hvalue : value = .name .reference y)
    (h : selfSymbol symbol pattern value = some id) :
    symbol = some id ∧ ∃ x, x.name = y.name ∧ pattern = .name .binding x := by
  subst hvalue
  unfold selfSymbol at h
  split at h
  next x y hvalue =>
    obtain rfl : _ = y := by simpa using hvalue
    by_cases hname : x.name = y.name
    · rw [if_pos hname] at h
      exact ⟨h, x, hname, rfl⟩
    · rw [if_neg hname] at h
      cases h
  next => cases h

theorem mem_referencesOf {r : Reference} {site : Site} {parts : List Node} :
    r ∈ referencesOf site parts ↔ ∃ n ∈ parts, r ∈ n.referencesIn site := by
  induction parts with
  | nil => simp [referencesOf]
  | cons n rest ih => rw [referencesOf, List.mem_append, ih, List.exists_mem_cons_iff]

/-- A symbol that is looked through for a reference was set for the node itself, which then is the
reference, or by a declarator below whose whole value is the reference. -/
theorem own_of_mem {n : Node} {site : Site} {r : Reference} {id : SymbolId}
    (hr : r ∈ n.referencesIn site) (hown : r.own = some id) :
    (n = .name .reference r.ident ∧ site.own = some id) ∨ n.SelfDeclares id r.ident := by
  -- Nothing is set for a part, unless it is the value of a declarator.
  have hpart {n m : Node} (hm : m ∈ n.parts) {site : Site} (hsite : site.own = none)
      (h : (m = .name .reference r.ident ∧ site.own = some id) ∨ m.SelfDeclares id r.ident) :
      n.SelfDeclares id r.ident := by
    rcases h with ⟨-, hsome⟩ | h
    · rw [hsite] at hsome
      cases hsome
    · exact h.part hm
  induction n generalizing site with
  | name role x =>
      cases role with
      | reference =>
          obtain rfl := List.mem_singleton.1 hr
          exact .inl ⟨rfl, hown⟩
      | _ => cases hr
  | thisRef s => cases hr
  | member s o object x ih => exact .inr (hpart (by simp [parts]) rfl (ih hr))
  | index s o object key ihobject ihkey =>
      rcases List.mem_append.1 hr with hr | hr
      · exact .inr (hpart (by simp [parts]) rfl (ihobject hr))
      · exact .inr (hpart (by simp [parts]) rfl (ihkey hr))
  | field s o object f ih => exact .inr (hpart (by simp [parts]) rfl (ih hr))
  | call s o callee args ihcallee ihargs =>
      rcases List.mem_append.1 hr with hr | hr
      · exact .inr (hpart (by simp [parts]) rfl (ihcallee hr))
      · obtain ⟨m, hm, hr⟩ := mem_referencesOf.1 hr
        exact .inr (hpart (by simp [parts, hm]) rfl (ihargs m hm hr))
  | chain s element ih => exact .inr (hpart (by simp [parts]) rfl (ih hr))
  | nonNull s value ih => exact .inr (hpart (by simp [parts]) rfl (ih hr))
  | write target ih => exact .inr (hpart (by simp [parts]) rfl (ih hr))
  | shorthandTarget s x value ih =>
      rcases List.mem_append.1 hr with hr | hr
      · exact .inr (hpart (by simp [parts]) rfl (ih hr))
      · obtain rfl := List.mem_singleton.1 hr
        cases hown
  | shorthand x =>
      obtain rfl := List.mem_singleton.1 hr
      cases hown
  | declarator s symbol pattern value ihpattern ihvalue =>
      rcases List.mem_append.1 hr with hr | hr
      · exact .inr (hpart (by simp [parts]) rfl (ihpattern hr))
      · rcases ihvalue hr with ⟨hvalue, hsome⟩ | h
        · obtain ⟨rfl, x, hname, rfl⟩ := of_selfSymbol hvalue hsome
          subst hvalue
          exact .inr ⟨s, x, hname, .self _⟩
        · exact .inr (h.part (by simp [parts]))
  | form kind s parts ih =>
      have hbelow : ∃ m ∈ parts, ∃ site : Site, site.own = none ∧ r ∈ m.referencesIn site := by
        by_cases hkind : kind = .targetDefault
        · subst hkind
          cases parts with
          | nil => cases hr
          | cons target rest =>
              rw [referencesIn, List.mem_append] at hr
              rcases hr with hr | hr
              · exact ⟨target, by simp, _, rfl, hr⟩
              · obtain ⟨m, hm, hr⟩ := mem_referencesOf.1 hr
                exact ⟨m, List.mem_cons_of_mem _ hm, _, rfl, hr⟩
        · rw [referencesIn_form s parts hkind] at hr
          obtain ⟨m, hm, hr⟩ := mem_referencesOf.1 hr
          exact ⟨m, hm, _, rfl, hr⟩
      obtain ⟨m, hm, site', hsite, hr⟩ := hbelow
      exact .inr (hpart hm hsite (ih m hm hr))
  | region kind s scope parts ih =>
      obtain ⟨m, hm, hr⟩ := mem_referencesOf.1 hr
      exact .inr (hpart hm rfl (ih m hm hr))

/-- No reference of a program is looked through but the whole value of a declarator of its name. -/
theorem selfDeclares_of_own {n : Node} {r : Reference} {id : SymbolId} (hr : r ∈ n.references)
    (hown : r.own = some id) : n.SelfDeclares id r.ident := by
  rcases own_of_mem hr hown with ⟨-, hsome⟩ | h
  · cases hsome
  · exact h

end Node

namespace Scoped

/-- **Of the references that a frame catches a pass takes those only that are the whole value of a
declarator of their name whose symbol is what they are caught by.**  A reference that any other
symbol or the `arguments` of a function catches is left as it is. -/
theorem taken_iff_of_finds (p : Scoped) (i : Instructions) {r : Reference} {s : ScopeId}
    {found : Resolution} (hr : r ∈ p.tree.references) (hscope : r.scope = some s)
    (hfinds : p.scopes.Finds r.ident.name s found) :
    r ∈ p.taken i ↔
      (∃ id, found = .symbol id ∧ r.own = some id ∧ p.tree.SelfDeclares id r.ident)
        ∧ r.ident.span ≠ .nowhere ∧ r.ident.name ≠ i.receiver
        ∧ i.globals.contains r.ident.name = false
        ∧ (i.policy = .preserve → r.use.isTarget = false) := by
  have htaken : r ∈ p.taken i ↔ r.IsFree p.scopes i := by
    rw [taken, List.mem_filter, Context.takes_ofScopes_iff]
    exact and_iff_right hr
  rw [htaken]
  constructor
  · rintro ⟨hplaced, hreceiver, hglobal, hbound, hkept⟩
    refine ⟨?_, hplaced, hreceiver, hglobal, hkept⟩
    rcases hbound with hunbound | ⟨s', id, hscope', hown, hfinds'⟩
    · obtain ⟨k, hk⟩ := hfinds
      exact absurd (hunbound s hscope) hk.not_unbound
    · obtain rfl := Option.some.inj (hscope.symm.trans hscope')
      obtain ⟨k, hk⟩ := hfinds
      obtain ⟨j, hj⟩ := hfinds'
      exact ⟨id, (hk.unique hj).2, hown, Node.selfDeclares_of_own hr hown⟩
  · rintro ⟨⟨id, rfl, hown, -⟩, hplaced, hreceiver, hglobal, hkept⟩
    exact ⟨hplaced, hreceiver, hglobal, .inr ⟨s, id, hscope, hown, hfinds⟩, hkept⟩

end Scoped

/-! ### Declarations that share a symbol -/

namespace Builder

variable {b : Builder} {s : ScopeId} {name : String} {d : Declaring} {id : SymbolId}

/-- A check leaves what is bound as it is. -/
theorem run_check (b : Builder) (name : String) (id : SymbolId) (d : Declaring) :
    ∃ clashes, (check name id d).run b = ((), { b with clashes }) := by
  by_cases h : ((b.kinds[id]?).getD {}).meets d.clashes = true
  · exact ⟨name :: b.clashes, congrArg (Prod.mk ()) (if_pos h)⟩
  · exact ⟨b.clashes, congrArg (Prod.mk ()) (if_neg h)⟩

theorem run_declareIn_of_some (h : b.declared? s name = some id) :
    ∃ clashes, (declareIn s name d).run b
      = (id, { b with kinds := b.kinds.modify id (·.union d.kinds), clashes }) := by
  obtain ⟨clashes, hcheck⟩ := run_check b name id d
  refine ⟨clashes, ?_⟩
  unfold declareIn
  rw [StateT.run_bind, StateT.run_get, pure_bind]
  dsimp only
  rw [h]
  dsimp only
  rw [StateT.run_bind, hcheck]
  rfl

theorem run_declareIn_of_none (h : b.declared? s name = none) :
    (declareIn s name d).run b = (b.kinds.size, { b with
      kinds := b.kinds.push d.kinds
      frames := b.frames.modify s (·.bind name b.kinds.size) }) := by
  unfold declareIn
  rw [StateT.run_bind, StateT.run_get, pure_bind]
  dsimp only
  rw [h]
  rfl

theorem getElem?_frames_bind (name : String) (id : SymbolId) (hs : s < b.frames.size) :
    (b.frames.modify s (·.bind name id))[s]? = some (b.frames[s].bind name id) := by
  rw [Array.getElem?_modify, if_pos rfl, Array.getElem?_eq_getElem hs]
  rfl

/-- What a declaration gives is the symbol that the frame knows the name by from then on. -/
theorem declared?_declareIn (name : String) (hs : s < b.frames.size)
    (hd : d.kinds.ownName = false) :
    ((declareIn s name d).run b).2.declared? s name = some ((declareIn s name d).run b).1 := by
  cases h : b.declared? s name with
  | some id =>
      obtain ⟨clashes, hrun⟩ := run_declareIn_of_some (d := d) h
      rw [hrun]
      unfold declared? at h ⊢
      rw [Option.filter_eq_some_iff] at h ⊢
      obtain ⟨hown, hkinds⟩ := h
      refine ⟨hown, ?_⟩
      rw [Array.getElem?_modify, if_pos rfl]
      cases hid : b.kinds[id]? with
      | none => rfl
      | some kinds => simp_all [SymbolKinds.union]
  | none =>
      rw [run_declareIn_of_none h]
      unfold declared?
      rw [getElem?_frames_bind name _ hs]
      simp [Frame.binding?, Frame.bind, hd]

theorem holds_declareIn (name : String) (d : Declaring) (hs : s < b.frames.size)
    (hholds : holdsHoisted b.frames[s] = true) :
    ∃ f, ((declareIn s name d).run b).2.frames[s]? = some f ∧ holdsHoisted f = true := by
  cases h : b.declared? s name with
  | some id =>
      obtain ⟨clashes, hrun⟩ := run_declareIn_of_some (d := d) h
      rw [hrun]
      exact ⟨_, Array.getElem?_eq_getElem hs, hholds⟩
  | none =>
      rw [run_declareIn_of_none h]
      exact ⟨_, getElem?_frames_bind name _ hs, hholds⟩

/-- In a frame that holds `var` declarations they are declared like anything else. -/
theorem declareHoisted_of_holds {f : Frame} (hf : b.frames[s]? = some f)
    (hholds : holdsHoisted f = true) :
    ((declareHoisted s name).run b).1 = ((declareIn s name .hoisted).run b).1 := by
  have hway : b.wayOut b.frames.size s = ([], s) := by
    cases b.frames.size with
    | zero => rfl
    | succ fuel =>
        unfold wayOut
        rw [hf]
        exact if_pos hholds
  unfold declareHoisted
  rw [StateT.run_bind, StateT.run_get, pure_bind]
  dsimp only
  rw [hway]
  rfl

/-- **A `var` has the symbol of whatever declares its name in the same frame before it.** -/
theorem declareHoisted_shares (hs : s < b.frames.size) (hholds : holdsHoisted b.frames[s] = true)
    (hd : d.kinds.ownName = false) :
    ((declareHoisted s name).run ((declareIn s name d).run b).2).1
      = ((declareIn s name d).run b).1 := by
  obtain ⟨f, hf, hfholds⟩ := holds_declareIn name d hs hholds
  rw [declareHoisted_of_holds hf hfholds]
  obtain ⟨clashes, hrun⟩ :=
    run_declareIn_of_some (d := .hoisted) (declared?_declareIn name hs hd)
  rw [hrun]

end Builder

/-! ### Names that are qualified though something else binds them -/

namespace Options

/-- A unit in which something else declares the name of `x = x` too. -/
structure Redeclaration where
  source : String
  /-- The same unit with the value of the declarator in the place of the declarator. -/
  without : String
  /-- What comes out of the unit. -/
  code : String

def redeclarations : List Redeclaration :=
  [{ source := "function f(x) \x7b var x = x; \x7d"
     without := "function f(x) \x7b x; \x7d"
     code := "function f(x) \x7b var x = this.x; \x7d" },
   { source := "function x() \x7b\x7d var x = x;"
     without := "function x() \x7b\x7d x;"
     code := "function x() \x7b\x7d var x = this.x;" },
   { source := "var x = 1; var x = x;"
     without := "var x = 1; x;"
     code := "var x = 1; var x = this.x;" },
   { source := "function f() \x7b var arguments = arguments; \x7d"
     without := "function f() \x7b arguments; \x7d"
     code := "function f() \x7b var arguments = this.arguments; \x7d" }]

/-- The new text of a script, with nothing asked for. -/
def scriptCode? (source : String) : Option String :=
  match (Options.qualify { sourceKind := .script } source "" default .empty).1 with
  | .ok outcome => some outcome.code
  | .error _ => none

/-- In each of these units the value is bound without the declarator, and is qualified behind it. -/
theorem qualify_redeclared : ∀ e ∈ redeclarations,
    scriptCode? e.without = some e.without ∧ scriptCode? e.source = some e.code := by
  decide +kernel

end Options

end FreeNames
