/-
The references of a tree, and which of them a pass qualifies.

A pass comes to a name in four ways: as a value, as the start of a chain whose
verdict was reached further out, as what an assignment writes to, and inside the two
shorthands.  `Node.references` knows nothing of chains or of verdicts: it lists the
places where an identifier stands for a value, each with the innermost scope around
it.  `Node.edits_events` says that the edits of a pass are those of the references
that are free where they stand, one for each and in the same order.

The argument is an induction over the tree.  What carries it is that the verdict
handed along a chain is the verdict about its start (`Position.Fits`), and that no
declarator's symbol is looked through but for a value that is one name; `Arrives`
says both of a node that a pass comes to.
-/
import FreeNames.Proofs.Lookup
import FreeNames.Proofs.Tree

namespace FreeNames

/-- How a reference stands in the tree. -/
inductive Use
  /-- For a value, at the start of a chain or anywhere else. -/
  | value
  /-- For what an assignment writes to. -/
  | target
  /-- For both halves of `{x}` in an object literal. -/
  | shorthand
  /-- For both halves of `{x}` or `{x = value}` where an assignment takes an object apart. -/
  | shorthandTarget
  deriving DecidableEq

namespace Use

/-- Whether the reference is written to. -/
def isTarget : Use → Bool
  | target | shorthandTarget => true
  | value | shorthand => false

/-- Whether the name is a key as well, which stays when the reference is qualified. -/
def isShorthand : Use → Bool
  | shorthand | shorthandTarget => true
  | value | target => false

end Use

/-- What surrounds a node: a reference that is the whole node has it from there. -/
structure Site where
  /-- The innermost scope around it. -/
  scope : Option ScopeId := none
  use : Use := .value
  /-- The symbol that `x = x` declares, if the node is the value of such a declarator. -/
  own : Option SymbolId := none
  /-- The place of the key that the node is the value of, defaults left aside. -/
  key : Option Span := none

/-- What surrounds a part that is a value and nothing more. -/
def Site.part (site : Site) : Site := { scope := site.scope }

/-- An identifier that stands for a value. -/
structure Reference extends Site where
  ident : Ident

/-- The symbol of a declarator that gives a name the value of that same name. -/
def selfSymbol (symbol : Option SymbolId) : Node → Node → Option SymbolId
  | .name .binding x, .name .reference y => if x.name = y.name then symbol else none
  | _, _ => none

namespace Node

/-- The place of a key that is a name. -/
def keySpan? : Node → Option Span
  | .name .key x => some x.span
  | _ => none

/-- The place of the key among the parts of a member whose key is not computed. -/
def keyPlace (kind : Form) (parts : List Node) : Option Span :=
  match kind with
  | .property false | .targetProperty false => parts.head?.bind keySpan?
  | _ => none

mutual

/-- The references of a tree.  The reference of a shorthand target follows those of its default, as
it is decided after them. -/
def referencesIn (site : Site) : Node → List Reference
  | .name .reference x => [⟨site, x⟩]
  | .name .. | .thisRef _ => []
  | .member _ _ object _ | .field _ _ object _ => referencesIn site.part object
  | .index _ _ object key => referencesIn site.part object ++ referencesIn site.part key
  | .call _ _ callee args => referencesIn site.part callee ++ referencesOf site.part args
  | .chain _ element => referencesIn site.part element
  | .nonNull _ value => referencesIn site.part value
  | .write target => referencesIn { site.part with use := .target, key := site.key } target
  | .shorthandTarget _ x value =>
    referencesIn site.part value ++ [⟨{ site.part with use := .shorthandTarget }, x⟩]
  | .shorthand x => [⟨{ site.part with use := .shorthand }, x⟩]
  | .declarator _ symbol pattern value =>
    referencesIn site.part pattern
      ++ referencesIn { site.part with own := selfSymbol symbol pattern value } value
  | .form .targetDefault _ (target :: rest) =>
    referencesIn { site.part with key := site.key } target ++ referencesOf site.part rest
  | .form kind _ parts => referencesOf { site.part with key := keyPlace kind parts } parts
  | .region _ _ inner parts => referencesOf { scope := inner.or site.scope } parts

/-- The references of trees that stand side by side. -/
def referencesOf (site : Site) : List Node → List Reference
  | [] => []
  | n :: rest => referencesIn site n ++ referencesOf site rest

end

theorem referencesIn_form {site : Site} {kind : Form} (s : Span) (parts : List Node)
    (hkind : kind ≠ .targetDefault) :
    referencesIn site (.form kind s parts)
      = referencesOf { site.part with key := keyPlace kind parts } parts := by
  rw [referencesIn]
  exact fun _ _ hdefault _ => hkind hdefault

/-- The references of a whole program. -/
def references (n : Node) : List Reference := n.referencesIn {}

end Node

/-- How a node is used that is come upon in this way. -/
def Position.use : Position → Use
  | .written => .target
  | .value | .along _ => .value

namespace Reference

/-- The edit that qualifies the reference. -/
def edit (receiver : String) (r : Reference) : Edit :=
  let qualified := receiver ++ "." ++ r.ident.name
  ⟨r.ident.span, if r.use.isShorthand then r.ident.name ++ ": " ++ qualified else qualified⟩

end Reference

namespace Context

variable (c : Context)

/-- What is known around a reference. -/
def around (r : Reference) : Context := { c with scope := r.scope, ownSymbol := r.own }

/-- Whether a reference is qualified. -/
def takes (r : Reference) : Bool :=
  (c.around r).isFree r.ident && !(c.preserves && r.use.isTarget)

end Context

theorem Context.ownSymbol_declaring (c : Context) (symbol : Option SymbolId)
    (pattern value : Node) :
    (c.declaring symbol pattern value).ownSymbol = selfSymbol symbol pattern value := by
  cases pattern with
  | name role x =>
      cases role with
      | binding =>
          cases value with
          | name role y =>
              cases role with
              | reference => simp [Context.declaring, selfSymbol]
              | _ => rfl
          | _ => rfl
      | _ => rfl
  | _ => rfl

/-- Only a value that is one name can be that of the declarator's own symbol. -/
theorem selfSymbol_eq_none_or (symbol : Option SymbolId) (pattern value : Node) :
    selfSymbol symbol pattern value = none ∨ ∃ x, value = .name .reference x := by
  unfold selfSymbol
  split
  · exact .inr ⟨_, rfl⟩
  · exact .inl rfl

/-! ### What a pass knows where it arrives

A pass arrives at a node with a context and a position, and both must be right for
the node: they say what surrounds it, and a verdict that is carried along a chain is
the one about its start.  Each way from a node to a part of it keeps this.
-/

/-- A pass that comes to a node knows what surrounds it. -/
structure Arrives (c : Context) (pos : Position) (site : Site) (n : Node) : Prop where
  scope : site.scope = c.scope
  use : site.use = pos.use
  verdict : pos.Fits c n
  /-- A declarator's symbol is looked through only for a value that is one name.  The pattern of
  such a declarator is one name too, and nothing is looked up for it. -/
  own : (site.own = c.ownSymbol ∧ (c.ownSymbol = none ∨ ∃ x, n = .name .reference x))
    ∨ ∃ x, n = .name .binding x

namespace Arrives

variable {c : Context} {pos : Position} {site : Site} {n next : Node}

theorem own_reference {x : Ident} (h : Arrives c pos site (.name .reference x)) :
    site.own = c.ownSymbol := by
  rcases h.own with ⟨hown, -⟩ | ⟨y, hy⟩
  · exact hown
  · cases hy

theorem own_eq_none (h : Arrives c pos site n) (hn : ∀ role x, n ≠ .name role x) :
    c.ownSymbol = none := by
  rcases h.own with ⟨-, hnone | ⟨x, hx⟩⟩ | ⟨x, hx⟩
  · exact hnone
  · exact absurd hx (hn _ x)
  · exact absurd hx (hn _ x)

/-- At the root of a program. -/
theorem root (t : Scopes) (i : Instructions) (n : Node) :
    Arrives (.ofScopes t i) .value {} n :=
  ⟨rfl, rfl, trivial, .inl ⟨rfl, .inl rfl⟩⟩

/-- Along a link to the node it goes on with. -/
theorem inward (h : Arrives c pos site n) (hn : ∀ role x, n ≠ .name role x)
    (hstart : c.startsFree n = c.startsFree next) :
    Arrives c (c.inward pos n) site.part next where
  scope := h.scope
  use := by cases pos <;> rfl
  verdict := c.fits_inward h.verdict hstart
  own := .inl ⟨(h.own_eq_none hn).symm, .inl (h.own_eq_none hn)⟩

/-- To a part that is a value, behind a key or not. -/
theorem part (h : Arrives c pos site n) (hn : ∀ role x, n ≠ .name role x)
    (key : Option Span := none) : Arrives c .value { site.part with key := key } next where
  scope := h.scope
  use := rfl
  verdict := trivial
  own := .inl ⟨(h.own_eq_none hn).symm, .inl (h.own_eq_none hn)⟩

/-- To what is written to. -/
theorem target (h : Arrives c pos site n) (hn : ∀ role x, n ≠ .name role x) :
    Arrives c .written { site.part with use := .target, key := site.key } next where
  scope := h.scope
  use := rfl
  verdict := trivial
  own := .inl ⟨(h.own_eq_none hn).symm, .inl (h.own_eq_none hn)⟩

/-- Into a node that opens a scope. -/
theorem enter (h : Arrives c pos site n) (hn : ∀ role x, n ≠ .name role x)
    (scope : Option ScopeId) :
    Arrives (c.enter scope) .value { scope := scope.or site.scope } next where
  scope := by rw [h.scope]; rfl
  use := rfl
  verdict := trivial
  own := .inl ⟨(h.own_eq_none hn).symm, .inl (h.own_eq_none hn)⟩

theorem pattern (h : Arrives c pos site n) (symbol : Option SymbolId) (pattern value : Node) :
    Arrives (c.declaring symbol pattern value) .value site.part pattern where
  scope := h.scope
  use := rfl
  verdict := trivial
  own := by
    unfold Context.declaring
    split
    · exact .inr ⟨_, rfl⟩
    · exact .inl ⟨rfl, .inl rfl⟩

theorem value (h : Arrives c pos site n) (symbol : Option SymbolId) (pattern value : Node) :
    Arrives (c.declaring symbol pattern value) .value
      { site.part with own := selfSymbol symbol pattern value } value where
  scope := h.scope
  use := rfl
  verdict := trivial
  own := by
    rw [c.ownSymbol_declaring]
    exact .inl ⟨rfl, selfSymbol_eq_none_or symbol pattern value⟩

/-- A name that is a reference is taken if it is qualified where a pass comes to it. -/
theorem takes_reference {x : Ident} (h : Arrives c pos site (.name .reference x)) :
    c.takes ⟨site, x⟩ = c.qualifies pos x := by
  have haround : c.around ⟨site, x⟩ = c := by
    unfold Context.around
    rw [h.scope, h.own_reference]
  unfold Context.takes
  rw [haround, h.use]
  cases pos with
  | value => simp [Position.use, Use.isTarget, Context.qualifies]
  | written =>
      simp [Position.use, Use.isTarget, Context.qualifies, Context.isFreeTarget, Bool.and_comm]
  | along free =>
      have hstart : free = c.isFree x := by rw [← c.startsFree_reference x]; exact h.verdict
      simp [Position.use, Use.isTarget, Context.qualifies, hstart]

theorem around_part (h : Arrives c pos site n) (hn : ∀ role x, n ≠ .name role x) (use : Use)
    (x : Ident) : c.around ⟨{ site.part with use := use }, x⟩ = c := by
  unfold Context.around Site.part
  rw [h.scope, ← h.own_eq_none hn]

theorem takes_shorthand {x : Ident} (h : Arrives c pos site (.shorthand x)) :
    c.takes ⟨{ site.part with use := .shorthand }, x⟩ = c.isFree x := by
  unfold Context.takes
  rw [h.around_part (by simp)]
  simp [Use.isTarget]

theorem takes_shorthandTarget {s : Span} {x : Ident} {value : Node}
    (h : Arrives c pos site (.shorthandTarget s x value)) :
    c.takes ⟨{ site.part with use := .shorthandTarget }, x⟩ = c.isFreeTarget x := by
  unfold Context.takes
  rw [h.around_part (by simp)]
  simp [Use.isTarget, Context.isFreeTarget, Bool.and_comm]

end Arrives

/-! ### A pass edits the references it takes -/

namespace Context

variable (c : Context)

/-- What is met when a chain is entered edits nothing. -/
theorem edits_linkEvents (pos : Position) (n : Node) :
    (c.linkEvents pos n).filterMap Event.edit? = [] := by
  unfold linkEvents startEvents
  split
  · split <;> rfl
  · rfl

theorem edits_edits (span : Span) (text : String) (b : Bool) :
    (Context.edits span text b).filterMap Event.edit? = if b then [⟨span, text⟩] else [] := by
  cases b <;> rfl

theorem edits_reference (pos : Position) (x : Ident) :
    (c.nameEvents pos .reference x).filterMap Event.edit?
      = if c.qualifies pos x then [⟨x.span, c.qualifiedText x.name⟩] else [] := by
  unfold nameEvents
  rw [List.filterMap_append, edits_edits]
  cases pos <;> rfl

end Context

namespace Node

variable {c : Context} {pos : Position} {site : Site}

/-- The edits of some nodes, if those of each one are the ones of the references taken in it. -/
theorem edits_eventsOf {parts : List Node}
    (h : ∀ n ∈ parts, (n.events c .value).filterMap Event.edit?
      = ((n.referencesIn site).filter c.takes).map (·.edit c.receiver)) :
    (eventsOf c parts).filterMap Event.edit?
      = ((referencesOf site parts).filter c.takes).map (·.edit c.receiver) := by
  induction parts with
  | nil => rfl
  | cons n rest ih =>
      have hn := h n (by simp)
      have hrest := ih fun m hm => h m (by simp [hm])
      rw [eventsOf, referencesOf, List.filterMap_append, List.filter_append, List.map_append, hn,
        hrest]

/-- **The edits of a pass are those of the references that are free where they stand**, one for
each, in the order of the references. -/
theorem edits_events {n : Node} (h : Arrives c pos site n) :
    (n.events c pos).filterMap Event.edit?
      = ((n.referencesIn site).filter c.takes).map (·.edit c.receiver) := by
  induction n generalizing c pos site with
  | name role x =>
      cases role with
      | reference =>
          show (c.nameEvents pos .reference x).filterMap Event.edit? = _
          rw [c.edits_reference, referencesIn, List.filter_singleton, h.takes_reference]
          have huse : site.use.isShorthand = false := by rw [h.use]; cases pos <;> rfl
          cases c.qualifies pos x with
          | false => rfl
          | true =>
              show _ = [Reference.edit c.receiver ⟨site, x⟩]
              simp only [Reference.edit, huse]
              rfl
      | _ => rfl
  | thisRef s => rfl
  | member s o object x ih =>
      have hobject := ih (h.inward (by simp) rfl)
      rw [events, List.filterMap_append, List.filterMap_append, c.edits_linkEvents, hobject]
      exact List.append_nil _
  | index s o object key ihobject ihkey =>
      have hobject := ihobject (h.inward (by simp) rfl)
      have hkey := ihkey (h.part (by simp))
      rw [events, List.filterMap_append, List.filterMap_append, c.edits_linkEvents, hobject, hkey,
        referencesIn, List.filter_append, List.map_append]
      rfl
  | field s o object f ih =>
      have hobject := ih (h.inward (by simp) rfl)
      rw [events, List.filterMap_append, c.edits_linkEvents, hobject]
      rfl
  | call s o callee args ihcallee ihargs =>
      have hcallee := ihcallee (h.inward (by simp) rfl)
      have hargs := edits_eventsOf fun n hn => ihargs n hn (h.part (by simp))
      rw [events, List.filterMap_append, List.filterMap_append, c.edits_linkEvents, hcallee, hargs,
        referencesIn, List.filter_append, List.map_append]
      rfl
  | chain s element ih =>
      have helement := ih (h.inward (by simp) rfl)
      rw [events, List.filterMap_append, c.edits_linkEvents, helement]
      rfl
  | nonNull s value ih =>
      have hvalue := ih (h.inward (by simp) rfl)
      rw [events, List.filterMap_append, c.edits_linkEvents, hvalue]
      rfl
  | write target ih => exact ih (h.target (by simp))
  | shorthandTarget s x value ih =>
      have hvalue := ih (h.part (by simp))
      rw [events, List.filterMap_cons_none rfl, List.filterMap_append, hvalue, Context.edits_edits,
        referencesIn, List.filter_append, List.map_append, List.filter_singleton,
        h.takes_shorthandTarget]
      cases c.isFreeTarget x <;> rfl
  | shorthand x =>
      rw [events, List.filterMap_cons_none rfl, List.filterMap_cons_none rfl, Context.edits_edits,
        referencesIn, List.filter_singleton, h.takes_shorthand]
      cases c.isFree x <;> rfl
  | declarator s symbol pattern value ihpattern ihvalue =>
      have hpattern := ihpattern (h.pattern symbol pattern value)
      have hvalue := ihvalue (h.value symbol pattern value)
      rw [events, List.filterMap_append, hpattern, hvalue, referencesIn, List.filter_append,
        List.map_append]
      rfl
  | form kind s parts ih =>
      by_cases hkind : kind = .targetDefault
      · subst hkind
        cases parts with
        | nil => rfl
        | cons target rest =>
            have htarget := ih target (by simp) (h.part (by simp) site.key)
            have hrest := edits_eventsOf fun n (hn : n ∈ rest) =>
              ih n (List.mem_cons_of_mem _ hn) (h.part (by simp))
            rw [events, eventsOf, List.filterMap_append, htarget, hrest, referencesIn,
              List.filter_append, List.map_append]
            rfl
      · rw [referencesIn_form s parts hkind]
        exact edits_eventsOf fun n hn => ih n hn (h.part (by simp) _)
  | region kind s scope parts ih =>
      exact edits_eventsOf (c := c.enter scope) fun n hn => ih n hn (h.enter (by simp) scope)

end Node

/-! ### Which references are free

What the classification decides step by step, said of the frames around the
reference.
-/

namespace Context

variable {c : Context}

theorem isFree_iff {x : Ident} :
    c.isFree x = true ↔ x.span ≠ .nowhere ∧ x.name ≠ c.receiver ∧ c.binds x.name = false
      ∧ c.globals.contains x.name = false := by
  unfold isFree classify Span.isNowhere
  by_cases hspan : x.span = .nowhere
  · simp [hspan]
  by_cases hname : x.name = c.receiver
  · simp [hspan, hname]
  cases hbinds : c.binds x.name with
  | true => simp [hspan, hname]
  | false => cases hglobal : c.globals.contains x.name <;> simp [hspan, hname]

theorem binds_eq_false_iff {name : String} :
    c.binds name = false ↔ (∀ s, c.scope = some s → c.scopes.Unbound name s)
      ∨ ∃ s id, c.scope = some s ∧ c.ownSymbol = some id ∧ c.scopes.Finds name s (.symbol id) := by
  unfold binds
  cases hs : c.scope with
  | none => simp
  | some s =>
      dsimp only
      cases hr : c.scopes.resolve name s with
      | none =>
          have hunbound := Scopes.resolve_eq_none_iff.mp hr
          simp [hunbound]
      | some r =>
          have hbound : ¬ c.scopes.Unbound name s := by
            rw [← Scopes.resolve_eq_none_iff, hr]
            simp
          have hfinds : ∀ r', c.scopes.resolve name s = some r' ↔ c.scopes.Finds name s r' :=
            fun _ => Scopes.resolve_eq_some_iff
          simp only [hr] at hfinds
          cases r with
          | implicit => simp [hbound, ← hfinds]
          | symbol id => simp [hbound, ← hfinds]

end Context

/-- A reference to which nothing around it and nothing the pass is told gives a meaning.  What the
pass is told may also be to keep what is written to. -/
structure Reference.IsFree (r : Reference) (t : Scopes) (i : Instructions) : Prop where
  placed : r.ident.span ≠ .nowhere
  notReceiver : r.ident.name ≠ i.receiver
  notGlobal : i.globals.contains r.ident.name = false
  /-- No frame around it binds the name, or the first one that does binds it to the symbol of the
  declarator `x = x` whose value the reference is. -/
  notBound : (∀ s, r.scope = some s → t.Unbound r.ident.name s)
    ∨ ∃ s id, r.scope = some s ∧ r.own = some id ∧ t.Finds r.ident.name s (.symbol id)
  notKept : i.policy = .preserve → r.use.isTarget = false

theorem Context.takes_ofScopes_iff (t : Scopes) (i : Instructions) (r : Reference) :
    (Context.ofScopes t i).takes r = true ↔ r.IsFree t i := by
  unfold takes
  rw [Bool.and_eq_true, isFree_iff, binds_eq_false_iff]
  constructor
  · rintro ⟨⟨hplaced, hreceiver, hbound, hglobal⟩, hkept⟩
    refine ⟨hplaced, hreceiver, hglobal, hbound, ?_⟩
    intro hpolicy
    simpa [preserves, Context.ofScopes, hpolicy] using hkept
  · rintro ⟨hplaced, hreceiver, hglobal, hbound, hkept⟩
    refine ⟨⟨hplaced, hreceiver, hbound, hglobal⟩, ?_⟩
    cases hpolicy : i.policy with
    | qualify => simp [preserves, Context.ofScopes, hpolicy]
    | preserve => simp [hkept hpolicy]

namespace Scoped

/-- The edits of a pass, by the references that it takes. -/
theorem edits_pass (p : Scoped) (i : Instructions) :
    (p.pass i).edits
      = (p.tree.references.filter (Context.ofScopes p.scopes i).takes).map
          (·.edit i.receiver) :=
  Node.edits_events (.root p.scopes i p.tree)

/-- The references that a pass takes, in the order of its edits. -/
def taken (p : Scoped) (i : Instructions) : List Reference :=
  p.tree.references.filter (Context.ofScopes p.scopes i).takes

theorem edits_eq_taken (p : Scoped) (i : Instructions) :
    (p.pass i).edits = (p.taken i).map (·.edit i.receiver) := p.edits_pass i

open Classical in
/--
**A pass qualifies exactly the free references.**  Whatever the tree, the frames and
what the pass is told, there is one edit for each free reference, at its place and
with the receiver in front of its name, and there is no other edit.
-/
theorem edits_pass_eq_free_references (p : Scoped) (i : Instructions) :
    (p.pass i).edits
      = (p.tree.references.filter fun r => r.IsFree p.scopes i).map
          (·.edit i.receiver) := by
  have hfree : (Context.ofScopes p.scopes i).takes = fun r => decide (r.IsFree p.scopes i) := by
    funext r
    rw [Bool.eq_iff_iff, Context.takes_ofScopes_iff, decide_eq_true_iff]
  rw [p.edits_pass i, hfree]

end Scoped

end FreeNames
