/-
The walk along a chain, and the traversal it stands for.

A pass looks up the start of a chain when it enters the chain, and carries the
verdict along the links.  A plain traversal does without: it comes to every part in
source order and looks up every name where the name stands.  `Node.qualifyPlainly`
and `Node.editsPlainly` are that traversal, and both give what a pass gives.

Which links there are is written down three times: `Node.next?` steps from one link
to the next, `Node.leftmost` goes to the end, and a pass goes along with a verdict.
They follow the same edges.  `Node.overChain` says where a pass gets to on them: to
the start, which is all that the verdict is for, and to the indexes and arguments,
which are values of their own.
-/
import FreeNames.Proofs.References

namespace FreeNames

namespace Node

/-! ### A traversal that knows nothing of chains -/

mutual

/-- What a tree becomes if every name is looked up where it stands. -/
def qualifyPlainly (c : Context) : Node → Node
  | .name role x => if role == .reference && c.isFree x then c.qualified x else .name role x
  | .thisRef s => .thisRef s
  | .member s o object x => .member s o (qualifyPlainly c object) x
  | .index s o object key => .index s o (qualifyPlainly c object) (qualifyPlainly c key)
  | .field s o object f => .field s o (qualifyPlainly c object) f
  | .call s o callee args => .call s o (qualifyPlainly c callee) (qualifyAllPlainly c args)
  | .chain s element => .chain s (qualifyPlainly c element)
  | .nonNull s value => .nonNull s (qualifyPlainly c value)
  | .write (.name .reference x) =>
    .write (if c.isFreeTarget x then c.qualified x else .name .reference x)
  | .write target => .write (qualifyPlainly c target)
  | .shorthandTarget s x value => c.qualifyShorthandTarget s x (qualifyPlainly c value)
  | .shorthand x => c.qualifyShorthand x
  | .declarator s symbol pattern value =>
    let inner := c.declaring symbol pattern value
    .declarator s symbol (qualifyPlainly inner pattern) (qualifyPlainly inner value)
  | .form kind s parts => .form kind s (qualifyAllPlainly c parts)
  | .region kind s scope parts => .region kind s scope (qualifyAllPlainly (c.enter scope) parts)

def qualifyAllPlainly (c : Context) : List Node → List Node
  | [] => []
  | n :: rest => qualifyPlainly c n :: qualifyAllPlainly c rest

end

mutual

/-- The edits of a traversal that looks up every name where it stands, in the order in which it
comes to them. -/
def editsPlainly (c : Context) : Node → List Edit
  | .name role x =>
    if role == .reference && c.isFree x then [⟨x.span, c.qualifiedText x.name⟩] else []
  | .thisRef _ => []
  | .member _ _ object _ => editsPlainly c object
  | .index _ _ object key => editsPlainly c object ++ editsPlainly c key
  | .field _ _ object _ => editsPlainly c object
  | .call _ _ callee args => editsPlainly c callee ++ editsOfAllPlainly c args
  | .chain _ element => editsPlainly c element
  | .nonNull _ value => editsPlainly c value
  | .write (.name .reference x) =>
    if c.isFreeTarget x then [⟨x.span, c.qualifiedText x.name⟩] else []
  | .write target => editsPlainly c target
  | .shorthandTarget _ x value =>
    editsPlainly c value ++ if c.isFreeTarget x then [⟨x.span, c.expandedText x.name⟩] else []
  | .shorthand x => if c.isFree x then [⟨x.span, c.expandedText x.name⟩] else []
  | .declarator _ symbol pattern value =>
    let inner := c.declaring symbol pattern value
    editsPlainly inner pattern ++ editsPlainly inner value
  | .form _ _ parts => editsOfAllPlainly c parts
  | .region _ _ scope parts => editsOfAllPlainly (c.enter scope) parts

def editsOfAllPlainly (c : Context) : List Node → List Edit
  | [] => []
  | n :: rest => editsPlainly c n ++ editsOfAllPlainly c rest

end

end Node

/-! ### A pass does what the traversal does -/

/-- A pass that comes to a node in this way does there what a plain traversal does: the verdict it
brings is the right one, and it does not come to a name as to one that is written to. -/
structure Position.Plain (c : Context) (n : Node) (pos : Position) : Prop where
  verdict : pos.Fits c n
  unwritten : pos = .written → ∀ x, n ≠ .name .reference x

namespace Position.Plain

variable {c : Context} {pos : Position} {n next : Node}

theorem value (c : Context) (n : Node) : Position.value.Plain c n := ⟨trivial, nofun⟩

theorem written (c : Context) (h : ∀ x, n ≠ .name .reference x) : Position.written.Plain c n :=
  ⟨trivial, fun _ => h⟩

/-- Along a link to the node it goes on with. -/
theorem inward (h : pos.Plain c n) (hstart : c.startsFree n = c.startsFree next) :
    (c.inward pos n).Plain c next := by
  refine ⟨c.fits_inward h.verdict hstart, ?_⟩
  cases pos <;> exact nofun

/-- The verdict about a name that is brought to it is the one that it gets where it stands. -/
theorem qualifies {x : Ident} (h : pos.Plain c (.name .reference x)) :
    c.qualifies pos x = c.isFree x := by
  cases pos with
  | value => rfl
  | written => exact absurd rfl (h.unwritten rfl x)
  | along free =>
      have hfree : free = c.startsFree (.name .reference x) := h.verdict
      rw [hfree, c.startsFree_reference]
      rfl

end Position.Plain

namespace Node

variable {c : Context} {pos : Position}

theorem qualifyAll_eq_plainly {parts : List Node}
    (h : ∀ n ∈ parts, n.qualify c .value = n.qualifyPlainly c) :
    qualifyAll c parts = qualifyAllPlainly c parts := by
  induction parts with
  | nil => rfl
  | cons n rest ih =>
      rw [qualifyAll, qualifyAllPlainly, h n (by simp), ih fun m hm => h m (by simp [hm])]

theorem qualify_eq_plainly {n : Node} (h : pos.Plain c n) :
    n.qualify c pos = n.qualifyPlainly c := by
  induction n generalizing c pos with
  | name role x =>
      show c.qualifyName pos role x = _
      unfold Context.qualifyName qualifyPlainly
      cases role with
      | reference => rw [h.qualifies]
      | _ => rfl
  | thisRef s => rfl
  | member s o object x ih => rw [qualify, qualifyPlainly, ih (h.inward rfl)]
  | index s o object key ihobject ihkey =>
      rw [qualify, qualifyPlainly, ihobject (h.inward rfl), ihkey (.value c key)]
  | field s o object f ih => rw [qualify, qualifyPlainly, ih (h.inward rfl)]
  | call s o callee args ihcallee ihargs =>
      rw [qualify, qualifyPlainly, ihcallee (h.inward rfl),
        qualifyAll_eq_plainly fun n hn => ihargs n hn (.value c n)]
  | chain s element ih => rw [qualify, qualifyPlainly, ih (h.inward rfl)]
  | nonNull s value ih => rw [qualify, qualifyPlainly, ih (h.inward rfl)]
  | write target ih =>
      -- A name that is written to is the one thing that the traversal looks at from outside.
      by_cases hname : ∃ x, target = .name .reference x
      · obtain ⟨x, rfl⟩ := hname
        rfl
      · have hno : ∀ x, target ≠ .name .reference x := fun x hx => hname ⟨x, hx⟩
        rw [qualify, qualifyPlainly, ih (.written c hno)]
        exact hno
  | shorthandTarget s x value ih => rw [qualify, qualifyPlainly, ih (.value c value)]
  | shorthand x => rfl
  | declarator s symbol pattern value ihpattern ihvalue =>
      rw [qualify, qualifyPlainly, ihpattern (.value _ pattern), ihvalue (.value _ value)]
  | form kind s parts ih =>
      rw [qualify, qualifyPlainly, qualifyAll_eq_plainly fun n hn => ih n hn (.value c n)]
  | region kind s scope parts ih =>
      rw [qualify, qualifyPlainly, qualifyAll_eq_plainly fun n hn => ih n hn (.value _ n)]

theorem edits_eventsOf_plainly {parts : List Node}
    (h : ∀ n ∈ parts, (n.events c .value).filterMap Event.edit? = n.editsPlainly c) :
    (eventsOf c parts).filterMap Event.edit? = editsOfAllPlainly c parts := by
  induction parts with
  | nil => rfl
  | cons n rest ih =>
      rw [eventsOf, editsOfAllPlainly, List.filterMap_append, h n (by simp),
        ih fun m hm => h m (by simp [hm])]

theorem edits_events_plainly {n : Node} (h : pos.Plain c n) :
    (n.events c pos).filterMap Event.edit? = n.editsPlainly c := by
  induction n generalizing c pos with
  | name role x =>
      cases role with
      | reference =>
          show (c.nameEvents pos .reference x).filterMap Event.edit? = _
          rw [c.edits_reference, h.qualifies]
          rfl
      | _ => rfl
  | thisRef s => rfl
  | member s o object x ih =>
      rw [events, List.filterMap_append, List.filterMap_append, c.edits_linkEvents,
        ih (h.inward rfl)]
      exact List.append_nil _
  | index s o object key ihobject ihkey =>
      rw [events, List.filterMap_append, List.filterMap_append, c.edits_linkEvents,
        ihobject (h.inward rfl), ihkey (.value c key)]
      rfl
  | field s o object f ih =>
      rw [events, List.filterMap_append, c.edits_linkEvents, ih (h.inward rfl)]
      rfl
  | call s o callee args ihcallee ihargs =>
      rw [events, List.filterMap_append, List.filterMap_append, c.edits_linkEvents,
        ihcallee (h.inward rfl), edits_eventsOf_plainly fun n hn => ihargs n hn (.value c n)]
      rfl
  | chain s element ih =>
      rw [events, List.filterMap_append, c.edits_linkEvents, ih (h.inward rfl)]
      rfl
  | nonNull s value ih =>
      rw [events, List.filterMap_append, c.edits_linkEvents, ih (h.inward rfl)]
      rfl
  | write target ih =>
      by_cases hname : ∃ x, target = .name .reference x
      · obtain ⟨x, rfl⟩ := hname
        exact c.edits_reference .written x
      · have hno : ∀ x, target ≠ .name .reference x := fun x hx => hname ⟨x, hx⟩
        rw [events, editsPlainly, ih (.written c hno)]
        exact hno
  | shorthandTarget s x value ih =>
      rw [events, List.filterMap_cons_none rfl, List.filterMap_append, ih (.value c value),
        Context.edits_edits]
      rfl
  | shorthand x =>
      rw [events, List.filterMap_cons_none rfl, List.filterMap_cons_none rfl, Context.edits_edits]
      rfl
  | declarator s symbol pattern value ihpattern ihvalue =>
      rw [events, List.filterMap_append, ihpattern (.value _ pattern), ihvalue (.value _ value)]
      rfl
  | form kind s parts ih =>
      exact edits_eventsOf_plainly fun n hn => ih n hn (.value c n)
  | region kind s scope parts ih =>
      exact edits_eventsOf_plainly fun n hn => ih n hn (.value _ n)

end Node

/-! ### Where the walk along a chain gets to -/

/-- What becomes of the start of a chain: the verdict decides about a name, and whatever else it is
is a value like any other. -/
def Context.settle (c : Context) (free : Bool) : Node → Node
  | .name .reference x => if free then c.qualified x else .name .reference x
  | n => n.qualify c .value

namespace Node

variable {c : Context}

/-- A chain with another start, and with every index and argument on it changed. -/
def overChain (start value : Node → Node) : Node → Node
  | .member s o object x => .member s o (overChain start value object) x
  | .index s o object key => .index s o (overChain start value object) (value key)
  | .field s o object f => .field s o (overChain start value object) f
  | .call s o callee args => .call s o (overChain start value callee) (args.map value)
  | .chain s element => .chain s (overChain start value element)
  | .nonNull s inner => .nonNull s (overChain start value inner)
  | n => start n

/-- A step along a chain leads to the same start. -/
theorem leftmost_of_next? {n next : Node} (h : n.next? = some next) :
    next.leftmost = n.leftmost := by
  induction n generalizing next with
  | chain s element ih =>
      obtain rfl : element.next?.getD element = next := Option.some.inj h
      cases hnext : element.next? with
      | none => rfl
      | some inner => exact ih hnext
  | member | index | field | call | nonNull =>
      obtain rfl := Option.some.inj h
      rfl
  | _ => cases h

/-- From the start of a chain there is no step further. -/
theorem next?_leftmost (n : Node) : n.leftmost.next? = none := by
  induction n with
  | member _ _ _ _ ih | index _ _ _ _ ih | field _ _ _ _ ih | call _ _ _ _ ih | chain _ _ ih
  | nonNull _ _ ih => exact ih
  | _ => rfl

/-- The start that is changed is the leftmost node, and no other. -/
theorem overChain_leftmost (start value : Node → Node) (n : Node) :
    n.overChain start value = n.overChain (fun _ => start n.leftmost) value := by
  induction n with
  | member s o object x ih => exact congrArg (member s o · x) ih
  | index s o object key ih => exact congrArg (index s o · (value key)) ih
  | field s o object f ih => exact congrArg (field s o · f) ih
  | call s o callee args ih => exact congrArg (call s o · (args.map value)) ih
  | chain s element ih => exact congrArg (chain s ·) ih
  | nonNull s inner ih => exact congrArg (nonNull s ·) ih
  | _ => rfl

/-- A verdict that is carried along a chain is used at its start, and nowhere else. -/
theorem qualify_along (free : Bool) (n : Node) :
    n.qualify c (.along free) = n.overChain (c.settle free) (·.qualify c .value) := by
  induction n with
  | name role x =>
      cases role with
      | reference => rfl
      | _ => rfl
  | member s o object x ih => exact congrArg (member s o · x) ih
  | index s o object key ih => exact congrArg (index s o · (key.qualify c .value)) ih
  | field s o object f ih => exact congrArg (field s o · f) ih
  | call s o callee args ih =>
      rw [qualify, qualifyAll_eq_map]
      exact congrArg (call s o · (args.map (qualify c .value))) ih
  | chain s element ih => exact congrArg (chain s ·) ih
  | nonNull s inner ih => exact congrArg (nonNull s ·) ih
  | _ => rfl

/-- A chain that is entered is one that is gone along with the verdict about its start. -/
theorem qualify_link {n : Node} (h : n.isLink = true) :
    n.qualify c .value = n.qualify c (.along (c.startsFree n)) := by
  cases n with
  | member | index | field | call | chain | nonNull => rfl
  | _ => cases h

end Node

/--
**The walk along chains does what a plain traversal does.**  Whatever is known when
a tree is come upon, the tree becomes what it becomes if every name in it is looked
up where it stands, and the same edits are made in the same order.  The steps of a
chain lead to its leftmost node and end there; the verdict about a chain is used for
that node only, its properties stay, and its indexes and arguments are come upon as
values of their own.
-/
theorem Context.chain_walk_eq_plain_traversal (c : Context) (n : Node) :
    n.qualify c .value = n.qualifyPlainly c
      ∧ (n.events c .value).filterMap Event.edit? = n.editsPlainly c
      ∧ (∀ next, n.next? = some next → next.leftmost = n.leftmost)
      ∧ n.leftmost.next? = none
      ∧ (∀ free, n.qualify c (.along free)
          = n.overChain (fun _ => c.settle free n.leftmost) (·.qualify c .value))
      ∧ (n.isLink = true → n.qualify c .value = n.qualify c (.along (c.startsFree n))) := by
  refine ⟨Node.qualify_eq_plainly (.value c n), Node.edits_events_plainly (.value c n),
    fun next h => Node.leftmost_of_next? h, n.next?_leftmost, ?_, Node.qualify_link⟩
  intro free
  rw [Node.qualify_along]
  exact Node.overChain_leftmost (c.settle free) (·.qualify c .value) n

end FreeNames
