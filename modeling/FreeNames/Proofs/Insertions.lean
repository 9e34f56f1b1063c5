/-
What a pass puts into a tree, read off the tree itself.

A pass says twice what it does: once by the tree it leaves, once by the edits it
records.  The two are read off different functions, and this file says that they
agree.  A member whose object and property stand nowhere can only have been put
there by a pass (`Node.insertions`), and taking all of them out again
(`Node.restore`) undoes it.

Both need the tree to be one that was read from a source (`Node.Fresh`): it holds no
such member yet, and no reference stands at the place of the key in front of it, for
that is what an expanded shorthand looks like.
-/
import FreeNames.Grammar.Program
import FreeNames.Proofs.References

namespace FreeNames

/-- A member that was put in the place of a reference. -/
structure Insertion where
  span : Span
  receiver : String
  name : String
  /-- Whether it is the value of a key that was written together with it. -/
  expanded : Bool
  deriving DecidableEq

/-- The edit that has the same effect. -/
def Insertion.edit (m : Insertion) : Edit :=
  let qualified := m.receiver ++ "." ++ m.name
  ⟨m.span, if m.expanded then m.name ++ ": " ++ qualified else qualified⟩

namespace Node

/-- The text of a receiver. -/
def receiverText : Node → String
  | .thisRef _ => defaultReceiver
  | .name _ x => x.name
  | _ => ""

/-- The member itself, if its object and its property stand nowhere. -/
def insertionAt (key : Option Span) (s : Span) (object : Node) (x : Ident) : List Insertion :=
  if object.span.isNowhere && x.span.isNowhere then
    [⟨s, object.receiverText, x.name, key == some s⟩]
  else []

mutual

/-- The members of a tree whose object and property stand nowhere.  A key in front of the tree
tells, by its place, whether the two were one name. -/
def insertionsIn (key : Option Span) : Node → List Insertion
  | .name .. | .thisRef _ | .shorthand _ => []
  | .member s _ object x => insertionAt key s object x ++ insertionsIn none object
  | .index _ _ object k => insertionsIn none object ++ insertionsIn none k
  | .field _ _ object _ => insertionsIn none object
  | .call _ _ callee args => insertionsIn none callee ++ insertionsOf none args
  | .chain _ element => insertionsIn none element
  | .nonNull _ value => insertionsIn none value
  | .write target => insertionsIn key target
  | .shorthandTarget _ _ value => insertionsIn none value
  | .declarator _ _ pattern value => insertionsIn none pattern ++ insertionsIn none value
  | .form .targetDefault _ (target :: rest) => insertionsIn key target ++ insertionsOf none rest
  | .form kind _ parts => insertionsOf (keyPlace kind parts) parts
  | .region _ _ _ parts => insertionsOf none parts

/-- The members of trees that stand side by side. -/
def insertionsOf (key : Option Span) : List Node → List Insertion
  | [] => []
  | n :: rest => insertionsIn key n ++ insertionsOf key rest

end

/-- The members of a whole program that were put into it. -/
def insertions (n : Node) : List Insertion := n.insertionsIn none

theorem insertionsIn_form {key : Option Span} {kind : Form} (s : Span) (parts : List Node)
    (hkind : kind ≠ .targetDefault) :
    insertionsIn key (.form kind s parts) = insertionsOf (keyPlace kind parts) parts := by
  rw [insertionsIn]
  exact fun _ _ hdefault _ => hkind hdefault

/-- A form, or the shorthand it is if its key and its value are one name at one place. -/
def contract (kind : Form) (s : Span) (parts : List Node) : Node :=
  match kind, parts with
  | .property false, [.name .key k, .name .reference x] =>
    if k.span = x.span then .shorthand x else .form kind s parts
  | .targetProperty false, [.name .key k, .write (.name .reference x)] =>
    if k.span = x.span then .shorthandTarget s x absent else .form kind s parts
  | .targetProperty false,
      [.name .key k, .form .targetDefault _ [.write (.name .reference x), value]] =>
    if k.span = x.span then .shorthandTarget s x value else .form kind s parts
  | _, _ => .form kind s parts

mutual

/-- The tree with a plain name in the place of every member whose object and property stand
nowhere, and with the shorthands that this makes of keys and their values. -/
def restore : Node → Node
  | .name role x => .name role x
  | .thisRef s => .thisRef s
  | .member s o object x =>
    if object.span.isNowhere && x.span.isNowhere then .name .reference ⟨x.name, s⟩
    else .member s o (restore object) x
  | .index s o object key => .index s o (restore object) (restore key)
  | .field s o object f => .field s o (restore object) f
  | .call s o callee args => .call s o (restore callee) (restoreAll args)
  | .chain s element => .chain s (restore element)
  | .nonNull s value => .nonNull s (restore value)
  | .write target => .write (restore target)
  | .shorthandTarget s x value => .shorthandTarget s x (restore value)
  | .shorthand x => .shorthand x
  | .declarator s symbol pattern value => .declarator s symbol (restore pattern) (restore value)
  | .form kind s parts => contract kind s (restoreAll parts)
  | .region kind s scope parts => .region kind s scope (restoreAll parts)

def restoreAll : List Node → List Node
  | [] => []
  | n :: rest => restore n :: restoreAll rest

end

/-- A tree as it is read from a source, with or without names that stand nowhere. -/
structure Fresh (n : Node) : Prop where
  /-- Nothing was put into it. -/
  untouched : n.insertions = []
  /-- A key and its value stand at two places. -/
  keysApart : ∀ r ∈ n.references, r.key ≠ some r.ident.span

end Node

/-! ### What the nodes that a pass builds look like -/

namespace Context

variable (c : Context)

/-- The member that takes the place of a reference. -/
def insertion (r : Reference) : Insertion :=
  ⟨r.ident.span, c.receiver, r.ident.name, r.use.isShorthand || r.key == some r.ident.span⟩

theorem receiverText_receiverNode : c.receiverNode.receiverText = c.receiver := by
  unfold receiverNode
  by_cases h : c.receiver = defaultReceiver
  · simp [h, Node.receiverText]
  · simp [h, Node.receiverText]

theorem span_receiverNode : c.receiverNode.span = .nowhere := by
  unfold receiverNode
  split <;> rfl

theorem insertionsIn_receiverNode (key : Option Span) :
    c.receiverNode.insertionsIn key = [] := by
  unfold receiverNode
  split <;> rfl

theorem insertionsIn_qualified (key : Option Span) (x : Ident) :
    (c.qualified x).insertionsIn key = [⟨x.span, c.receiver, x.name, key == some x.span⟩] := by
  unfold qualified
  rw [Node.insertionsIn, Node.insertionAt, c.insertionsIn_receiverNode, c.span_receiverNode,
    c.receiverText_receiverNode]
  rfl

theorem restore_qualified (x : Ident) : (c.qualified x).restore = .name .reference x := by
  unfold qualified
  rw [Node.restore, c.span_receiverNode]
  rfl

theorem restore_qualifyShorthand (x : Ident) : (c.qualifyShorthand x).restore = .shorthand x := by
  unfold qualifyShorthand
  cases c.isFree x with
  | false => rfl
  | true =>
      show Node.contract (.property false) x.span [.name .key x, (c.qualified x).restore] = _
      rw [c.restore_qualified, Node.contract, if_pos rfl]

/-- A default that was kept is kept. -/
theorem restore_qualifyShorthandTarget (s : Span) (x : Ident) (value : Node) :
    (c.qualifyShorthandTarget s x value).restore = .shorthandTarget s x value.restore := by
  unfold qualifyShorthandTarget
  cases c.isFreeTarget x with
  | false => rfl
  | true =>
      cases habsent : value.isAbsent with
      | true =>
          obtain rfl := Node.isAbsent_iff.mp habsent
          show Node.contract (.targetProperty false) s
            [.name .key x, .write (c.qualified x).restore] = _
          rw [c.restore_qualified, Node.contract, if_pos rfl]
          rfl
      | false =>
          show Node.contract (.targetProperty false) s
            [.name .key x,
             .form .targetDefault s [.write (c.qualified x).restore, value.restore]] = _
          rw [c.restore_qualified, Node.contract, if_pos rfl]

theorem insertionsIn_qualifyShorthand (key : Option Span) (x : Ident) :
    (c.qualifyShorthand x).insertionsIn key
      = if c.isFree x then [⟨x.span, c.receiver, x.name, true⟩] else [] := by
  unfold qualifyShorthand
  cases c.isFree x with
  | false => rfl
  | true =>
      show Node.insertionsIn (some x.span) (.name .key x)
        ++ (Node.insertionsIn (some x.span) (c.qualified x) ++ []) = _
      rw [c.insertionsIn_qualified]
      simp [Node.insertionsIn]

theorem insertionsIn_qualifyShorthandTarget (key : Option Span) (s : Span) (x : Ident)
    (value : Node) :
    (c.qualifyShorthandTarget s x value).insertionsIn key
      = (if c.isFreeTarget x then [⟨x.span, c.receiver, x.name, true⟩] else [])
        ++ value.insertionsIn none := by
  unfold qualifyShorthandTarget
  cases c.isFreeTarget x with
  | false => rfl
  | true =>
      cases habsent : value.isAbsent with
      | true =>
          obtain rfl := Node.isAbsent_iff.mp habsent
          show Node.insertionsIn (some x.span) (.name .key x)
            ++ (Node.insertionsIn (some x.span) (c.qualified x) ++ []) = _
          rw [c.insertionsIn_qualified]
          simp [Node.insertionsIn, Node.absent, Node.insertionsOf]
      | false =>
          show Node.insertionsIn (some x.span) (.name .key x)
            ++ (Node.insertionsIn (some x.span) (c.qualified x)
              ++ (Node.insertionsIn none value ++ []) ++ []) = _
          rw [c.insertionsIn_qualified]
          simp [Node.insertionsIn]

end Context

namespace Arrives

variable {c : Context} {pos : Position} {site : Site} {n : Node}

/-- A reference that is qualified stands somewhere. -/
theorem placed_of_qualifies {x : Ident} (h : Arrives c pos site (.name .reference x))
    (hq : c.qualifies pos x = true) : x.span ≠ .nowhere := by
  rw [← h.takes_reference] at hq
  unfold Context.takes at hq
  rw [Bool.and_eq_true, Context.isFree_iff] at hq
  exact hq.1.1

/-- A receiver that stands nowhere keeps its text. -/
theorem receiverText_qualify (h : Arrives c pos site n) (hspan : n.span.isNowhere = true) :
    (n.qualify c pos).receiverText = n.receiverText := by
  cases n with
  | name role x =>
      show (c.qualifyName pos role x).receiverText = x.name
      obtain hname | ⟨rfl, hq, -⟩ := c.qualifyName_cases pos role x
      · rw [hname]
        rfl
      · exact absurd (by simpa [Node.span, Span.isNowhere] using hspan) (h.placed_of_qualifies hq)
  | shorthand x =>
      show (c.qualifyShorthand x).receiverText = ""
      unfold Context.qualifyShorthand
      split <;> rfl
  | shorthandTarget s x value =>
      show (c.qualifyShorthandTarget s x (value.qualify c .value)).receiverText = ""
      unfold Context.qualifyShorthandTarget
      split <;> rfl
  | _ => rfl

end Arrives

/-! ### A pass puts in one member for each reference it takes -/

namespace Node

variable {c : Context} {pos : Position} {site : Site}

/-- Two lists that grew, one after the other. -/
theorem perm_append_grown {α : Type} {l₁ l₂ a₁ a₂ b₁ b₂ : List α} (h₁ : l₁.Perm (a₁ ++ b₁))
    (h₂ : l₂.Perm (a₂ ++ b₂)) : (l₁ ++ l₂).Perm ((a₁ ++ a₂) ++ (b₁ ++ b₂)) := by
  refine (h₁.append h₂).trans ?_
  rw [List.append_assoc, List.append_assoc]
  exact (List.perm_append_comm_assoc b₁ a₂ b₂).append_left a₁

theorem keySpan?_qualify (c : Context) (pos : Position) (n : Node) :
    (n.qualify c pos).keySpan? = n.keySpan? := by
  cases n with
  | name role x =>
      show (c.qualifyName pos role x).keySpan? = _
      obtain hname | ⟨rfl, -, hname⟩ := c.qualifyName_cases pos role x
      · rw [hname]
      · rw [hname]
        rfl
  | shorthand x =>
      show (c.qualifyShorthand x).keySpan? = none
      unfold Context.qualifyShorthand
      split <;> rfl
  | shorthandTarget s x value =>
      show (c.qualifyShorthandTarget s x (value.qualify c .value)).keySpan? = none
      unfold Context.qualifyShorthandTarget
      split <;> rfl
  | _ => rfl

/-- Keys that are not computed are found where they were. -/
theorem keyPlace_qualifyAll (c : Context) (kind : Form) (parts : List Node) :
    keyPlace kind (qualifyAll c parts) = keyPlace kind parts := by
  have hhead : (qualifyAll c parts).head?.bind keySpan? = parts.head?.bind keySpan? := by
    cases parts with
    | nil => rfl
    | cons n rest => exact keySpan?_qualify c .value n
  unfold keyPlace
  split
  · exact hhead
  · exact hhead
  · rfl

theorem insertionsOf_qualifyAll {parts : List Node} {key : Option Span}
    (h : ∀ n ∈ parts, ((n.qualify c .value).insertionsIn key).Perm
      (n.insertionsIn key ++ ((n.referencesIn site).filter c.takes).map c.insertion)) :
    (insertionsOf key (qualifyAll c parts)).Perm
      (insertionsOf key parts ++ ((referencesOf site parts).filter c.takes).map c.insertion) := by
  induction parts with
  | nil => exact .refl _
  | cons n rest ih =>
      have hn := h n (by simp)
      have hrest := ih fun m hm => h m (by simp [hm])
      rw [qualifyAll, insertionsOf, insertionsOf, referencesOf, List.filter_append, List.map_append]
      exact perm_append_grown hn hrest

/-- **A pass puts in one member for each reference it takes**, and leaves those that are there as
they are. -/
theorem insertions_qualify {n : Node} (h : Arrives c pos site n) :
    ((n.qualify c pos).insertionsIn site.key).Perm
      (n.insertionsIn site.key ++ ((n.referencesIn site).filter c.takes).map c.insertion) := by
  induction n generalizing c pos site with
  | name role x =>
      cases role with
      | reference =>
          show ((c.qualifyName pos .reference x).insertionsIn site.key).Perm
            ([] ++ (List.filter c.takes [⟨site, x⟩]).map c.insertion)
          rw [List.filter_singleton, h.takes_reference]
          unfold Context.qualifyName
          cases c.qualifies pos x with
          | false => exact .refl _
          | true =>
              have huse : site.use.isShorthand = false := by rw [h.use]; cases pos <;> rfl
              show ((c.qualified x).insertionsIn site.key).Perm [c.insertion ⟨site, x⟩]
              rw [c.insertionsIn_qualified, Context.insertion]
              simp only [huse, Bool.false_or]
              exact .refl _
      | _ => exact .refl _
  | thisRef s => exact .refl _
  | member s o object x ih =>
      have hinward : Arrives c (c.inward pos (.member s o object x)) site.part object :=
        h.inward (by simp) rfl
      have hobject := ih hinward
      have hat : insertionAt site.key s (object.qualify c (c.inward pos (.member s o object x))) x
          = insertionAt site.key s object x := by
        unfold insertionAt
        rw [span_qualify]
        split
        · rename_i hspan
          rw [Bool.and_eq_true] at hspan
          rw [hinward.receiverText_qualify hspan.1]
        · rfl
      rw [qualify, insertionsIn, insertionsIn, hat, List.append_assoc]
      exact hobject.append_left _
  | index s o object key ihobject ihkey =>
      rw [qualify, insertionsIn, insertionsIn, referencesIn, List.filter_append, List.map_append]
      exact perm_append_grown (ihobject (h.inward (by simp) rfl)) (ihkey (h.part (by simp)))
  | field s o object f ih => exact ih (h.inward (by simp) rfl)
  | call s o callee args ihcallee ihargs =>
      rw [qualify, insertionsIn, insertionsIn, referencesIn, List.filter_append, List.map_append]
      exact perm_append_grown (ihcallee (h.inward (by simp) rfl))
        (insertionsOf_qualifyAll fun n hn => ihargs n hn (h.part (by simp)))
  | chain s element ih => exact ih (h.inward (by simp) rfl)
  | nonNull s value ih => exact ih (h.inward (by simp) rfl)
  | write target ih => exact ih (h.target (by simp))
  | shorthandTarget s x value ih =>
      have hvalue := ih (h.part (by simp))
      rw [qualify, c.insertionsIn_qualifyShorthandTarget, insertionsIn, referencesIn,
        List.filter_append, List.map_append, List.filter_singleton, h.takes_shorthandTarget]
      cases c.isFreeTarget x with
      | false =>
          show (insertionsIn none (qualify c .value value)).Perm
            (insertionsIn none value ++ (_ ++ []))
          rw [List.append_nil]
          exact hvalue
      | true =>
          rw [← List.append_assoc]
          exact List.perm_append_comm.trans (hvalue.append_right _)
  | shorthand x =>
      rw [qualify, c.insertionsIn_qualifyShorthand, insertionsIn, referencesIn,
        List.filter_singleton, h.takes_shorthand]
      cases c.isFree x <;> exact .refl _
  | declarator s symbol pattern value ihpattern ihvalue =>
      rw [qualify, insertionsIn, insertionsIn, referencesIn, List.filter_append, List.map_append]
      exact perm_append_grown (ihpattern (h.pattern symbol pattern value))
        (ihvalue (h.value symbol pattern value))
  | form kind s parts ih =>
      by_cases hkind : kind = .targetDefault
      · subst hkind
        cases parts with
        | nil => exact .refl _
        | cons target rest =>
            rw [qualify, qualifyAll, insertionsIn, insertionsIn, referencesIn, List.filter_append,
              List.map_append]
            refine perm_append_grown (ih target (by simp) (h.part (by simp) site.key)) ?_
            exact insertionsOf_qualifyAll fun n hn =>
              ih n (List.mem_cons_of_mem _ hn) (h.part (by simp))
      · rw [qualify, insertionsIn_form _ _ hkind, insertionsIn_form _ _ hkind,
          referencesIn_form _ _ hkind, keyPlace_qualifyAll]
        exact insertionsOf_qualifyAll fun n hn => ih n hn (h.part (by simp) _)
  | region kind s scope parts ih =>
      exact insertionsOf_qualifyAll (c := c.enter scope) fun n hn =>
        ih n hn (h.enter (by simp) scope)

/-! ### Taking the members out again undoes a pass

What a pass puts in is taken out again, whatever the tree.  From a fresh tree there
is nothing to take out: a key and its value are taken for a shorthand only if they
stand at one place, which no key and no value of a fresh tree do.
-/

theorem restoreAll_qualifyAll {parts : List Node} (c : Context)
    (h : ∀ n ∈ parts, ∀ c pos, (n.qualify c pos).restore = n.restore) :
    restoreAll (qualifyAll c parts) = restoreAll parts := by
  induction parts with
  | nil => rfl
  | cons n rest ih =>
      rw [qualifyAll, restoreAll, restoreAll, h n (by simp), ih fun m hm => h m (by simp [hm])]

/-- **Taking out what was put in undoes a pass**, and what was put in before. -/
theorem restore_qualify (c : Context) (pos : Position) (n : Node) :
    (n.qualify c pos).restore = n.restore := by
  induction n generalizing c pos with
  | name role x =>
      show (c.qualifyName pos role x).restore = _
      obtain hname | ⟨rfl, -, hname⟩ := c.qualifyName_cases pos role x
      · rw [hname]
      · rw [hname, c.restore_qualified]
        rfl
  | thisRef s => rfl
  | member s o object x ih => rw [qualify, restore, restore, span_qualify, ih]
  | index s o object key ihobject ihkey => rw [qualify, restore, restore, ihobject, ihkey]
  | field s o object f ih => rw [qualify, restore, restore, ih]
  | call s o callee args ihcallee ihargs =>
      rw [qualify, restore, restore, ihcallee, restoreAll_qualifyAll c ihargs]
  | chain s element ih => rw [qualify, restore, restore, ih]
  | nonNull s value ih => rw [qualify, restore, restore, ih]
  | write target ih => rw [qualify, restore, restore, ih]
  | shorthandTarget s x value ih => rw [qualify, c.restore_qualifyShorthandTarget, restore, ih]
  | shorthand x => exact c.restore_qualifyShorthand x
  | declarator s symbol pattern value ihpattern ihvalue =>
      rw [qualify, restore, restore, ihpattern, ihvalue]
  | form kind s parts ih => rw [qualify, restore, restore, restoreAll_qualifyAll c ih]
  | region kind s scope parts ih =>
      rw [qualify, restore, restore, restoreAll_qualifyAll (c.enter scope) ih]

/-- A form whose key and value stand at two places is no shorthand. -/
theorem contract_eq_form {kind : Form} {s : Span} {parts : List Node}
    (hkeys : ∀ r ∈ (Node.form kind s parts).referencesIn site, r.key ≠ some r.ident.span) :
    contract kind s parts = .form kind s parts := by
  unfold contract
  split
  · rename_i k x
    rw [if_neg]
    intro hspan
    refine hkeys ⟨{ site.part with key := some k.span }, x⟩ ?_ (by rw [hspan])
    simp [referencesIn, referencesOf, keyPlace, keySpan?]
  · rename_i k x
    rw [if_neg]
    intro hspan
    refine hkeys ⟨{ site.part with use := .target, key := some k.span }, x⟩ ?_ (by rw [hspan])
    simp [referencesIn, referencesOf, keyPlace, keySpan?, Site.part]
  · rename_i k t x value
    rw [if_neg]
    intro hspan
    refine hkeys ⟨{ site.part with use := .target, key := some k.span }, x⟩ ?_ (by rw [hspan])
    simp [referencesIn, referencesOf, keyPlace, keySpan?, Site.part]
  · rfl

/-- What is known of the parts of a fresh node. -/
theorem restoreAll_eq_self {parts : List Node}
    (h : ∀ n ∈ parts, n.insertionsIn site.key = [] →
      (∀ r ∈ n.referencesIn site, r.key ≠ some r.ident.span) → n.restore = n)
    (hnone : insertionsOf site.key parts = [])
    (hkeys : ∀ r ∈ referencesOf site parts, r.key ≠ some r.ident.span) :
    restoreAll parts = parts := by
  induction parts with
  | nil => rfl
  | cons n rest ih =>
      rw [insertionsOf, List.append_eq_nil_iff] at hnone
      rw [referencesOf, List.forall_mem_append] at hkeys
      rw [restoreAll, h n (by simp) hnone.1 hkeys.1,
        ih (fun m hm => h m (by simp [hm])) hnone.2 hkeys.2]

/-- Nothing is taken out of a tree that nothing was put into. -/
theorem restore_eq_self (n : Node) (site : Site) (hnone : n.insertionsIn site.key = [])
    (hkeys : ∀ r ∈ n.referencesIn site, r.key ≠ some r.ident.span) : n.restore = n := by
  induction n generalizing site with
  | member s o object x ih =>
      rw [insertionsIn, List.append_eq_nil_iff] at hnone
      have hplaced : ¬ (object.span.isNowhere && x.span.isNowhere) = true := by
        intro hspan
        simp [insertionAt, hspan] at hnone
      rw [restore, if_neg hplaced, ih site.part hnone.2 hkeys]
  | index s o object key ihobject ihkey =>
      rw [insertionsIn, List.append_eq_nil_iff] at hnone
      rw [referencesIn, List.forall_mem_append] at hkeys
      rw [restore, ihobject site.part hnone.1 hkeys.1, ihkey site.part hnone.2 hkeys.2]
  | field s o object f ih => rw [restore, ih site.part hnone hkeys]
  | call s o callee args ihcallee ihargs =>
      rw [insertionsIn, List.append_eq_nil_iff] at hnone
      rw [referencesIn, List.forall_mem_append] at hkeys
      rw [restore, ihcallee site.part hnone.1 hkeys.1,
        restoreAll_eq_self (fun n hn => ihargs n hn site.part) hnone.2 hkeys.2]
  | chain s element ih => rw [restore, ih site.part hnone hkeys]
  | nonNull s value ih => rw [restore, ih site.part hnone hkeys]
  | write target ih =>
      rw [restore, ih { site.part with use := .target, key := site.key } hnone hkeys]
  | shorthandTarget s x value ih =>
      rw [referencesIn, List.forall_mem_append] at hkeys
      rw [restore, ih site.part hnone hkeys.1]
  | declarator s symbol pattern value ihpattern ihvalue =>
      rw [insertionsIn, List.append_eq_nil_iff] at hnone
      rw [referencesIn, List.forall_mem_append] at hkeys
      rw [restore, ihpattern site.part hnone.1 hkeys.1, ihvalue _ hnone.2 hkeys.2]
  | form kind s parts ih =>
      have hparts : restoreAll parts = parts := by
        by_cases hkind : kind = .targetDefault
        · subst hkind
          cases parts with
          | nil => rfl
          | cons target rest =>
              rw [insertionsIn, List.append_eq_nil_iff] at hnone
              rw [referencesIn, List.forall_mem_append] at hkeys
              rw [restoreAll,
                ih target (by simp) { site.part with key := site.key } hnone.1 hkeys.1,
                restoreAll_eq_self
                  (fun n hn => ih n (List.mem_cons_of_mem _ hn) site.part) hnone.2 hkeys.2]
        · rw [insertionsIn_form _ _ hkind] at hnone
          rw [referencesIn_form _ _ hkind] at hkeys
          exact restoreAll_eq_self (fun n hn => ih n hn _) hnone hkeys
      rw [restore, hparts]
      exact contract_eq_form hkeys
  | region kind s scope parts ih =>
      rw [restore,
        restoreAll_eq_self (fun n hn => ih n hn { scope := scope.or site.scope }) hnone hkeys]
  | _ => rfl

/-- A tree as it is read from a source is the one it is restored to. -/
theorem Fresh.restore {n : Node} (h : n.Fresh) : n.restore = n :=
  restore_eq_self n {} h.untouched h.keysApart

end Node

/-- Both shorthands, a default and a call, and behind them a name that stands nowhere. -/
def Node.takenApart : Node :=
  ((Program.parse? .module "({x = y} = {a, b: f(c)})").getD default).tree.inject ["late"]

/-- The edit that a member stands for is the one recorded for its reference. -/
theorem Context.edit_insertion (c : Context) {r : Reference} (h : r.key ≠ some r.ident.span) :
    (c.insertion r).edit = r.edit c.receiver := by
  have hkey : (r.key == some r.ident.span) = false := by simpa using h
  unfold insertion Insertion.edit Reference.edit
  simp only [hkey, Bool.or_false]

namespace Scoped

/-- The members of the tree that a pass leaves are those of the tree it was given and one for each
edit. -/
theorem insertions_pass (p : Scoped) (i : Instructions)
    (hkeys : ∀ r ∈ p.tree.references, r.key ≠ some r.ident.span) :
    ((p.pass i).tree.insertions.map Insertion.edit).Perm
      (p.tree.insertions.map Insertion.edit ++ (p.pass i).edits) := by
  have hgrown := (Node.insertions_qualify (.root p.scopes i p.tree)).map Insertion.edit
  rw [List.map_append, List.map_map] at hgrown
  rw [p.edits_pass i]
  refine hgrown.trans (.of_eq (congrArg _ (List.map_congr_left fun r hr => ?_)))
  exact Context.edit_insertion _ (hkeys r (List.mem_of_mem_filter hr))

/-- What was put in before is taken out with it. -/
theorem restore_pass (p : Scoped) (i : Instructions) :
    (p.pass i).tree.restore = p.tree.restore :=
  Node.restore_qualify _ _ p.tree

/--
**The tree that a pass leaves and the edits it records say the same.**  The members
that stand nowhere are the edits, each once; and with the members taken out again
the tree is the one that the pass was given, so nothing else has changed in it.
-/
theorem pass_tree_agrees_with_edits (p : Scoped) (i : Instructions) (h : p.tree.Fresh) :
    ((p.pass i).tree.insertions.map Insertion.edit).Perm (p.pass i).edits
      ∧ (p.pass i).tree.restore = p.tree := by
  refine ⟨?_, (p.restore_pass i).trans h.restore⟩
  have hgrown := p.insertions_pass i h.keysApart
  rw [h.untouched] at hgrown
  exact hgrown

theorem pass_takenApart_agrees_with_edits :
    let p := Node.takenApart.withScopes true
    let i : Instructions := ⟨.empty, "scope", .qualify⟩
    p.tree.Fresh
      ∧ ((p.pass i).tree.insertions.map Insertion.edit).Perm (p.pass i).edits
      ∧ (p.pass i).tree.restore = p.tree
      ∧ (p.pass i).edits.map (·.text)
          = ["scope.y", "x: scope.x", "a: scope.a", "scope.f", "scope.c"] := by
  intro p i
  have hfresh : p.tree.Fresh := ⟨by decide +kernel, by decide +kernel⟩
  obtain ⟨hedits, htree⟩ := pass_tree_agrees_with_edits p i hfresh
  exact ⟨hfresh, hedits, htree, by decide +kernel⟩

end Scoped

end FreeNames
