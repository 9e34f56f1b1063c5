/-
The properties that object literals define.

A free shorthand is taken apart into a key and a value.  The key says what the shorthand said,
so the literal defines what it defined, with one exception: `__proto__` with a value behind a
colon defines nothing and sets the prototype instead, where a shorthand or a method of this
name defines a property like any other.

So a literal loses just the names of its free shorthands `__proto__`
(`Context.ownNames_qualifyAll`), which is followed through a whole program, however the
literals are nested, by listing each with what is known where it stands (`Node.literals`).
How keys that are numbers or quoted are read does not matter, as a pass leaves them as they are.
-/
import FreeNames.Proofs.Unit

namespace FreeNames

/-- The key that sets the prototype. -/
def prototypeKey : String := "__proto__"

namespace Node

/-- The property that a key names if it is not computed, given what is read in a literal. -/
def keyName? (spelled : String → String) : Node → Option String
  | .name .key x => some x.name
  | .form (.literal text) _ _ => some (spelled text)
  | _ => none

/-- The own property that a member of an object literal defines, if it is there to be seen. -/
def ownName? (spelled : String → String) : Node → Option String
  | .shorthand x => some x.name
  | .form (.property false) _ (key :: _) => (key.keyName? spelled).filter (· != prototypeKey)
  | .form (.method _ false) _ (key :: _) => key.keyName? spelled
  | _ => none

/-- The own properties that the members of an object literal define. -/
def ownNames (spelled : String → String) (members : List Node) : List String :=
  members.filterMap (ownName? spelled)

end Node

/-- An object literal, and what is known where it stands. -/
structure Literal where
  context : Context
  members : List Node

/-- The literal that a form is, if it is one. -/
def Context.literal? (c : Context) (kind : Form) (parts : List Node) : Option Literal :=
  match kind with
  | .object _ => some ⟨c, parts⟩
  | _ => none

namespace Node

mutual

/-- The object literals of a tree, each in front of those inside it. -/
def literals (c : Context) : Node → List Literal
  | .name .. | .thisRef _ | .shorthand _ => []
  | .member _ _ object _ | .field _ _ object _ => literals c object
  | .index _ _ object key => literals c object ++ literals c key
  | .call _ _ callee args => literals c callee ++ literalsOf c args
  | .chain _ element => literals c element
  | .nonNull _ value => literals c value
  | .write target => literals c target
  | .shorthandTarget _ _ value => literals c value
  | .declarator _ symbol pattern value =>
    let inner := c.declaring symbol pattern value
    literals inner pattern ++ literals inner value
  | .form kind _ parts => (c.literal? kind parts).toList ++ literalsOf c parts
  | .region _ _ scope parts => literalsOf (c.enter scope) parts

/-- The object literals of some trees. -/
def literalsOf (c : Context) : List Node → List Literal
  | [] => []
  | n :: rest => literals c n ++ literalsOf c rest

end

end Node

/-! ### One literal -/

namespace Context

variable (c : Context) (spelled : String → String)

/-- Whether a member defines a property that it does not define any more when it is qualified. -/
def losesName (c : Context) : Node → Bool
  | .shorthand x => c.isFree x && x.name == prototypeKey
  | _ => false

theorem losesName_eq_true_iff {m : Node} :
    c.losesName m = true ↔ ∃ x, m = .shorthand x ∧ c.isFree x = true ∧ x.name = prototypeKey := by
  cases m with
  | shorthand x => simp [losesName]
  | _ => simp [losesName]

/-- A pass leaves what a key names. -/
theorem keyName?_qualify (key : Node) :
    (key.qualify c .value).keyName? spelled = key.keyName? spelled := by
  cases key with
  | name role x =>
      show (c.qualifyName .value role x).keyName? spelled = _
      obtain hname | ⟨rfl, -, hname⟩ := c.qualifyName_cases .value role x
      · rw [hname]
      · rw [hname]
        rfl
  | shorthandTarget s x value =>
      show (c.qualifyShorthandTarget s x (value.qualify c .value)).keyName? spelled = _
      unfold qualifyShorthandTarget
      split <;> rfl
  | shorthand x =>
      show (c.qualifyShorthand x).keyName? spelled = _
      unfold qualifyShorthand
      split <;> rfl
  | form kind s parts => cases kind <;> rfl
  | _ => rfl

theorem ownName?_qualifyShorthand (x : Ident) :
    (c.qualifyShorthand x).ownName? spelled
      = if c.losesName (.shorthand x) then none else some x.name := by
  unfold qualifyShorthand
  by_cases hfree : c.isFree x = true
  · rw [if_pos hfree]
    show (some x.name).filter (· != prototypeKey) = _
    by_cases hname : x.name = prototypeKey <;> simp [losesName, hfree, hname, Option.filter]
  · rw [if_neg hfree]
    simp [losesName, hfree, Node.ownName?]

/-- A member defines what it defined, unless it loses its name. -/
theorem ownName?_qualify (m : Node) :
    (m.qualify c .value).ownName? spelled
      = if c.losesName m then none else m.ownName? spelled := by
  cases m with
  | name role x =>
      show (c.qualifyName .value role x).ownName? spelled = _
      unfold qualifyName
      split <;> rfl
  | shorthandTarget s x value =>
      show (c.qualifyShorthandTarget s x (value.qualify c .value)).ownName? spelled = _
      unfold qualifyShorthandTarget
      split <;> rfl
  | shorthand x => exact c.ownName?_qualifyShorthand spelled x
  | form kind s parts =>
      cases parts with
      | nil => rfl
      | cons key rest =>
          have hkey := c.keyName?_qualify spelled key
          cases kind with
          | property computed =>
              cases computed with
              | false => exact congrArg (Option.filter (· != prototypeKey)) hkey
              | true => rfl
          | method methodKind computed =>
              cases computed with
              | false => exact hkey
              | true => rfl
          | _ => rfl
  | _ => rfl

/-- **A literal loses the names of its free shorthands `__proto__`**, and no others. -/
theorem ownNames_qualifyAll (members : List Node) :
    Node.ownNames spelled (Node.qualifyAll c members)
      = Node.ownNames spelled (members.filter fun m => !c.losesName m) := by
  have hmember : Node.ownName? spelled ∘ Node.qualify c .value
      = fun m => if !c.losesName m then m.ownName? spelled else none := by
    funext m
    rw [Function.comp_apply, c.ownName?_qualify spelled m]
    cases c.losesName m <;> rfl
  unfold Node.ownNames
  rw [Node.qualifyAll_eq_map, List.filterMap_map, List.filterMap_filter, hmember]

/-- That is none if the literal has no such shorthand, and only then. -/
theorem ownNames_filter_eq_iff (members : List Node) :
    Node.ownNames spelled (members.filter fun m => !c.losesName m)
        = Node.ownNames spelled members
      ↔ ∀ m ∈ members, c.losesName m = false := by
  constructor
  · intro h
    induction members with
    | nil => simp
    | cons m rest ih =>
        cases hm : c.losesName m with
        | false =>
            have hrest : Node.ownNames spelled (rest.filter fun m => !c.losesName m)
                = Node.ownNames spelled rest := by
              rw [List.filter_cons_of_pos (by simp [hm])] at h
              unfold Node.ownNames at h ⊢
              rw [List.filterMap_cons, List.filterMap_cons] at h
              cases hname : m.ownName? spelled with
              | none => simpa only [hname] using h
              | some name => simpa only [hname, List.cons.injEq, true_and] using h
            exact List.forall_mem_cons.mpr ⟨hm, ih hrest⟩
        | true =>
            -- Its name is there before and not after, and nothing makes up for it.
            obtain ⟨x, rfl, -, -⟩ := c.losesName_eq_true_iff.mp hm
            rw [List.filter_cons_of_neg (by simp [hm])] at h
            have hcount : (Node.ownNames spelled (rest.filter fun m => !c.losesName m)).length
                ≤ (Node.ownNames spelled rest).length :=
              (List.filter_sublist.filterMap _).length_le
            rw [h] at hcount
            exact absurd hcount (Nat.not_succ_le_self _)
  · intro h
    rw [List.filter_eq_self.mpr fun m hm => by simp [h m hm]]

end Context

/-! ### All literals of a program -/

namespace Literal

/-- The literal with its members as a pass leaves them. -/
def qualified (l : Literal) : List Node := Node.qualifyAll l.context l.members

/-- The members that define what they defined when they are qualified. -/
def lasting (l : Literal) : List Node := l.members.filter fun m => !l.context.losesName m

end Literal

namespace Node

variable (c c' : Context)

theorem literals_qualified (x : Ident) : (c.qualified x).literals c' = [] := by
  show c.receiverNode.literals c' = []
  unfold Context.receiverNode
  split <;> rfl

theorem literalsOf_qualifyAll {parts : List Node}
    (h : ∀ n ∈ parts, ((n.qualify c .value).literals c').map Literal.members
      = (n.literals c).map Literal.qualified) :
    (literalsOf c' (qualifyAll c parts)).map Literal.members
      = (literalsOf c parts).map Literal.qualified := by
  induction parts with
  | nil => rfl
  | cons n rest ih =>
      rw [qualifyAll, literalsOf, literalsOf, List.map_append, List.map_append, h n (by simp),
        ih fun m hm => h m (by simp [hm])]

theorem literals_qualifyShorthandTarget (s : Span) (x : Ident) (value : Node) :
    (c.qualifyShorthandTarget s x value).literals c' = value.literals c' := by
  unfold Context.qualifyShorthandTarget
  have htarget : (Node.write (c.qualified x)).literals c' = [] := literals_qualified c c' x
  split
  · show (if value.isAbsent then _ else _ : Node).literals c' ++ [] = _
    rw [List.append_nil]
    cases habsent : value.isAbsent with
    | true =>
        obtain rfl := isAbsent_iff.mp habsent
        exact htarget
    | false =>
        show (Node.write (c.qualified x)).literals c' ++ (value.literals c' ++ []) = _
        rw [htarget, List.nil_append, List.append_nil]
  · rfl

/-- A pass leaves each literal where it is, with its members qualified, and adds none. -/
theorem literals_qualify (n : Node) (pos : Position) :
    ((n.qualify c pos).literals c').map Literal.members
      = (n.literals c).map Literal.qualified := by
  induction n generalizing c c' pos with
  | name role x =>
      show ((c.qualifyName pos role x).literals c').map _ = []
      unfold Context.qualifyName
      split
      · rw [literals_qualified]
        rfl
      · rfl
  | thisRef s => rfl
  | member s o object x ih => exact ih c c' _
  | index s o object key ihobject ihkey =>
      rw [qualify, literals, literals, List.map_append, List.map_append, ihobject, ihkey]
  | field s o object f ih => exact ih c c' _
  | call s o callee args ihcallee ihargs =>
      rw [qualify, literals, literals, List.map_append, List.map_append, ihcallee,
        literalsOf_qualifyAll c c' fun n hn => ihargs n hn c c' .value]
  | chain s element ih => exact ih c c' _
  | nonNull s value ih => exact ih c c' _
  | write target ih => exact ih c c' .written
  | shorthandTarget s x value ih =>
      rw [qualify, literals_qualifyShorthandTarget, ih, literals]
  | shorthand x =>
      show ((c.qualifyShorthand x).literals c').map _ = []
      unfold Context.qualifyShorthand
      split
      · show (((c.qualified x).literals c' ++ [] : List Literal)).map _ = []
        rw [literals_qualified]
        rfl
      · rfl
  | declarator s symbol pattern value ihpattern ihvalue =>
      rw [qualify, literals, literals, List.map_append, List.map_append, ihpattern, ihvalue]
  | form kind s parts ih =>
      have hparts := literalsOf_qualifyAll c c' fun n hn => ih n hn c c' .value
      rw [qualify, literals, literals, List.map_append, List.map_append, hparts]
      cases kind <;> rfl
  | region kind s scope parts ih =>
      rw [qualify, literals, literals]
      exact literalsOf_qualifyAll _ _ fun n hn => ih n hn _ _ .value

end Node

namespace Scoped

variable (spelled : String → String) (p : Scoped) (i : Instructions)

/-- The object literals of a program as a pass comes upon them. -/
def literals : List Literal := p.tree.literals (.ofScopes p.scopes i)

/-- The own properties that each object literal of a program defines. -/
def ownNames : List (List String) := (p.literals i).map fun l => Node.ownNames spelled l.members

/--
**A pass takes no own property from an object literal but those of free shorthands `__proto__`.**
After it, each literal of the program defines what its other members defined before.
-/
theorem ownNames_pass :
    ({ p with tree := (p.pass i).tree } : Scoped).ownNames spelled i
      = (p.literals i).map fun l => Node.ownNames spelled l.lasting := by
  let c := Context.ofScopes p.scopes i
  have hmembers := Node.literals_qualify c c p.tree .value
  calc ((p.tree.qualify c .value).literals c).map (fun l => Node.ownNames spelled l.members)
      = (((p.tree.qualify c .value).literals c).map Literal.members).map
          (Node.ownNames spelled) := by rw [List.map_map]; rfl
    _ = ((p.literals i).map Literal.qualified).map (Node.ownNames spelled) := by rw [hmembers]; rfl
    _ = (p.literals i).map fun l => Node.ownNames spelled l.lasting := by
        rw [List.map_map]
        exact congrArg (List.map · (p.literals i)) <| funext fun l =>
          l.context.ownNames_qualifyAll spelled l.members

/-- So a pass leaves the own properties of all literals as they are if no literal has a free
shorthand `__proto__`, and only then. -/
theorem ownNames_pass_eq_iff :
    ({ p with tree := (p.pass i).tree } : Scoped).ownNames spelled i = p.ownNames spelled i
      ↔ ∀ l ∈ p.literals i, ∀ m ∈ l.members, l.context.losesName m = false := by
  rw [ownNames_pass, ownNames, List.map_inj_left]
  exact forall₂_congr fun l _ => l.context.ownNames_filter_eq_iff spelled l.members

end Scoped

/-! ### A unit whose literal loses a property -/

namespace Options

/-- The own properties that each object literal of a module defines. -/
def ownNames? (source : String) : Option (List (List String)) := do
  let program ← Program.parse? .module source
  let i : Instructions := { globals := .empty, receiver := defaultReceiver, policy := .qualify }
  return (program.tree.withScopes true).ownNames id i

/-- The literal defines a property, and what becomes of it defines none. -/
theorem ownNames_prototype :
    ownNames? "(\x7b __proto__ \x7d);" = some [["__proto__"]]
      ∧ (moduleOutcome? "(\x7b __proto__ \x7d);").map (·.code)
        = some "(\x7b __proto__: this.__proto__ \x7d);"
      ∧ ownNames? "(\x7b __proto__: this.__proto__ \x7d);" = some [[]] := by
  decide +kernel

end Options

end FreeNames
