/-
Every identifier is counted once.

`Node.occurrences` lists every node of a tree with the way it stands there, and
knows nothing of a pass.  The counts of a pass are counts over that list: each
identifier falls under one heading, and so does each chain that starts with `this`,
which is counted as the receiver although no identifier stands for it.

What stands in the way of a plain induction is once more the start of a chain.  It
is looked up where the chain is entered and not where it stands, so a node that is
come upon along a chain has one look-up less than it has references, if it starts
with one (`Position.ahead`).
-/
import FreeNames.Proofs.Counts

namespace FreeNames

/-- How a node stands in a tree. -/
inductive Stance
  /-- For a value. -/
  | value
  /-- For what is written to. -/
  | target
  /-- For the object or the callee of a link. -/
  | inner
  deriving DecidableEq

/-- How the object or the callee of a link stands.  A link that is written to is not part of a
chain, so what it goes on with is a value. -/
def Stance.inward : Stance → Stance
  | .target => .value
  | .value | .inner => .inner

/-- A node of a tree and how it stands there. -/
structure Occurrence where
  stance : Stance
  node : Node

namespace Node

mutual

/-- The nodes of a tree. -/
def occurrences (stance : Stance) (n : Node) : List Occurrence :=
  ⟨stance, n⟩ ::
    match n with
    | .name .. | .thisRef _ | .shorthand _ => []
    | .member _ _ object _ | .field _ _ object _ => occurrences stance.inward object
    | .index _ _ object key => occurrences stance.inward object ++ occurrences .value key
    | .call _ _ callee args => occurrences stance.inward callee ++ occurrencesOf args
    | .chain _ element => occurrences stance.inward element
    | .nonNull _ value => occurrences stance.inward value
    | .write target => occurrences .target target
    | .shorthandTarget _ _ value => occurrences .value value
    | .declarator _ _ pattern value => occurrences .value pattern ++ occurrences .value value
    | .form _ _ parts | .region _ _ _ parts => occurrencesOf parts

/-- The nodes of trees that stand side by side as values. -/
def occurrencesOf : List Node → List Occurrence
  | [] => []
  | n :: rest => occurrences .value n ++ occurrencesOf rest

end

end Node

namespace Occurrence

/-- An identifier that plays this role. -/
def isName (role : Role) (o : Occurrence) : Bool :=
  match o.node with
  | .name role' _ => role' == role
  | _ => false

/-- An identifier that stands for a value. -/
def isReference (o : Occurrence) : Bool :=
  match o.node with
  | .name .reference _ | .shorthandTarget .. | .shorthand _ => true
  | _ => false

/-- A reference that is written to. -/
def isTarget (o : Occurrence) : Bool :=
  match o.stance, o.node with
  | .target, .name .reference _ => true
  | _, .shorthandTarget .. => true
  | _, _ => false

/-- A key that is not computed, the key that a shorthand is besides its value included. -/
def isKey (o : Occurrence) : Bool :=
  match o.node with
  | .name .key _ | .shorthand _ => true
  | _ => false

/-- A member, which has a property that is not computed. -/
def isMember (o : Occurrence) : Bool :=
  match o.node with
  | .member .. => true
  | _ => false

/-- A whole chain that stands for a value and starts with `this`. -/
def isThisChain (o : Occurrence) : Bool :=
  match o.stance, o.node.leftmost with
  | .value, .thisRef _ => o.node.isLink
  | _, _ => false

theorem isReference_of_isTarget (o : Occurrence) (h : o.isTarget = true) :
    o.isReference = true := by
  unfold isTarget at h
  unfold isReference
  split at h
  · rename_i hnode
    rw [hnode]
  · rename_i hnode
    rw [hnode]
  · cases h

/-- A reference is nothing else, but that a shorthand is a key besides. -/
theorem of_isReference (o : Occurrence) (h : o.isReference = true) :
    o.isThisChain = false ∧ o.isMember = false ∧ o.isName .binding = false
      ∧ o.isName .label = false := by
  obtain ⟨stance, n⟩ := o
  cases n with
  | name role x =>
      cases role with
      | reference => cases stance <;> exact ⟨rfl, rfl, rfl, rfl⟩
      | _ => cases h
  | shorthandTarget | shorthand => cases stance <;> exact ⟨rfl, rfl, rfl, rfl⟩
  | _ => cases h

end Occurrence

/-- How many identifiers there are of each kind, and how many chains that start with `this`. -/
structure Census where
  references : Nat
  targets : Nat
  bindings : Nat
  labels : Nat
  keys : Nat
  properties : Nat
  thisChains : Nat
  deriving DecidableEq, Repr

/-- The census of a program. -/
def Node.census (n : Node) : Census :=
  let all := n.occurrences .value
  { references := all.countP Occurrence.isReference
    targets := all.countP Occurrence.isTarget
    bindings := all.countP (Occurrence.isName .binding)
    labels := all.countP (Occurrence.isName .label)
    keys := all.countP Occurrence.isKey
    properties := all.countP Occurrence.isMember
    thisChains := all.countP Occurrence.isThisChain }

/-! ### What is counted -/

/-- Whether an identifier was left aside without being looked up. -/
def Classification.isExempt : Classification → Bool
  | .exempt _ => true
  | _ => false

/-- Whether an identifier was looked up. -/
def Classification.isLookedUp (k : Classification) : Bool := !k.isExempt

/-- How many identifiers of these classes were met. -/
def metCount (classes : Classification → Bool) (events : List Event) : Nat :=
  (events.filterMap Event.classification?).countP classes

section metCount

variable {classes : Classification → Bool}

@[simp] theorem metCount_nil : metCount classes [] = 0 := rfl

@[simp] theorem metCount_append (a b : List Event) :
    metCount classes (a ++ b) = metCount classes a + metCount classes b := by
  simp [metCount]

@[simp] theorem metCount_note (name : String) (k : Classification) (rest : List Event) :
    metCount classes (.note name k :: rest)
      = (if classes k then 1 else 0) + metCount classes rest := by
  simp [metCount, Event.classification?, List.countP_cons, Nat.add_comm]

@[simp] theorem metCount_tally (k : Classification) (rest : List Event) :
    metCount classes (.tally k :: rest) = (if classes k then 1 else 0) + metCount classes rest := by
  simp [metCount, Event.classification?, List.countP_cons, Nat.add_comm]

@[simp] theorem metCount_edits (s : Span) (text : String) (b : Bool) :
    metCount classes (Context.edits s text b) = 0 := by
  cases b <;> rfl

end metCount

namespace Stats

/-- The headings other than the one for what is left aside add up to what was looked up. -/
theorem lookups_ofEvents (events : List Event) :
    let s := ofEvents events
    s.bound + s.global + s.receiver + s.synthetic + s.free
      = metCount Classification.isLookedUp events := by
  unfold ofEvents metCount
  dsimp only
  generalize events.filterMap Event.classification? = classes
  induction classes with
  | nil => rfl
  | cons k rest ih =>
      cases k <;> simp [Classification.isLookedUp, Classification.isExempt] at ih ⊢ <;> omega

theorem exempt_ofEvents (events : List Event) :
    (ofEvents events).exempt = metCount Classification.isExempt events := by
  unfold ofEvents metCount
  refine List.countP_congr fun k _ => ?_
  cases k <;> simp [Classification.isExempt]

end Stats

/-! ### What a pass counts, node by node -/

/-- How a node stands that is come upon in this way. -/
def Position.stance : Position → Stance
  | .value => .value
  | .written => .target
  | .along _ => .inner

/-- Whether a chain starts with a reference. -/
def Node.startsWithName (n : Node) : Bool :=
  match n.leftmost with
  | .name .reference _ => true
  | _ => false

/-- How many references of a node were looked up before it was come upon. -/
def Position.ahead (n : Node) : Position → Nat
  | .along _ => if n.startsWithName then 1 else 0
  | _ => 0

theorem Position.ahead_eq_zero {n : Node} (pos : Position) (h : n.startsWithName = false) :
    pos.ahead n = 0 := by
  cases pos with
  | along free => simp [ahead, h]
  | _ => rfl

/-- A reference that is left aside because it is written to. -/
def Occurrence.isKept (kept : Bool) (o : Occurrence) : Bool := o.isTarget && kept

/-- What was met in some nodes counts each of them once, the start that was looked up ahead
aside.  References that are written to are left aside if they are `kept`. -/
structure Tallies (kept : Bool) (events : List Event) (all : List Occurrence) (ahead : Nat) :
    Prop where
  lookups : metCount Classification.isLookedUp events + ahead + all.countP (Occurrence.isKept kept)
    = all.countP Occurrence.isReference + all.countP Occurrence.isThisChain
  exempt : metCount Classification.isExempt events
    = all.countP (Occurrence.isName .binding) + all.countP (Occurrence.isName .label)
      + all.countP Occurrence.isKey + all.countP Occurrence.isMember
      + all.countP (Occurrence.isKept kept)

namespace Tallies

variable {kept : Bool} {events rest : List Event} {all more : List Occurrence} {ahead : Nat}

theorem nil (kept : Bool) : Tallies kept [] [] 0 := ⟨rfl, rfl⟩

theorem append (h : Tallies kept events all ahead) (hrest : Tallies kept rest more 0) :
    Tallies kept (events ++ rest) (all ++ more) ahead := by
  have hlookups := h.lookups
  have hexempt := h.exempt
  have hlookups' := hrest.lookups
  have hexempt' := hrest.exempt
  constructor
  · simp only [metCount_append, List.countP_append]
    omega
  · simp only [metCount_append, List.countP_append]
    omega

end Tallies

namespace Context

variable {c : Context} {pos : Position} {n next : Node}

theorem stance_inward (c : Context) (pos : Position) (n : Node) :
    (c.inward pos n).stance = pos.stance.inward := by
  cases pos <;> rfl

theorem isExempt_classify (c : Context) (x : Ident) : (c.classify x).isExempt = false := by
  unfold classify
  repeat' split
  all_goals rfl

theorem isExempt_classifyTarget (c : Context) (x : Ident) :
    (c.classifyTarget x).isExempt = c.preserves := by
  unfold classifyTarget
  cases c.preserves with
  | true => rfl
  | false => exact c.isExempt_classify x

/-- What is looked up where a chain is entered is its start, which may be `this`. -/
theorem lookedUp_linkEvents (hlink : n.isLink = true) (hstart : next.leftmost = n.leftmost) :
    metCount Classification.isLookedUp (c.linkEvents pos n) + pos.ahead n
      = (c.inward pos n).ahead next
        + [(⟨pos.stance, n⟩ : Occurrence)].countP Occurrence.isThisChain := by
  have hname : next.startsWithName = n.startsWithName := by
    unfold Node.startsWithName
    rw [hstart]
  cases pos with
  | written => simp [linkEvents, inward, Position.ahead, Position.stance, Occurrence.isThisChain]
  | along free =>
      simp [linkEvents, inward, Position.ahead, Position.stance, Occurrence.isThisChain, hname]
  | value =>
      show metCount Classification.isLookedUp (c.startEvents n) + 0
        = (if next.startsWithName then 1 else 0) + _
      rw [hname, List.countP_singleton]
      unfold startEvents Node.root Node.startsWithName Occurrence.isThisChain
      cases n.leftmost with
      | thisRef s =>
          simp [hlink, Position.stance, Classification.isLookedUp, Classification.isExempt]
      | name role x =>
          cases role with
          | reference =>
              by_cases hreceiver : x.name = c.receiver
              · simp [hreceiver, Position.stance, Classification.isLookedUp,
                  Classification.isExempt]
              · simp [hreceiver, Position.stance, Classification.isLookedUp, c.isExempt_classify]
          | _ => simp [Position.stance]
      | _ => simp [Position.stance]

theorem exempt_linkEvents (c : Context) (pos : Position) (n : Node) :
    metCount Classification.isExempt (c.linkEvents pos n) = 0 := by
  unfold linkEvents startEvents
  split
  · split
    · simp [c.isExempt_classify]
    · simp [Classification.isExempt]
    · rfl
  · rfl

end Context

namespace Node

variable {c : Context} {pos : Position}

/-- A link is no identifier. -/
theorem not_identifier_of_isLink {n : Node} (h : n.isLink = true) (stance : Stance) :
    let o : Occurrence := ⟨stance, n⟩
    o.isReference = false ∧ o.isTarget = false ∧ o.isKey = false
      ∧ ∀ role, o.isName role = false := by
  cases n with
  | member | index | field | call | chain | nonNull =>
      cases stance <;> exact ⟨rfl, rfl, rfl, fun _ => rfl⟩
  | _ => cases h

/-- A link counts for itself what it is counted as when its chain is entered, and its property if
it has one. -/
theorem tallies_link (n next : Node) (own : List Event) {rest : List Event}
    {all more : List Occurrence}
    (hlink : n.isLink = true) (hstart : next.leftmost = n.leftmost)
    (hlookups : metCount Classification.isLookedUp own = 0)
    (hexempt : metCount Classification.isExempt own
      = [(⟨pos.stance, n⟩ : Occurrence)].countP Occurrence.isMember)
    (hnext : Tallies c.preserves (next.events c (c.inward pos n)) all ((c.inward pos n).ahead next))
    (hrest : Tallies c.preserves rest more 0) :
    Tallies c.preserves
      (c.linkEvents pos n ++ next.events c (c.inward pos n) ++ (own ++ rest))
      (⟨pos.stance, n⟩ :: (all ++ more)) (pos.ahead n) := by
  obtain ⟨hreference, htarget, hkey, hname⟩ := not_identifier_of_isLink hlink pos.stance
  have hkept : Occurrence.isKept c.preserves ⟨pos.stance, n⟩ = false := by
    unfold Occurrence.isKept
    rw [htarget, Bool.false_and]
  have hboth := hnext.append hrest
  have hstartLookups : metCount Classification.isLookedUp (c.linkEvents pos n) + pos.ahead n
      = (c.inward pos n).ahead next
        + [(⟨pos.stance, n⟩ : Occurrence)].countP Occurrence.isThisChain :=
    Context.lookedUp_linkEvents hlink hstart
  have hstartExempt := c.exempt_linkEvents pos n
  have hbothLookups := hboth.lookups
  have hbothExempt := hboth.exempt
  rw [List.countP_singleton] at hstartLookups hexempt
  constructor
  · simp only [metCount_append, List.countP_cons, hreference, hkept] at hbothLookups ⊢
    simp only [Bool.false_eq_true, if_false]
    omega
  · simp only [metCount_append, List.countP_cons, hkey, hkept, hname] at hbothExempt ⊢
    simp only [Bool.false_eq_true, if_false]
    omega

theorem tallies_all {parts : List Node}
    (h : ∀ n ∈ parts, Tallies c.preserves (n.events c .value) (n.occurrences .value) 0) :
    Tallies c.preserves (eventsOf c parts) (occurrencesOf parts) 0 := by
  induction parts with
  | nil => exact .nil _
  | cons n rest ih =>
      have hn := h n (by simp)
      have hrest := ih fun m hm => h m (by simp [hm])
      exact hn.append hrest

/-- Whether a node is neither an identifier nor a link. -/
def isOther : Node → Bool
  | .thisRef _ | .write _ | .declarator .. | .form .. | .region .. => true
  | _ => false

/-- A node that is neither an identifier nor a link counts for nothing itself. -/
theorem tallies_within {n : Node} {events : List Event} {all : List Occurrence}
    (hn : n.isOther = true) (hall : Tallies c.preserves events all 0) :
    Tallies c.preserves events (⟨pos.stance, n⟩ :: all) (pos.ahead n) := by
  have hown : Tallies c.preserves [] [⟨pos.stance, n⟩] (pos.ahead n) := by
    cases n with
    | thisRef | write | declarator | form | region => cases pos <;> exact ⟨rfl, rfl⟩
    | _ => cases hn
  exact hown.append hall

/-- A reference is looked up, unless it is kept. -/
theorem tallies_reference {o : Occurrence} (x : Ident) {k : Classification} {kept : Bool}
    (href : o.isReference = true) (hkey : o.isKey = false) (hk : k.isExempt = o.isKept kept) :
    Tallies kept [.note x.name k] [o] 0 := by
  obtain ⟨hchain, hmember, hbinding, hlabel⟩ := o.of_isReference href
  cases hkept : o.isKept kept with
  | _ =>
      rw [hkept] at hk
      constructor
      · simp [Classification.isLookedUp, hk, hkept, href, hchain]
      · simp [hk, hkept, hkey, hmember, hbinding, hlabel]

theorem tallies_edits (kept : Bool) (s : Span) (text : String) (b : Bool) :
    Tallies kept (Context.edits s text b) [] 0 :=
  ⟨metCount_edits s text b, metCount_edits s text b⟩

theorem tallies_name (role : Role) (x : Ident) :
    Tallies c.preserves (c.nameEvents pos role x) [⟨pos.stance, .name role x⟩]
      (pos.ahead (.name role x)) := by
  cases role with
  | reference =>
      have hedits := tallies_edits c.preserves x.span (c.qualifiedText x.name) (c.qualifies pos x)
      cases pos with
      | value => exact (tallies_reference x rfl rfl (c.isExempt_classify x)).append hedits
      | written => exact (tallies_reference x rfl rfl (c.isExempt_classifyTarget x)).append hedits
      | along free =>
          have hone : Tallies c.preserves [] [⟨.inner, .name .reference x⟩] 1 := ⟨rfl, rfl⟩
          exact hone.append hedits
  | _ => cases pos <;> exact ⟨rfl, rfl⟩

/-- **A pass counts every identifier once**, and every chain that starts with `this`. -/
theorem tallies (c : Context) (pos : Position) (n : Node) :
    Tallies c.preserves (n.events c pos) (n.occurrences pos.stance) (pos.ahead n) := by
  induction n generalizing c pos with
  | name role x => exact tallies_name role x
  | thisRef s => exact tallies_within rfl (.nil _)
  | member s o object x ih =>
      have hobject := ih c (c.inward pos (.member s o object x))
      rw [Context.stance_inward] at hobject
      rw [events, occurrences, ← List.append_nil (object.occurrences _)]
      exact tallies_link (.member s o object x) object [.tally (.exempt .member)] rfl rfl rfl rfl
        hobject (.nil _)
  | index s o object key ihobject ihkey =>
      have hobject := ihobject c (c.inward pos (.index s o object key))
      have hkey := ihkey c .value
      rw [Context.stance_inward] at hobject
      rw [events, occurrences]
      exact tallies_link (.index s o object key) object [] rfl rfl rfl rfl hobject hkey
  | field s o object f ih =>
      have hobject := ih c (c.inward pos (.field s o object f))
      rw [Context.stance_inward] at hobject
      rw [events, occurrences, ← List.append_nil (_ ++ _),
        ← List.append_nil (object.occurrences _)]
      exact tallies_link (.field s o object f) object [] rfl rfl rfl rfl hobject (.nil _)
  | call s o callee args ihcallee ihargs =>
      have hcallee := ihcallee c (c.inward pos (.call s o callee args))
      have hargs := tallies_all fun n hn => ihargs n hn c .value
      rw [Context.stance_inward] at hcallee
      rw [events, occurrences]
      exact tallies_link (.call s o callee args) callee [] rfl rfl rfl rfl hcallee hargs
  | chain s element ih =>
      have helement := ih c (c.inward pos (.chain s element))
      rw [Context.stance_inward] at helement
      rw [events, occurrences, ← List.append_nil (_ ++ _),
        ← List.append_nil (element.occurrences _)]
      exact tallies_link (.chain s element) element [] rfl rfl rfl rfl helement (.nil _)
  | nonNull s value ih =>
      have hvalue := ih c (c.inward pos (.nonNull s value))
      rw [Context.stance_inward] at hvalue
      rw [events, occurrences, ← List.append_nil (_ ++ _),
        ← List.append_nil (value.occurrences _)]
      exact tallies_link (.nonNull s value) value [] rfl rfl rfl rfl hvalue (.nil _)
  | write target ih =>
      exact tallies_within rfl (ih c .written)
  | shorthandTarget s x value ih =>
      have hvalue := ih c .value
      have hedits :=
        tallies_edits c.preserves x.span (c.expandedText x.name) (c.isFreeTarget x)
      have hown : Tallies c.preserves [.note x.name (c.classifyTarget x)]
          [⟨pos.stance, .shorthandTarget s x value⟩] 0 := by
        refine tallies_reference x rfl rfl ?_
        rw [c.isExempt_classifyTarget x]
        cases pos <;> rfl
      have hall := hown.append (hvalue.append hedits)
      rw [List.append_nil] at hall
      rw [events, occurrences, Position.ahead_eq_zero pos rfl]
      exact hall
  | shorthand x =>
      have hedits := tallies_edits c.preserves x.span (c.expandedText x.name) (c.isFree x)
      have hown : Tallies c.preserves [.tally (.exempt .key), .note x.name (c.classify x)]
          [⟨pos.stance, .shorthand x⟩] 0 := by
        have hlooked := c.isExempt_classify x
        cases pos <;> constructor <;> simp [hlooked, Classification.isLookedUp] <;> rfl
      rw [Position.ahead_eq_zero pos rfl]
      exact hown.append hedits
  | declarator s symbol pattern value ihpattern ihvalue =>
      have hpattern := ihpattern (c.declaring symbol pattern value) .value
      have hvalue := ihvalue (c.declaring symbol pattern value) .value
      exact tallies_within rfl (hpattern.append hvalue)
  | form kind s parts ih =>
      have hparts := tallies_all fun n hn => ih n hn c .value
      exact tallies_within rfl hparts
  | region kind s scope parts ih =>
      have hparts := tallies_all fun n hn => ih n hn (c.enter scope) .value
      exact tallies_within rfl hparts

end Node

/-! ### The references of a census -/

/-- The object or the callee of a link is not written to. -/
theorem Stance.use_inward (stance : Stance) (site : Site) :
    site.part.use = if stance.inward = .target then .target else .value := by
  cases stance <;> rfl

/-- The nodes that are references are the references of the tree, and so for those that are
written to. -/
structure SameReferences (all : List Occurrence) (refs : List Reference) : Prop where
  references : all.countP Occurrence.isReference = refs.length
  targets : all.countP Occurrence.isTarget = refs.countP (·.use.isTarget)

namespace SameReferences

variable {all more : List Occurrence} {refs others : List Reference}

theorem nil : SameReferences [] [] := ⟨rfl, rfl⟩

theorem append (h : SameReferences all refs) (hmore : SameReferences more others) :
    SameReferences (all ++ more) (refs ++ others) := by
  constructor
  · rw [List.countP_append, List.length_append, h.references, hmore.references]
  · rw [List.countP_append, List.countP_append, h.targets, hmore.targets]

theorem perm (h : SameReferences all refs) (hperm : all.Perm more) : SameReferences more refs := by
  constructor
  · rw [← hperm.countP_eq, h.references]
  · rw [← hperm.countP_eq, h.targets]

/-- A node that is no reference may be left out. -/
theorem within {o : Occurrence} (h : SameReferences all refs) (hown : o.isReference = false) :
    SameReferences (o :: all) refs := by
  have htarget : o.isTarget = false := by
    rw [Bool.eq_false_iff]
    intro htarget
    rw [o.isReference_of_isTarget htarget] at hown
    cases hown
  constructor
  · rw [List.countP_cons_of_neg (by simp [hown]), h.references]
  · rw [List.countP_cons_of_neg (by simp [htarget]), h.targets]

end SameReferences

namespace Node

theorem sameReferences_all {site : Site} {parts : List Node}
    (h : ∀ n ∈ parts, SameReferences (n.occurrences .value) (n.referencesIn site)) :
    SameReferences (occurrencesOf parts) (referencesOf site parts) := by
  induction parts with
  | nil => exact .nil
  | cons n rest ih =>
      have hn := h n (by simp)
      have hrest := ih fun m hm => h m (by simp [hm])
      exact hn.append hrest

/-- The references of a tree are counted, and which of them are written to. -/
theorem sameReferences {stance : Stance} {site : Site} {n : Node}
    (h : site.use = if stance = .target then .target else .value) :
    SameReferences (n.occurrences stance) (n.referencesIn site) := by
  induction n generalizing stance site with
  | name role x =>
      cases role with
      | reference =>
          refine ⟨rfl, ?_⟩
          cases stance <;> simp [Occurrence.isTarget, occurrences, referencesIn, h, Use.isTarget]
      | _ => cases stance <;> exact ⟨rfl, rfl⟩
  | thisRef s => cases stance <;> exact ⟨rfl, rfl⟩
  | member s o object x ih | field s o object x ih =>
      have hobject := ih (stance.use_inward site)
      exact hobject.within rfl
  | index s o object key ihobject ihkey =>
      have hobject := ihobject (stance.use_inward site)
      have hkey : SameReferences (key.occurrences .value) (key.referencesIn site.part) := ihkey rfl
      exact (hobject.append hkey).within rfl
  | call s o callee args ihcallee ihargs =>
      have hcallee := ihcallee (stance.use_inward site)
      have hargs : SameReferences (occurrencesOf args) (referencesOf site.part args) :=
        sameReferences_all fun n hn => ihargs n hn rfl
      exact (hcallee.append hargs).within rfl
  | chain s element ih =>
      have helement := ih (stance.use_inward site)
      exact helement.within rfl
  | nonNull s value ih =>
      have hvalue := ih (stance.use_inward site)
      exact hvalue.within rfl
  | write target ih =>
      have htarget : SameReferences (target.occurrences .target)
          (target.referencesIn { site.part with use := .target, key := site.key }) := ih rfl
      exact htarget.within rfl
  | shorthandTarget s x value ih =>
      have hvalue : SameReferences (value.occurrences .value) (value.referencesIn site.part) :=
        ih rfl
      have hown : SameReferences [⟨stance, .shorthandTarget s x value⟩]
          [⟨{ site.part with use := .shorthandTarget }, x⟩] := by
        cases stance <;> exact ⟨rfl, rfl⟩
      -- The reference of a shorthand target is listed behind those of its default.
      exact (hvalue.append hown).perm (List.perm_append_singleton _ _)
  | shorthand x => cases stance <;> exact ⟨rfl, rfl⟩
  | declarator s symbol pattern value ihpattern ihvalue =>
      have hpattern : SameReferences (pattern.occurrences .value)
          (pattern.referencesIn site.part) := ihpattern rfl
      have hvalue : SameReferences (value.occurrences .value)
          (value.referencesIn { site.part with own := selfSymbol symbol pattern value }) :=
        ihvalue rfl
      exact (hpattern.append hvalue).within rfl
  | form kind s parts ih =>
      refine .within ?_ rfl
      by_cases hkind : kind = .targetDefault
      · subst hkind
        cases parts with
        | nil => exact .nil
        | cons target rest =>
            have htarget : SameReferences (target.occurrences .value)
                (target.referencesIn { site.part with key := site.key }) := ih target (by simp) rfl
            have hrest : SameReferences (occurrencesOf rest) (referencesOf site.part rest) :=
              sameReferences_all fun n hn => ih n (by simp [hn]) rfl
            exact htarget.append hrest
      · rw [referencesIn_form s parts hkind]
        exact sameReferences_all fun n hn => ih n hn rfl
  | region kind s scope parts ih =>
      have hparts : SameReferences (occurrencesOf parts)
          (referencesOf { scope := scope.or site.scope } parts) :=
        sameReferences_all fun n hn => ih n hn rfl
      exact hparts.within rfl

/-- What the census counts as references are the references of the program. -/
theorem census_references (n : Node) :
    n.census.references = n.references.length
      ∧ n.census.targets = n.references.countP (·.use.isTarget) := by
  have h : SameReferences (n.occurrences .value) n.references := sameReferences rfl
  exact ⟨h.references, h.targets⟩

end Node

/-! ### The counts of a pass -/

namespace Node

theorem countP_isKept_true (all : List Occurrence) :
    all.countP (Occurrence.isKept true) = all.countP Occurrence.isTarget := by
  refine List.countP_congr fun o _ => ?_
  rw [Occurrence.isKept, Bool.and_true]

theorem countP_isKept_false (all : List Occurrence) :
    all.countP (Occurrence.isKept false) = 0 := by
  refine List.countP_eq_zero.2 fun o _ => ?_
  rw [Occurrence.isKept, Bool.and_false]
  exact Bool.false_ne_true

theorem targets_le_references (n : Node) : n.census.targets ≤ n.census.references :=
  List.countP_mono_left fun o _ => o.isReference_of_isTarget

end Node

/--
**Every identifier is counted once.**  Whatever the tree, the frames and what the pass is told,
there are as many free names as edits.  References and chains that start with `this` are looked
up, all other identifiers are left aside; where targets are preserved, those are left aside too.
-/
theorem Scoped.stats_pass_eq_census (p : Scoped) (i : Instructions) :
    let s := (p.pass i).stats
    let t := p.tree.census
    s.free = (p.pass i).edits.length ∧ t.targets ≤ t.references ∧
      match i.policy with
      | .qualify =>
        s.bound + s.global + s.receiver + s.synthetic + s.free = t.references + t.thisChains
          ∧ s.exempt = t.bindings + t.labels + t.keys + t.properties
      | .preserve =>
        s.bound + s.global + s.receiver + s.synthetic + s.free
            = t.references - t.targets + t.thisChains
          ∧ s.exempt = t.bindings + t.labels + t.keys + t.properties + t.targets := by
  intro s t
  have htargets : t.targets ≤ t.references := p.tree.targets_le_references
  obtain ⟨hlookups, hexempt⟩ := p.tree.tallies (Context.ofScopes p.scopes i) .value
  rw [← Stats.lookups_ofEvents] at hlookups
  rw [← Stats.exempt_ofEvents] at hexempt
  refine ⟨p.free_stats_pass i, htargets, ?_⟩
  cases hpolicy : i.policy with
  | qualify =>
      have hkept : (Context.ofScopes p.scopes i).preserves = false := by
        simp [Context.preserves, Context.ofScopes, hpolicy]
      rw [hkept, Node.countP_isKept_false] at hlookups hexempt
      exact ⟨hlookups, hexempt⟩
  | preserve =>
      have hkept : (Context.ofScopes p.scopes i).preserves = true := by
        simp [Context.preserves, Context.ofScopes, hpolicy]
      rw [hkept, Node.countP_isKept_true] at hlookups hexempt
      have hall : s.bound + s.global + s.receiver + s.synthetic + s.free + t.targets
          = t.references + t.thisChains := hlookups
      refine ⟨?_, hexempt⟩
      omega

end FreeNames
