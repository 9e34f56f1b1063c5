/-
The two ways to read options.

Options are read from a text or from the value that the text stands for.  The two look at
members in different orders and report what does not fit in different words, so the
reports differ; what is accepted, and what comes of it, does not
(`Options.decoders_agree`).

The reason is that no field knows of another one.  What a decoder makes of values for
some fields is said field by field: a field with a value holds what the value stands for,
and a field without one keeps what it had (`Options.Filled`).  This names neither an order
nor the decoder, and both loops are shown to do it (`Options.decode_eq_ok_iff`).  Sorting
the members of objects inside a value changes nothing but the order in which the user's
global names are listed (`Options.Field.decode_sorted`).  None of this holds for objects
that repeat a key: a text that repeats the key of a field is refused, while a value has the
last of its members only.
-/
import FreeNames.Options.Decode
import FreeNames.Proofs.Layers
import Mathlib.Data.List.Nodup

namespace FreeNames

/-! ### Values without repeated keys -/

namespace Json

mutual

/-- Whether no object in a value repeats a key. -/
def keysDiffer : Json → Bool
  | .array items => allKeysDiffer items
  | .object members => decide (members.map (·.1)).Nodup && memberKeysDiffer members
  | _ => true

def allKeysDiffer : List Json → Bool
  | [] => true
  | x :: rest => x.keysDiffer && allKeysDiffer rest

def memberKeysDiffer : List (String × Json) → Bool
  | [] => true
  | (_, x) :: rest => x.keysDiffer && memberKeysDiffer rest

end

theorem allKeysDiffer_iff {items : List Json} :
    allKeysDiffer items = true ↔ ∀ x ∈ items, x.keysDiffer = true := by
  induction items with
  | nil => simp [allKeysDiffer]
  | cons x rest ih => rw [allKeysDiffer, Bool.and_eq_true, ih, List.forall_mem_cons]

theorem memberKeysDiffer_iff {members : List (String × Json)} :
    memberKeysDiffer members = true ↔ ∀ e ∈ members, e.2.keysDiffer = true := by
  induction members with
  | nil => simp [memberKeysDiffer]
  | cons e rest ih => rw [memberKeysDiffer, Bool.and_eq_true, ih, List.forall_mem_cons]

theorem keysDiffer_array_iff {items : List Json} :
    (Json.array items).keysDiffer = true ↔ ∀ x ∈ items, x.keysDiffer = true :=
  allKeysDiffer_iff

theorem keysDiffer_object_iff {members : List (String × Json)} :
    (Json.object members).keysDiffer = true ↔
      (members.map (·.1)).Nodup ∧ ∀ e ∈ members, e.2.keysDiffer = true := by
  rw [keysDiffer, Bool.and_eq_true, decide_eq_true_iff, memberKeysDiffer_iff]

theorem keysDiffer_object_perm {members members' : List (String × Json)}
    (h : members'.Perm members) :
    (Json.object members').keysDiffer = true ↔ (Json.object members).keysDiffer = true := by
  rw [keysDiffer_object_iff, keysDiffer_object_iff, (h.map _).nodup_iff]
  exact and_congr_right fun _ => forall_congr' fun e => imp_congr_left h.mem_iff

/-! ### Values with sorted members -/

theorem sortedItems_eq_map (items : List Json) : sortedItems items = items.map sorted := by
  induction items with
  | nil => rfl
  | cons x rest ih => rw [sortedItems, ih, List.map_cons]

theorem insertMember_perm {key : String} (x : Json) {members : List (String × Json)}
    (h : key ∉ members.map (·.1)) : (insertMember key x members).Perm ((key, x) :: members) := by
  induction members with
  | nil => exact .refl _
  | cons e rest ih =>
      rw [List.map_cons, List.mem_cons, not_or] at h
      unfold insertMember
      split
      · exact .refl _
      · rw [if_neg (by simpa using h.1)]
        exact ((ih h.2).cons e).trans (.swap ..)

/-- A member with what is in its value sorted. -/
def sortedMember (e : String × Json) : String × Json := (e.1, e.2.sorted)

theorem sortedMembers_perm {members : List (String × Json)} (h : (members.map (·.1)).Nodup) :
    (sortedMembers [] members).Perm (members.map sortedMember) := by
  have hall (acc : List (String × Json)) (hacc : ∀ e ∈ members, e.1 ∉ acc.map (·.1)) :
      (sortedMembers acc members).Perm (members.map sortedMember ++ acc) := by
    induction members generalizing acc with
    | nil => exact .refl _
    | cons e rest ih =>
        obtain ⟨hfirst, hrest⟩ := List.nodup_cons.1 h
        have hinsert := insertMember_perm e.2.sorted (hacc e List.mem_cons_self)
        refine (ih hrest _ fun d hd => ?_).trans ?_
        · rw [(hinsert.map (·.1)).mem_iff, List.map_cons, List.mem_cons, not_or]
          refine ⟨?_, hacc d (List.mem_cons_of_mem _ hd)⟩
          intro hsame
          exact hfirst (List.mem_map.2 ⟨d, hd, hsame⟩)
        · exact (hinsert.append_left _).trans List.perm_middle
  simpa using hall [] (by simp)

theorem nodup_sortedMembers {members : List (String × Json)} (h : (members.map (·.1)).Nodup) :
    ((sortedMembers [] members).map (·.1)).Nodup := by
  refine ((sortedMembers_perm h).map _).nodup_iff.2 ?_
  rw [List.map_map]
  exact h

theorem sorted_eq_null_iff {x : Json} : x.sorted = .null ↔ x = .null := by
  cases x <;> simp [sorted]

end Json

/-! ### Sets of global names -/

namespace Globals

/-- Sets with the same names and flags. -/
def Same (g g' : Globals) : Prop := ∀ name, g.get? name = g'.get? name

theorem get?_ofList_eq_some_iff {pairs : List (String × Bool)} (h : (pairs.map (·.1)).Nodup)
    {name : String} {flag : Bool} :
    (ofList pairs).get? name = some flag ↔ (name, flag) ∈ pairs := by
  have hall (g : Globals) : (pairs.foldl (fun g e => g.insert e.1 e.2) g).get? name = some flag ↔
      (name, flag) ∈ pairs ∨ name ∉ pairs.map (·.1) ∧ g.get? name = some flag := by
    induction pairs generalizing g with
    | nil => simp
    | cons e rest ih =>
        obtain ⟨hfirst, hrest⟩ := List.nodup_cons.1 h
        rw [List.foldl_cons, ih hrest, get?_insert, List.map_cons, List.mem_cons, List.mem_cons,
          not_or]
        by_cases hname : name = e.1
        · subst hname
          have hnot : (e.1, flag) ∉ rest := fun hmem => hfirst (List.mem_map.2 ⟨_, hmem, rfl⟩)
          simp [hfirst, hnot, Prod.ext_iff, eq_comm]
        · simp [hname, Prod.ext_iff]
  rw [ofList, hall]
  simp [empty, get?]

theorem flagOf_sorted (x : Json) : flagOf x.sorted = flagOf x := by
  cases x <;> rfl

/-- Which flags the names of an object have does not hang on the order of its members. -/
theorem same_ofMembers_sorted {members : List (String × Json)} (h : (members.map (·.1)).Nodup) :
    (ofMembers members).Same (ofMembers (Json.sortedMembers [] members)) := by
  have hperm : ((Json.sortedMembers [] members).map fun e => (e.1, flagOf e.2)).Perm
      (members.map fun e => (e.1, flagOf e.2)) := by
    refine ((Json.sortedMembers_perm h).map _).trans (.of_eq ?_)
    rw [List.map_map]
    exact List.map_congr_left fun e _ => Prod.ext rfl (flagOf_sorted e.2)
  have hkeys : ((members.map fun e => (e.1, flagOf e.2)).map (·.1)).Nodup := by
    rw [List.map_map]
    exact h
  intro name
  refine Option.ext fun flag => ?_
  unfold ofMembers
  rw [get?_ofList_eq_some_iff hkeys,
    get?_ofList_eq_some_iff ((hperm.map (·.1)).nodup_iff.2 hkeys), hperm.mem_iff]

end Globals

namespace Options

/-! ### Results that agree -/

/-- Both results are failures, or neither is and what they give is the same. -/
inductive Agree {α : Type} (same : α → α → Prop) : Except Problem α → Except Problem α → Prop
  | ok {a b : α} (h : same a b) : Agree same (.ok a) (.ok b)
  | error (p q : Problem) : Agree same (.error p) (.error q)

namespace Agree

variable {α β : Type} {same : α → α → Prop} {r r' : Except Problem α}

theorem of_ok_iff (hiff : (∃ a, r = .ok a) ↔ ∃ a, r' = .ok a)
    (hsame : ∀ a b, r = .ok a → r' = .ok b → same a b) : Agree same r r' := by
  cases r with
  | ok a =>
      obtain ⟨b, rfl⟩ := hiff.1 ⟨a, rfl⟩
      exact .ok (hsame a b rfl rfl)
  | error p =>
      cases r' with
      | ok b => exact absurd (hiff.2 ⟨b, rfl⟩) (by simp)
      | error q => exact .error p q

theorem of_eq (hsame : ∀ a, same a a) (h : r = r') : Agree same r r' :=
  of_ok_iff (h ▸ .rfl) fun a _ ha hb => Except.ok.inj (ha.symm.trans (h.trans hb)) ▸ hsame a

theorem exists_ok_iff (h : Agree same r r') : (∃ a, r = .ok a) ↔ ∃ a, r' = .ok a := by
  cases h <;> simp

theorem same_of_ok (h : Agree same r r') {a b : α} (ha : r = .ok a) (hb : r' = .ok b) :
    same a b := by
  subst ha hb
  cases h
  assumption

theorem both_error (h : Agree same r r') (hr : ∀ a, r ≠ .ok a) :
    (∃ p, r = .error p) ∧ ∃ p, r' = .error p := by
  cases h with
  | ok h => exact absurd rfl (hr _)
  | error p q => exact ⟨⟨p, rfl⟩, q, rfl⟩

theorem map {same' : β → β → Prop} {f : α → β} (h : Agree same r r')
    (hf : ∀ a b, same a b → same' (f a) (f b)) : Agree same' (r.map f) (r'.map f) := by
  cases h with
  | ok h => exact .ok (hf _ _ h)
  | error p q => exact .error p q

end Agree

/-! ### One field -/

/-- Whether a value stands for one of several words, by itself or as the only key of an object. -/
def Chooses {α : Type} (choices : List (String × α)) (value : Json) (a : α) : Prop :=
  ∃ word, choices.lookup word = some a ∧ (value = .string word ∨ value = .object [(word, .null)])

section
variable {α : Type} {choices : List (String × α)} {value : Json} {a : α}

theorem choose_eq_ok_iff {word : String} :
    choose choices word = .ok a ↔ choices.lookup word = some a := by
  unfold choose
  cases choices.lookup word <;> simp

theorem chooseKey_eq_ok_iff {key : String} :
    chooseKey choices key value = .ok a ↔ choices.lookup key = some a ∧ value = .null := by
  unfold chooseKey choose
  cases choices.lookup key with
  | none => simp [bind, Except.bind]
  | some b => cases value <;> simp [bind, Except.bind, pure, Except.pure]

/-- A choice is read the same from a text and from a value. -/
theorem decodeChoice_eq_ok_iff (origin : Origin) :
    decodeChoice origin choices value = .ok a ↔ Chooses choices value a := by
  unfold Chooses
  cases value with
  | string word => simp [decodeChoice, choose_eq_ok_iff]
  | object members =>
      match members with
      | [] => cases origin <;> simp [decodeChoice]
      | [(key, value)] => simp [decodeChoice, chooseKey_eq_ok_iff, and_comm]
      | (key, value) :: second :: rest =>
          cases origin with
          | value => simp [decodeChoice]
          | text =>
              simp only [decodeChoice]
              cases chooseKey choices key value <;> simp [bind, Except.bind]
  | _ => cases origin <;> simp [decodeChoice]

theorem chooses_sorted (h : value.keysDiffer = true) :
    Chooses choices value.sorted a ↔ Chooses choices value a := by
  unfold Chooses
  cases value with
  | object members =>
      obtain ⟨hnodup, -⟩ := Json.keysDiffer_object_iff.1 h
      have hone (word : String) : Json.sortedMembers [] members = [(word, .null)]
          ↔ members = [(word, .null)] := by
        constructor
        · intro hsorted
          have hperm := Json.sortedMembers_perm hnodup
          rw [hsorted] at hperm
          obtain ⟨e, rfl, he⟩ := List.map_eq_singleton_iff.1 (List.perm_singleton.1 hperm.symm)
          obtain ⟨key, x⟩ := e
          have hkey : key = word := congrArg (·.1) he
          have hnull : x.sorted = .null := congrArg (·.2) he
          rw [hkey, Json.sorted_eq_null_iff.1 hnull]
        · rintro rfl
          rfl
      simp [Json.sorted, hone]
  | array items => simp [Json.sorted]
  | _ => rfl

end

/-- The user's global names from a value. -/
def decodeUser : Json → Except Problem (Option UserGlobals)
  | .null => .ok none
  | value => (decodeGlobals value).map some

namespace Field

/-- What a field holds. -/
def Content : Field → Type
  | .environments => List String
  | .globals => Option UserGlobals
  | .strict => Bool
  | .receiver => String
  | .policy => TargetPolicy
  | .sourceKind => SourceKind
  | .directory => Option String

def get : (field : Field) → Options → field.Content
  | .environments, o => o.environments
  | .globals, o => o.globals
  | .strict, o => o.strict
  | .receiver, o => o.receiver
  | .policy, o => o.policy
  | .sourceKind, o => o.sourceKind
  | .directory, o => o.directory

def put : (field : Field) → field.Content → Options → Options
  | .environments, x, o => { o with environments := x }
  | .globals, x, o => { o with globals := x }
  | .strict, x, o => { o with strict := x }
  | .receiver, x, o => { o with receiver := x }
  | .policy, x, o => { o with policy := x }
  | .sourceKind, x, o => { o with sourceKind := x }
  | .directory, x, o => { o with directory := x }

/-- What a value stands for in a field. -/
def decode (origin : Origin) : (field : Field) → Json → Except Problem field.Content
  | .environments, value => decodeEnvironments value
  | .globals, value => decodeUser value
  | .strict, value => decodeFlag value
  | .receiver, value => decodeString value
  | .policy, value => decodeChoice origin policies value
  | .sourceKind, value => decodeChoice origin sourceKinds value
  | .directory, value => decodePath value

variable {field other : Field} {o o' : Options}

@[simp] theorem get_put (field : Field) (x : field.Content) (o : Options) :
    field.get (field.put x o) = x := by
  cases field <;> rfl

theorem get_put_of_ne (h : other ≠ field) (x : field.Content) (o : Options) :
    other.get (field.put x o) = other.get o := by
  cases field <;> cases other <;> first | rfl | exact absurd rfl h

/-- Options are their fields. -/
theorem eq_of_get (h : ∀ field : Field, field.get o = field.get o') : o = o' := by
  have henvironments : o.environments = o'.environments := h .environments
  have hglobals : o.globals = o'.globals := h .globals
  have hstrict : o.strict = o'.strict := h .strict
  have hreceiver : o.receiver = o'.receiver := h .receiver
  have hpolicy : o.policy = o'.policy := h .policy
  have hkind : o.sourceKind = o'.sourceKind := h .sourceKind
  have hdirectory : o.directory = o'.directory := h .directory
  cases o
  cases o'
  simp_all only

/-- Setting a field puts into it what the value stands for. -/
theorem set_eq (origin : Origin) (o : Options) (field : Field) (value : Json) :
    o.set origin field value = (field.decode origin value).map (field.put · o) := by
  cases field with
  | globals =>
      cases value with
      | null => rfl
      | _ => exact (bind_pure_comp ..).trans (Functor.map_map some (Field.globals.put · o) _).symm
  | _ => exact bind_pure_comp ..

/-- No field asks whether it is read from a text or from a value. -/
theorem decode_eq_ok_iff (origin : Origin) {value : Json} {x : field.Content} :
    field.decode origin value = .ok x ↔ field.decode .value value = .ok x := by
  cases field with
  | policy => exact (decodeChoice_eq_ok_iff origin).trans (decodeChoice_eq_ok_iff .value).symm
  | sourceKind => exact (decodeChoice_eq_ok_iff origin).trans (decodeChoice_eq_ok_iff .value).symm
  | _ => rfl

theorem set_eq_ok_iff (origin : Origin) {value : Json} :
    o.set origin field value = .ok o' ↔
      ∃ x, field.decode .value value = .ok x ∧ field.put x o = o' := by
  simp only [← decode_eq_ok_iff origin, set_eq]
  cases field.decode origin value <;> simp [Except.map]

end Field

/-! ### Several fields -/

/-- The options that come from others when fields are given values. -/
structure Filled (given : List (Field × Json)) (base o : Options) : Prop where
  /-- A field with a value holds what the value stands for. -/
  holds : ∀ e ∈ given, e.1.decode .value e.2 = .ok (e.1.get o)
  /-- A field without a value keeps what it had. -/
  rest : ∀ field ∉ given.map (·.1), field.get o = field.get base

section
variable {given given' : List (Field × Json)} {field : Field} {value : Json} {base o o' : Options}

theorem filled_nil : Filled [] base o ↔ o = base := by
  constructor
  · intro h
    exact Field.eq_of_get fun field => h.rest field (by simp)
  · rintro rfl
    exact ⟨by simp, fun _ _ => rfl⟩

theorem filled_cons (hnew : field ∉ given.map (·.1)) :
    Filled ((field, value) :: given) base o ↔
      ∃ x, field.decode .value value = .ok x ∧ Filled given (field.put x base) o := by
  constructor
  · rintro ⟨hholds, hrest⟩
    refine ⟨field.get o, hholds _ List.mem_cons_self,
      fun e he => hholds e (List.mem_cons_of_mem _ he), fun other hother => ?_⟩
    by_cases hsame : other = field
    · subst hsame
      exact (Field.get_put ..).symm
    · rw [Field.get_put_of_ne hsame]
      exact hrest other (by simp_all)
  · rintro ⟨x, hx, hholds, hrest⟩
    have hfield : field.get o = x := (hrest field hnew).trans (Field.get_put ..)
    refine ⟨List.forall_mem_cons.2 ⟨hfield ▸ hx, hholds⟩, fun other hother => ?_⟩
    rw [List.map_cons, List.mem_cons, not_or] at hother
    exact (hrest other hother.2).trans (Field.get_put_of_ne hother.1 ..)

/-- The order in which fields are given their values does not count. -/
theorem filled_perm (h : given.Perm given') : Filled given base o ↔ Filled given' base o := by
  have hall {given given' : List (Field × Json)} (h : given.Perm given')
      (hfilled : Filled given base o) : Filled given' base o :=
    ⟨fun e he => hfilled.holds e (h.mem_iff.2 he),
      fun field hfield => hfilled.rest field fun hin => hfield ((h.map _).mem_iff.1 hin)⟩
  exact ⟨hall h, hall h.symm⟩

theorem exists_filled (hnodup : (given.map (·.1)).Nodup) :
    (∃ o, Filled given base o) ↔ ∀ e ∈ given, ∃ x, e.1.decode .value e.2 = .ok x := by
  induction given generalizing base with
  | nil => simp [filled_nil]
  | cons e rest ih =>
      obtain ⟨hfirst, hrest⟩ := List.nodup_cons.1 hnodup
      rw [List.forall_mem_cons]
      constructor
      · rintro ⟨o, ho⟩
        obtain ⟨x, hx, hfilled⟩ := (filled_cons hfirst).1 ho
        exact ⟨⟨x, hx⟩, (ih hrest).1 ⟨o, hfilled⟩⟩
      · rintro ⟨⟨x, hx⟩, hvalues⟩
        obtain ⟨o, ho⟩ : ∃ o, Filled rest (e.1.put x base) o := (ih hrest).2 hvalues
        exact ⟨o, (filled_cons hfirst).2 ⟨x, hx, ho⟩⟩

end

theorem bind_eq_ok_iff {α β : Type} {r : Except Problem α} {f : α → Except Problem β} {b : β} :
    r >>= f = .ok b ↔ ∃ a, r = .ok a ∧ f a = .ok b := by
  cases r <;> simp [bind, Except.bind]

/-- What setting one more field first does to a way of filling others. -/
theorem set_bind_eq_ok_iff (origin : Origin) {given : List (Field × Json)} {field : Field}
    {value : Json} {base o : Options} {next : Options → Except Problem Options} {fits : Prop}
    (hnew : field ∉ given.map (·.1))
    (hnext : ∀ base, next base = .ok o ↔ fits ∧ Filled given base o) :
    base.set origin field value >>= next = .ok o ↔
      fits ∧ Filled ((field, value) :: given) base o := by
  rw [bind_eq_ok_iff, filled_cons hnew]
  simp only [Field.set_eq_ok_iff, hnext]
  constructor
  · rintro ⟨-, ⟨x, hx, rfl⟩, hfits, hfilled⟩
    exact ⟨hfits, x, hx, hfilled⟩
  · rintro ⟨hfits, x, hx, hfilled⟩
    exact ⟨_, ⟨x, hx, rfl⟩, hfits, hfilled⟩

/-! ### Members and items -/

theorem Field.ofKey?_eq_some_iff {key : String} {field : Field} :
    Field.ofKey? key = some field ↔ (key, field) ∈ Problem.keys.zip Field.all := by
  constructor
  · intro h
    obtain ⟨before, after, hsplit, -⟩ := List.lookup_eq_some_iff.1 h
    rw [hsplit]
    exact List.mem_append_right _ List.mem_cons_self
  · have hall : ∀ e ∈ Problem.keys.zip Field.all, Field.ofKey? e.1 = some e.2 := by decide
    exact hall _

theorem Field.ofKey?_injective {key key' : String} {field : Field}
    (h : Field.ofKey? key = some field) (h' : Field.ofKey? key' = some field) : key = key' := by
  have hall : ∀ e ∈ Problem.keys.zip Field.all, ∀ e' ∈ Problem.keys.zip Field.all,
      e.2 = e'.2 → e.1 = e'.1 := by decide
  exact hall _ (Field.ofKey?_eq_some_iff.1 h) _ (Field.ofKey?_eq_some_iff.1 h') rfl

theorem Field.isSome_ofKey?_iff {key : String} :
    (Field.ofKey? key).isSome ↔ key ∈ Problem.keys := by
  have hkeys : Problem.keys = (Problem.keys.zip Field.all).map (·.1) := rfl
  rw [Option.isSome_iff_exists, hkeys, List.mem_map]
  constructor
  · rintro ⟨field, h⟩
    exact ⟨_, Field.ofKey?_eq_some_iff.1 h, rfl⟩
  · rintro ⟨e, he, rfl⟩
    exact ⟨e.2, Field.ofKey?_eq_some_iff.2 he⟩

/-- The fields that members set, with their values. -/
def givenMembers (members : List (String × Json)) : List (Field × Json) :=
  members.filterMap fun e => (Field.ofKey? e.1).map (·, e.2)

section
variable {members : List (String × Json)} {items : List Json} {base o : Options}

theorem mem_givenMembers {e : Field × Json} :
    e ∈ givenMembers members ↔ ∃ key, (key, e.2) ∈ members ∧ Field.ofKey? key = some e.1 := by
  unfold givenMembers
  rw [List.mem_filterMap]
  constructor
  · rintro ⟨⟨key, value⟩, hmem, h⟩
    obtain ⟨field, hfield, rfl⟩ := Option.map_eq_some_iff.1 h
    exact ⟨key, hmem, hfield⟩
  · rintro ⟨key, hmem, hfield⟩
    exact ⟨_, hmem, Option.map_eq_some_iff.2 ⟨_, hfield, rfl⟩⟩

theorem mem_map_givenMembers {field : Field} : field ∈ (givenMembers members).map (·.1) ↔
    ∃ key ∈ members.map (·.1), Field.ofKey? key = some field := by
  simp only [List.mem_map]
  constructor
  · rintro ⟨e, he, rfl⟩
    obtain ⟨key, hmem, hfield⟩ := mem_givenMembers.1 he
    exact ⟨key, ⟨_, hmem, rfl⟩, hfield⟩
  · rintro ⟨-, ⟨e, hmem, rfl⟩, hfield⟩
    exact ⟨(field, e.2), mem_givenMembers.2 ⟨e.1, hmem, hfield⟩, rfl⟩

theorem nodup_givenMembers (h : (members.map (·.1)).Nodup) :
    ((givenMembers members).map (·.1)).Nodup := by
  have hfields : (givenMembers members).map (·.1) = (members.map (·.1)).filterMap Field.ofKey? := by
    rw [givenMembers, List.map_filterMap, List.filterMap_map]
    congr 1
    funext e
    simp [Option.map_map, Function.comp_def]
  rw [hfields]
  exact List.Nodup.filterMap (fun _ _ _ hkey hkey' => Field.ofKey?_injective hkey hkey') h

/-- Going through members one by one fills the fields of their keys, if all are known. -/
theorem setMembers_eq_ok_iff (origin : Origin) {seen : List Field}
    (hnodup : (members.map (·.1)).Nodup)
    (hseen : ∀ field ∈ (givenMembers members).map (·.1), field ∉ seen) :
    setMembers origin base seen members = .ok o ↔
      (∀ e ∈ members, e.1 ∈ Problem.keys) ∧ Filled (givenMembers members) base o := by
  induction members generalizing base seen with
  | nil => simp [setMembers, givenMembers, filled_nil, eq_comm]
  | cons e rest ih =>
      obtain ⟨key, value⟩ := e
      obtain ⟨-, hrest⟩ := List.nodup_cons.1 hnodup
      rw [List.forall_mem_cons, ← Field.isSome_ofKey?_iff, setMembers]
      cases hfield : Field.ofKey? key with
      | none => simp
      | some field =>
          have hgiven : givenMembers ((key, value) :: rest) = (field, value) :: givenMembers rest :=
            List.filterMap_cons_some (by rw [hfield]; rfl)
          have hfields := nodup_givenMembers hnodup
          rw [hgiven] at hseen hfields ⊢
          obtain ⟨hnew, -⟩ := List.nodup_cons.1 hfields
          have hnext (other : Field) (hother : other ∈ (givenMembers rest).map (·.1)) :
              other ∉ field :: seen := by
            rw [List.mem_cons, not_or]
            exact ⟨fun hsame => hnew (hsame ▸ hother), hseen _ (List.mem_cons_of_mem _ hother)⟩
          have hnot : seen.contains field = false := by
            simpa using hseen field List.mem_cons_self
          rw [Option.isSome_some, eq_self, true_and]
          simp only [hnot, Bool.false_eq_true, if_false]
          exact set_bind_eq_ok_iff origin hnew fun base => ih hrest hnext

/-- Going through a list of values fills the fields in their order, if there are enough. -/
theorem setItems_eq_ok_iff (origin : Origin) (count : Nat) {fields : List Field}
    (hnodup : fields.Nodup) :
    setItems origin count base fields items = .ok o ↔
      items.length ≤ fields.length ∧ Filled (fields.zip items) base o := by
  induction items generalizing base fields with
  | nil => simp [setItems, filled_nil, eq_comm]
  | cons value rest ih =>
      cases fields with
      | nil => cases origin <;> simp [setItems]
      | cons field fields =>
          obtain ⟨hfirst, hfields⟩ := List.nodup_cons.1 hnodup
          have hnew : field ∉ (fields.zip rest).map (·.1) := by
            intro hin
            obtain ⟨e, he, rfl⟩ := List.mem_map.1 hin
            exact hfirst (List.of_mem_zip he).1
          rw [setItems, List.length_cons, List.length_cons, Nat.succ_le_succ_iff,
            List.zip_cons_cons]
          exact set_bind_eq_ok_iff origin hnew fun base => ih hfields

end

/-! ### Values with sorted members -/

/-- The same user's globals; names with flags are a set. -/
inductive SameUser : Option UserGlobals → Option UserGlobals → Prop
  | refl (user : Option UserGlobals) : SameUser user user
  | table {g g' : Globals} (h : g.Same g') : SameUser (some (.table g)) (some (.table g'))

/-- The same content of a field. -/
def Field.Same : (field : Field) → field.Content → field.Content → Prop
  | .globals, x, y => SameUser x y
  | _, x, y => x = y

/-- The same options; names with flags are a set. -/
def Same (o o' : Options) : Prop := ∀ field : Field, field.Same (field.get o) (field.get o')

section
variable {value : Json} {field : Field}

theorem Field.same_refl (x : field.Content) : field.Same x x := by
  cases field with
  | globals => exact .refl x
  | _ => rfl

theorem string?_sorted (value : Json) : string? value.sorted = string? value := by
  cases value <;> rfl

theorem decodeNames_sorted (items : List Json) :
    Agree Eq (decodeNames items) (decodeNames (items.map Json.sorted)) := by
  induction items with
  | nil => exact .ok rfl
  | cons x rest ih =>
      cases x with
      | string s => exact ih.map fun _ _ h => congrArg (s :: ·) h
      | _ => exact .error ..

theorem decodeEnvironments_sorted (value : Json) :
    decodeEnvironments value.sorted = decodeEnvironments value := by
  cases value with
  | array items =>
      have hitems : (items.map Json.sorted).mapM string? = items.mapM string? := by
        rw [List.mapM_map]
        exact congrArg (items.mapM ·) (funext string?_sorted)
      simp [Json.sorted, Json.sortedItems_eq_map, decodeEnvironments, hitems]
  | _ => rfl

theorem decodeUser_sorted (h : value.keysDiffer = true) :
    Agree SameUser (decodeUser value) (decodeUser value.sorted) := by
  cases value with
  | array items =>
      rw [Json.sorted, Json.sortedItems_eq_map]
      have hnames : Agree Eq (decodeGlobals (.array items))
          (decodeGlobals (.array (items.map Json.sorted))) :=
        (decodeNames_sorted items).map fun _ _ h => congrArg UserGlobals.names h
      exact hnames.map fun _ _ h => h ▸ .refl _
  | object members => exact .ok (.table (Globals.same_ofMembers_sorted (Json.keysDiffer_object_iff.1 h).1))
  | null => exact .ok (.refl _)
  | string path => exact .ok (.refl _)
  | _ => exact .error ..

theorem decodeChoice_sorted {α : Type} (choices : List (String × α)) (h : value.keysDiffer = true) :
    Agree Eq (decodeChoice .value choices value) (decodeChoice .value choices value.sorted) := by
  have hsame (a : α) : decodeChoice .value choices value = .ok a ↔
      decodeChoice .value choices value.sorted = .ok a := by
    rw [decodeChoice_eq_ok_iff, decodeChoice_eq_ok_iff, chooses_sorted h]
  refine .of_ok_iff (exists_congr hsame) fun a b ha hb => ?_
  exact Except.ok.inj (((hsame a).1 ha).symm.trans hb)

/-- Sorting members does not change what a value stands for in a field. -/
theorem Field.decode_sorted (field : Field) (h : value.keysDiffer = true) :
    Agree field.Same (field.decode .value value) (field.decode .value value.sorted) := by
  cases field with
  | environments => exact .of_eq Field.same_refl (decodeEnvironments_sorted value).symm
  | globals => exact decodeUser_sorted h
  | policy => exact decodeChoice_sorted policies h
  | sourceKind => exact decodeChoice_sorted sourceKinds h
  | _ => cases value <;> first | exact .error .. | exact .ok rfl

/-- A field with the members sorted in its value. -/
def sortedValue (e : Field × Json) : Field × Json := (e.1, e.2.sorted)

theorem map_fst_sortedValue (given : List (Field × Json)) :
    (given.map sortedValue).map (·.1) = given.map (·.1) := by
  rw [List.map_map]
  rfl

theorem filled_sorted {given : List (Field × Json)} {base o o' : Options}
    (hkeys : ∀ e ∈ given, e.2.keysDiffer = true) (h : Filled given base o)
    (h' : Filled (given.map sortedValue) base o') : o.Same o' := by
  intro field
  by_cases hfield : field ∈ given.map (·.1)
  · obtain ⟨e, he, rfl⟩ := List.mem_map.1 hfield
    exact (e.1.decode_sorted (hkeys e he)).same_of_ok (h.holds e he)
      (h'.holds _ (List.mem_map_of_mem he))
  · rw [h.rest field hfield, h'.rest field (by rwa [map_fst_sortedValue])]
    exact Field.same_refl _

theorem exists_filled_sorted {given : List (Field × Json)} {base : Options}
    (hnodup : (given.map (·.1)).Nodup) (hkeys : ∀ e ∈ given, e.2.keysDiffer = true) :
    (∃ o, Filled given base o) ↔ ∃ o, Filled (given.map sortedValue) base o := by
  rw [exists_filled hnodup, exists_filled (by rwa [map_fst_sortedValue]), List.forall_mem_map]
  exact forall₂_congr fun e he => (e.1.decode_sorted (hkeys e he)).exists_ok_iff

end

/-! ### Whole options -/

/-- The fields that a value gives values for, if it is a list or an object that options fit. -/
def given? : Json → Option (List (Field × Json))
  | .object members =>
    if ∀ e ∈ members, e.1 ∈ Problem.keys then some (givenMembers members) else none
  | .array items =>
    if items.length ≤ Field.all.length then some (Field.all.zip items) else none
  | _ => none

section
variable {value : Json} {members members' : List (String × Json)} {o : Options}

theorem given?_object_perm (h : members'.Perm members) :
    Option.Rel List.Perm (given? (.object members')) (given? (.object members)) := by
  have hkeys : (∀ e ∈ members', e.1 ∈ Problem.keys) ↔ ∀ e ∈ members, e.1 ∈ Problem.keys :=
    forall_congr' fun e => imp_congr_left h.mem_iff
  rw [given?, given?, if_congr hkeys rfl rfl]
  split
  · exact .some (h.filterMap _)
  · exact .none

theorem givenMembers_map_sortedMember (members : List (String × Json)) :
    givenMembers (members.map Json.sortedMember) = (givenMembers members).map sortedValue := by
  unfold givenMembers
  rw [List.filterMap_map, List.map_filterMap]
  congr 1
  funext e
  simp [Json.sortedMember, sortedValue, Option.map_map, Function.comp_def]

/-- Sorting the members of a value gives the same fields the same values, sorted as well. -/
theorem given?_sorted (h : value.keysDiffer = true) :
    Option.Rel List.Perm (given? value.sorted) ((given? value).map (List.map sortedValue)) := by
  cases value with
  | object members =>
      have hperm := Json.sortedMembers_perm (Json.keysDiffer_object_iff.1 h).1
      have hsame : given? (.object (members.map Json.sortedMember)) =
          (given? (.object members)).map (List.map sortedValue) := by
        rw [given?, given?, givenMembers_map_sortedMember,
          apply_ite (Option.map (List.map sortedValue))]
        exact if_congr List.forall_mem_map rfl rfl
      exact hsame ▸ given?_object_perm hperm
  | array items =>
      rw [Json.sorted, Json.sortedItems_eq_map, given?, given?, List.length_map,
        List.zip_map_right]
      split
      · exact .some (.refl _)
      · exact .none
  | _ => exact .none

theorem exists_filled_congr {given given' : Option (List (Field × Json))}
    (h : Option.Rel List.Perm given given') :
    (∃ g, given = some g ∧ Filled g {} o) ↔ ∃ g, given' = some g ∧ Filled g {} o := by
  cases h with
  | some h => simp [filled_perm h]
  | none => simp

/-- What decoding gives is said by the fields that have values alone. -/
theorem decode_eq_ok_iff (origin : Origin)
    (hnodup : ∀ members, value = .object members → (members.map (·.1)).Nodup) :
    decode origin value = .ok o ↔ ∃ given, given? value = some given ∧ Filled given {} o := by
  cases value with
  | object members =>
      rw [decode, setMembers_eq_ok_iff origin (hnodup _ rfl) (by simp), given?]
      simp only [Option.ite_none_right_eq_some, Option.some.injEq, and_assoc, exists_and_left,
        exists_eq_left']
  | array items =>
      have hfields : Field.all.Nodup := by decide
      rw [decode, setItems_eq_ok_iff origin _ hfields, given?]
      simp only [Option.ite_none_right_eq_some, Option.some.injEq, and_assoc, exists_and_left,
        exists_eq_left']
  | _ => simp [decode, given?]

theorem nodup_of_keysDiffer (h : value.keysDiffer = true) :
    ∀ members, value = .object members → (members.map (·.1)).Nodup := by
  rintro members rfl
  exact (Json.keysDiffer_object_iff.1 h).1

theorem ofText_eq_ok_iff {text : String} (hread : readJson? text = some value)
    (h : value.keysDiffer = true) :
    ofText text = .ok o ↔ ∃ given, given? value = some given ∧ Filled given {} o := by
  unfold ofText
  rw [hread]
  exact decode_eq_ok_iff .text (nodup_of_keysDiffer h)

theorem ofJson_eq_ok_iff (h : value.keysDiffer = true) :
    ofJson value = .ok o ↔
      ∃ given, given? value = some given ∧ Filled (given.map sortedValue) {} o := by
  have hnodup : ∀ members, value.sorted = .object members → (members.map (·.1)).Nodup := by
    cases value with
    | object members =>
        rintro - ⟨⟩
        exact Json.nodup_sortedMembers (Json.keysDiffer_object_iff.1 h).1
    | _ => simp [Json.sorted]
  rw [ofJson, decode_eq_ok_iff .value hnodup, exists_filled_congr (given?_sorted h)]
  simp only [Option.map_eq_some_iff]
  constructor
  · rintro ⟨-, ⟨given, hgiven, rfl⟩, hfilled⟩
    exact ⟨given, hgiven, hfilled⟩
  · rintro ⟨given, hgiven, hfilled⟩
    exact ⟨_, ⟨given, hgiven, rfl⟩, hfilled⟩

theorem spec_of_given? (h : value.keysDiffer = true) {given : List (Field × Json)}
    (hgiven : given? value = some given) :
    (given.map (·.1)).Nodup ∧ ∀ e ∈ given, e.2.keysDiffer = true := by
  cases value with
  | object members =>
      obtain ⟨hnodup, hvalues⟩ := Json.keysDiffer_object_iff.1 h
      obtain ⟨-, hmembers⟩ := Option.ite_none_right_eq_some.1 hgiven
      obtain rfl := Option.some.inj hmembers
      refine ⟨nodup_givenMembers hnodup, fun e he => ?_⟩
      obtain ⟨key, hmem, -⟩ := mem_givenMembers.1 he
      exact hvalues _ hmem
  | array items =>
      obtain ⟨hlength, hzip⟩ := Option.ite_none_right_eq_some.1 hgiven
      obtain rfl := Option.some.inj hzip
      have hfields : Field.all.Nodup := by decide
      refine ⟨?_, fun e he => Json.keysDiffer_array_iff.1 h _ (List.of_mem_zip he).2⟩
      rw [List.zip_eq_zip_take_min, List.map_fst_zip (by simp)]
      exact hfields.sublist (List.take_sublist ..)
  | _ => cases hgiven

theorem agree_ofText_ofJson {text : String} (hread : readJson? text = some value)
    (h : value.keysDiffer = true) : Agree Same (ofText text) (ofJson value) := by
  refine .of_ok_iff ?_ fun o o' ho ho' => ?_
  · constructor
    · rintro ⟨o, ho⟩
      obtain ⟨given, hgiven, hfilled⟩ := (ofText_eq_ok_iff hread h).1 ho
      obtain ⟨hnodup, hkeys⟩ := spec_of_given? h hgiven
      obtain ⟨o', hfilled'⟩ := (exists_filled_sorted hnodup hkeys).1 ⟨o, hfilled⟩
      exact ⟨o', (ofJson_eq_ok_iff h).2 ⟨given, hgiven, hfilled'⟩⟩
    · rintro ⟨o', ho'⟩
      obtain ⟨given, hgiven, hfilled'⟩ := (ofJson_eq_ok_iff h).1 ho'
      obtain ⟨hnodup, hkeys⟩ := spec_of_given? h hgiven
      obtain ⟨o, hfilled⟩ := (exists_filled_sorted hnodup hkeys).2 ⟨o', hfilled'⟩
      exact ⟨o, (ofText_eq_ok_iff hread h).2 ⟨given, hgiven, hfilled⟩⟩
  · obtain ⟨given, hgiven, hfilled⟩ := (ofText_eq_ok_iff hread h).1 ho
    obtain ⟨given', hgiven', hfilled'⟩ := (ofJson_eq_ok_iff h).1 ho'
    obtain rfl := Option.some.inj (hgiven.symm.trans hgiven')
    exact filled_sorted (spec_of_given? h hgiven).2 hfilled hfilled'

theorem ofText_perm {text text' : String} (hread : readJson? text = some (.object members))
    (hread' : readJson? text' = some (.object members'))
    (h : (Json.object members).keysDiffer = true) (hperm : members'.Perm members) :
    ofText text' = .ok o ↔ ofText text = .ok o := by
  rw [ofText_eq_ok_iff hread h, ofText_eq_ok_iff hread' ((Json.keysDiffer_object_perm hperm).2 h)]
  exact exists_filled_congr (given?_object_perm hperm)

theorem ofJson_perm (h : (Json.object members).keysDiffer = true) (hperm : members'.Perm members) :
    ofJson (.object members') = .ok o ↔ ofJson (.object members) = .ok o := by
  rw [ofJson_eq_ok_iff h, ofJson_eq_ok_iff ((Json.keysDiffer_object_perm hperm).2 h)]
  have hgiven := given?_object_perm hperm
  generalize given? (.object members') = given', given? (.object members) = given at hgiven
  cases hgiven with
  | some hgiven => simp [filled_perm (hgiven.map sortedValue)]
  | none => simp

theorem not_mem_of_given? {given : List (Field × Json)} {key : String} {field : Field}
    (hgiven : given? (.object members) = some given) (hkey : Field.ofKey? key = some field)
    (habsent : key ∉ members.map (·.1)) : field ∉ given.map (·.1) := by
  obtain ⟨-, hmembers⟩ := Option.ite_none_right_eq_some.1 hgiven
  obtain rfl := Option.some.inj hmembers
  rw [mem_map_givenMembers]
  rintro ⟨key', hin, hkey'⟩
  exact habsent (Field.ofKey?_injective hkey hkey' ▸ hin)

/-- A field without a member keeps its default. -/
theorem get_eq_of_absent {text : String} (hread : readJson? text = some (.object members))
    (h : (Json.object members).keysDiffer = true)
    (ho : ofText text = .ok o ∨ ofJson (.object members) = .ok o) {key : String} {field : Field}
    (hkey : Field.ofKey? key = some field) (habsent : key ∉ members.map (·.1)) :
    field.get o = field.get {} := by
  rcases ho with ho | ho
  · obtain ⟨given, hgiven, hfilled⟩ := (ofText_eq_ok_iff hread h).1 ho
    exact hfilled.rest field (not_mem_of_given? hgiven hkey habsent)
  · obtain ⟨given, hgiven, hfilled⟩ := (ofJson_eq_ok_iff h).1 ho
    refine hfilled.rest field ?_
    rw [map_fst_sortedValue]
    exact not_mem_of_given? hgiven hkey habsent

/-- A member of no field makes decoding fail. -/
theorem ofText_ne_ok_of_unknown {text : String}
    (hread : readJson? text = some (.object members))
    (h : (Json.object members).keysDiffer = true) {key : String} (hin : key ∈ members.map (·.1))
    (hunknown : key ∉ Problem.keys) : ofText text ≠ .ok o := by
  intro ho
  obtain ⟨given, hgiven, -⟩ := (ofText_eq_ok_iff hread h).1 ho
  obtain ⟨hknown, -⟩ := Option.ite_none_right_eq_some.1 hgiven
  obtain ⟨e, he, rfl⟩ := List.mem_map.1 hin
  exact hunknown (hknown e he)

/-- **What is read from a text and what is read from the value the text stands for are the same
options, or neither can be read.  For an object this does not hang on the order of its members,
a field without a member keeps its default, and a member of no field makes both fail.** -/
theorem decoders_agree {text : String} (hread : readJson? text = some value)
    (h : value.keysDiffer = true) :
    Agree Same (ofText text) (ofJson value) ∧
    ∀ members, value = .object members →
      (∀ members' : List (String × Json), members'.Perm members →
        (∀ o, ofJson (.object members') = .ok o ↔ ofJson value = .ok o) ∧
        ∀ text', readJson? text' = some (.object members') →
          ∀ o, ofText text' = .ok o ↔ ofText text = .ok o) ∧
      (∀ o, ofText text = .ok o ∨ ofJson value = .ok o → ∀ key field,
        Field.ofKey? key = some field → key ∉ members.map (·.1) → field.get o = field.get {}) ∧
      (∀ key ∈ members.map (·.1), key ∉ Problem.keys →
        (∃ p, ofText text = .error p) ∧ ∃ p, ofJson value = .error p) := by
  have hagree := agree_ofText_ofJson hread h
  refine ⟨hagree, ?_⟩
  rintro members rfl
  refine ⟨fun members' hperm => ⟨fun o => ofJson_perm h hperm, fun text' hread' o => ?_⟩,
    fun o ho key field hkey habsent => get_eq_of_absent hread h ho hkey habsent,
    fun key hin hunknown => ?_⟩
  · exact ofText_perm hread hread' h hperm
  · exact hagree.both_error fun o => ofText_ne_ok_of_unknown hread h hin hunknown

/-- A text with members in no order. -/
def shuffledText : String :=
  "\x7b\"strict\": true, \"env\": \"node\", \"globals\": \x7b\"b\": \"writable\", \"a\": false\x7d\x7d"

def shuffledValue : Json :=
  .object [("strict", .bool true), ("env", .string "node"),
    ("globals", .object [("b", .string "writable"), ("a", .bool false)])]

theorem decoders_agree_shuffled :
    readJson? shuffledText = some shuffledValue ∧ shuffledValue.keysDiffer = true ∧
      (ofText shuffledText).isOk = true ∧
      Agree Same (ofText shuffledText) (ofJson shuffledValue) := by
  have hread : readJson? shuffledText = some shuffledValue := by cbv
  have hkeys : shuffledValue.keysDiffer = true := by decide
  exact ⟨hread, hkeys, by decide +kernel, (decoders_agree hread hkeys).1⟩

end

end Options

end FreeNames
