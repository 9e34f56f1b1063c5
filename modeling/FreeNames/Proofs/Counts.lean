/-
The counts of a pass.

A name is counted where its verdict is reached, and edited where it stands.  For a
name at the start of a chain these are two places: the verdict is reached where the
chain is entered, and then carried along it.  So a chain that is come upon with the
verdict that it starts free owes one edit more than it counts free names
(`Position.owed`), and nothing else owes any.
-/
import FreeNames.Proofs.References

namespace FreeNames

/-- How many names are counted as free. -/
def freeCount (events : List Event) : Nat :=
  (events.filterMap Event.classification?).count .free

/-- How many edits are made. -/
def editCount (events : List Event) : Nat := (events.filterMap Event.edit?).length

@[simp] theorem freeCount_append (a b : List Event) :
    freeCount (a ++ b) = freeCount a + freeCount b := by
  simp [freeCount]

@[simp] theorem editCount_append (a b : List Event) :
    editCount (a ++ b) = editCount a + editCount b := by
  simp [editCount]

@[simp] theorem freeCount_nil : freeCount [] = 0 := rfl

@[simp] theorem editCount_nil : editCount [] = 0 := rfl

@[simp] theorem freeCount_note (name : String) (k : Classification) (rest : List Event) :
    freeCount (.note name k :: rest) = (if k = .free then 1 else 0) + freeCount rest := by
  by_cases h : k = .free
  · simp [freeCount, Event.classification?, h, Nat.add_comm]
  · simp [freeCount, Event.classification?, h]

@[simp] theorem freeCount_tally (slot : Slot) (rest : List Event) :
    freeCount (.tally (.exempt slot) :: rest) = freeCount rest := by
  simp [freeCount, Event.classification?]

@[simp] theorem editCount_note (name : String) (k : Classification) (rest : List Event) :
    editCount (.note name k :: rest) = editCount rest := rfl

@[simp] theorem editCount_tally (k : Classification) (rest : List Event) :
    editCount (.tally k :: rest) = editCount rest := rfl

/-- How many edits a node owes to what was counted before it was come upon. -/
def Position.owed : Position → Nat
  | .along true => 1
  | _ => 0

namespace Context

variable {c : Context} {pos : Position} {n : Node}

theorem classify_eq_free_iff {x : Ident} : c.classify x = .free ↔ c.isFree x = true := by
  unfold isFree
  rw [beq_iff_eq]

theorem classifyTarget_eq_free_iff {x : Ident} :
    c.classifyTarget x = .free ↔ c.isFreeTarget x = true := by
  unfold classifyTarget isFreeTarget
  cases c.preserves with
  | true => simp
  | false => simpa using classify_eq_free_iff

@[simp] theorem freeCount_edits (s : Span) (text : String) (b : Bool) :
    freeCount (Context.edits s text b) = 0 := by
  cases b <;> rfl

@[simp] theorem editCount_edits (s : Span) (text : String) (b : Bool) :
    editCount (Context.edits s text b) = if b then 1 else 0 := by
  cases b <;> rfl

theorem fits_value (c : Context) (n : Node) : Position.value.Fits c n := trivial

theorem fits_written (c : Context) (n : Node) : Position.written.Fits c n := trivial

/-- What does not start with a free name owes nothing. -/
theorem owed_eq_zero (hfit : pos.Fits c n) (hstart : c.startsFree n = false) : pos.owed = 0 := by
  cases pos with
  | along free =>
      have hfree : free = c.startsFree n := hfit
      rw [hfree, hstart]
      rfl
  | _ => rfl

theorem freeCount_startEvents (n : Node) :
    freeCount (c.startEvents n) = (Position.along (c.startsFree n)).owed := by
  unfold startEvents startsFree
  split
  · rename_i x hroot
    rw [freeCount_note]
    cases hfree : c.isFree x with
    | true => simp [hroot, hfree, classify_eq_free_iff, Position.owed]
    | false => simp [hroot, hfree, classify_eq_free_iff, Position.owed]
  · rename_i hroot
    simp [hroot, Position.owed]
  · rename_i hroot
    simp [hroot, Position.owed]

/-- What is counted at a link is owed further in. -/
theorem freeCount_linkEvents (pos : Position) (n : Node) :
    freeCount (c.linkEvents pos n) + pos.owed = (c.inward pos n).owed := by
  cases pos with
  | value => exact freeCount_startEvents n
  | written => rfl
  | along free => exact Nat.zero_add _

theorem editCount_linkEvents (pos : Position) (n : Node) :
    editCount (c.linkEvents pos n) = 0 := by
  unfold editCount
  rw [c.edits_linkEvents]
  rfl

end Context

namespace Node

variable {c : Context} {pos : Position}

theorem freeCount_eventsOf {parts : List Node}
    (h : ∀ n ∈ parts, freeCount (n.events c .value) = editCount (n.events c .value)) :
    freeCount (eventsOf c parts) = editCount (eventsOf c parts) := by
  induction parts with
  | nil => rfl
  | cons n rest ih =>
      have hn := h n (by simp)
      have hrest := ih fun m hm => h m (by simp [hm])
      rw [eventsOf, freeCount_append, editCount_append, hn, hrest]

/-- A link with more behind it: what its start owes is paid further in. -/
theorem freeCount_link {n next : Node} {rest : List Event}
    (hnext : freeCount (next.events c (c.inward pos n)) + (c.inward pos n).owed
      = editCount (next.events c (c.inward pos n)))
    (hrest : freeCount rest = editCount rest) :
    freeCount (c.linkEvents pos n ++ next.events c (c.inward pos n) ++ rest) + pos.owed
      = editCount (c.linkEvents pos n ++ next.events c (c.inward pos n) ++ rest) := by
  have hlink := c.freeCount_linkEvents pos n
  have hnone := c.editCount_linkEvents pos n
  rw [freeCount_append, freeCount_append, editCount_append, editCount_append]
  omega

/-- **Every name that is counted as free is edited**, and no other is. -/
theorem freeCount_events {n : Node} (hfit : pos.Fits c n) :
    freeCount (n.events c pos) + pos.owed = editCount (n.events c pos) := by
  induction n generalizing c pos with
  | name role x =>
      cases role with
      | reference =>
          show freeCount (c.nameEvents pos .reference x) + pos.owed
            = editCount (c.nameEvents pos .reference x)
          unfold Context.nameEvents
          cases pos with
          | value => simp [Context.classify_eq_free_iff, Context.qualifies, Position.owed]
          | written => simp [Context.classifyTarget_eq_free_iff, Context.qualifies, Position.owed]
          | along free => cases free <;> rfl
      | _ =>
          rw [c.owed_eq_zero hfit rfl]
          rfl
  | thisRef s =>
      rw [c.owed_eq_zero hfit rfl]
      rfl
  | member s o object x ih =>
      have hobject := ih (c.fits_inward hfit rfl)
      rw [events]
      exact freeCount_link hobject rfl
  | index s o object key ihobject ihkey =>
      have hobject := ihobject (c.fits_inward hfit rfl)
      have hkey : freeCount (key.events c .value) = editCount (key.events c .value) :=
        ihkey (c.fits_value key)
      rw [events]
      exact freeCount_link hobject hkey
  | field s o object f ih =>
      have hobject := ih (c.fits_inward hfit rfl)
      rw [events, ← List.append_nil (_ ++ _)]
      exact freeCount_link hobject rfl
  | call s o callee args ihcallee ihargs =>
      have hcallee := ihcallee (c.fits_inward hfit rfl)
      have hargs : freeCount (eventsOf c args) = editCount (eventsOf c args) :=
        freeCount_eventsOf fun n hn => ihargs n hn (c.fits_value n)
      rw [events]
      exact freeCount_link hcallee hargs
  | chain s element ih =>
      have helement := ih (c.fits_inward hfit rfl)
      rw [events, ← List.append_nil (_ ++ _)]
      exact freeCount_link helement rfl
  | nonNull s value ih =>
      have hvalue := ih (c.fits_inward hfit rfl)
      rw [events, ← List.append_nil (_ ++ _)]
      exact freeCount_link hvalue rfl
  | write target ih =>
      rw [c.owed_eq_zero hfit rfl]
      exact ih (c.fits_written target)
  | shorthandTarget s x value ih =>
      have hvalue : freeCount (value.events c .value) = editCount (value.events c .value) :=
        ih (c.fits_value value)
      rw [c.owed_eq_zero hfit rfl, events]
      simp [Context.classifyTarget_eq_free_iff, hvalue, Nat.add_comm]
  | shorthand x =>
      rw [c.owed_eq_zero hfit rfl, events]
      simp [Context.classify_eq_free_iff]
  | declarator s symbol pattern value ihpattern ihvalue =>
      have hpattern := ihpattern ((c.declaring symbol pattern value).fits_value pattern)
      have hvalue := ihvalue ((c.declaring symbol pattern value).fits_value value)
      rw [c.owed_eq_zero hfit rfl, events, freeCount_append, editCount_append, ← hpattern, ← hvalue]
      rfl
  | form kind s parts ih =>
      rw [c.owed_eq_zero hfit rfl]
      exact freeCount_eventsOf fun n hn => ih n hn (c.fits_value n)
  | region kind s scope parts ih =>
      rw [c.owed_eq_zero hfit rfl]
      exact freeCount_eventsOf (c := c.enter scope) fun n hn =>
        ih n hn ((c.enter scope).fits_value n)

end Node

/-- A pass counts as many free names as it edits. -/
theorem Scoped.free_stats_pass (p : Scoped) (i : Instructions) :
    (p.pass i).stats.free = (p.pass i).edits.length :=
  Node.freeCount_events ((Context.ofScopes p.scopes i).fits_value p.tree)

end FreeNames
