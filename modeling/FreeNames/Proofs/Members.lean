/-
Members that are read, and members that are written to.

Where a member is read it is a link of a chain, and the start of the chain is looked up
when the chain is entered.  Where it is written to, it is not: its object is a value that
the pass comes upon by itself.  Both ways lead to the same edits and to the same tree, as
a plain traversal has no chains at all (`Node.qualify_eq_plainly`).

They also count the same, as long as a chain that is entered counts for its start what the
start counts for by itself (`Context.startEvents_eq_aloneEvents`).  Two starts do not have
it so.  `this` is the receiver of a chain, and by itself it is no identifier and not
counted; a name that an earlier pass has put there for the receiver stands nowhere, which
is what counts by itself, while a chain looks at how it is spelled first.
-/
import FreeNames.Proofs.Chains
import FreeNames.Proofs.Unit

namespace FreeNames

/-- The object of a member, however the member is named. -/
def Node.object? : Node → Option Node
  | .member _ _ object _ | .index _ _ object _ | .field _ _ object _ => some object
  | _ => none

/-! ### What a start counts for -/

namespace Context

variable {c : Context} {n : Node}

/-- What is met at the start of a chain, or at a chain, that is a value by itself, before anything
in it. -/
def aloneEvents (c : Context) : Node → List Event
  | .thisRef _ => []
  | .name .reference x => [.note x.name (c.classify x)]
  | n => c.startEvents n

/-- Whether a node counts for something else at the start of a chain than by itself: `this`, and a
name that stands nowhere and is spelled like the receiver. -/
def countsApart (c : Context) : Node → Bool
  | .thisRef _ => true
  | .name .reference x => x.span.isNowhere && x.name == c.receiver
  | _ => false

theorem startEvents_thisRef (s : Span) :
    c.startEvents (.thisRef s) = [.note c.receiver .receiver] := rfl

theorem startEvents_receiver {x : Ident} (h : x.name = c.receiver) :
    c.startEvents (.name .reference x) = [.note c.receiver .receiver] := by
  unfold startEvents Node.root Node.leftmost
  simp [h]

theorem startEvents_identifier {x : Ident} (h : x.name ≠ c.receiver) :
    c.startEvents (.name .reference x) = [.note x.name (c.classify x)] := by
  unfold startEvents Node.root Node.leftmost
  simp [h]

theorem classify_of_nowhere {x : Ident} (h : x.span.isNowhere = true) :
    c.classify x = .synthetic := by
  unfold classify
  rw [if_pos h]

theorem classify_receiver {x : Ident} (hspan : x.span.isNowhere = false)
    (hname : x.name = c.receiver) : c.classify x = .receiver := by
  unfold classify
  simp [hspan, hname]

/-- A chain counts for its start what the start counts for by itself, but for two kinds of start. -/
theorem startEvents_eq_aloneEvents (h : c.countsApart n = false) :
    c.startEvents n = c.aloneEvents n := by
  cases n with
  | thisRef s => cases h
  | name role x =>
      cases role with
      | reference =>
          by_cases hname : x.name = c.receiver
          · have hspan : x.span.isNowhere = false := by simpa [countsApart, hname] using h
            rw [startEvents_receiver hname, aloneEvents, classify_receiver hspan hname, hname]
          · rw [startEvents_identifier hname, aloneEvents]
      | _ => rfl
  | _ => rfl

end Context

namespace Node

variable {c : Context} {m object : Node}

/-- A value is its start, and then the rest of its chain. -/
theorem events_value (c : Context) (n : Node) :
    n.events c .value = c.aloneEvents n ++ n.events c (.along (c.startsFree n)) := by
  cases n with
  | name role x =>
      cases role with
      | reference =>
          rw [c.startsFree_reference]
          rfl
      | _ => rfl
  | member | index | call =>
      simp only [events, Context.linkEvents, Context.inward, Context.aloneEvents, List.nil_append,
        List.append_assoc]
  | field | chain | nonNull =>
      simp only [events, Context.linkEvents, Context.inward, Context.aloneEvents, List.nil_append]
  | _ => rfl

theorem linkEvents_written (c : Context) (n : Node) : c.linkEvents .written n = [] := rfl

theorem inward_written (c : Context) (n : Node) : c.inward .written n = .value := rfl

/-- The two ways to a member part at its object and nowhere behind it. -/
theorem events_member (c : Context) (h : m.object? = some object) :
    ∃ behind, m.events c .value = c.startEvents object ++ behind
      ∧ m.events c .written = c.aloneEvents object ++ behind := by
  have hobject := events_value c object
  cases m with
  | member s o inner x =>
      cases h
      refine ⟨object.events c (.along (c.startsFree object)) ++ [.tally (.exempt .member)], ?_, ?_⟩
      · rw [events, List.append_assoc]
        rfl
      · rw [events, linkEvents_written, inward_written, hobject, List.nil_append, List.append_assoc]
  | index s o inner key =>
      cases h
      refine ⟨object.events c (.along (c.startsFree object)) ++ key.events c .value, ?_, ?_⟩
      · rw [events, List.append_assoc]
        rfl
      · rw [events, linkEvents_written, inward_written, hobject, List.nil_append, List.append_assoc]
  | field s o inner f =>
      cases h
      refine ⟨object.events c (.along (c.startsFree object)), rfl, ?_⟩
      rw [events, linkEvents_written, inward_written, hobject, List.nil_append]
  | _ => cases h

/-- A member that is written to is not a name that is. -/
theorem plain_written (h : m.object? = some object) : Position.written.Plain c m := by
  refine .written c fun x hx => ?_
  subst hx
  cases h

/-- A member becomes the same in both ways, and the same edits are made. -/
theorem qualify_member (c : Context) (h : m.object? = some object) :
    m.qualify c .written = m.qualify c .value
      ∧ (m.events c .written).filterMap Event.edit?
          = (m.events c .value).filterMap Event.edit? := by
  have hwritten := plain_written (c := c) h
  have hvalue := Position.Plain.value c m
  constructor
  · rw [qualify_eq_plainly hwritten, qualify_eq_plainly hvalue]
  · rw [edits_events_plainly hwritten, edits_events_plainly hvalue]

end Node

/-! ### The counts -/

namespace Stats

theorem receiver_note (name : String) (k : Classification) (rest : List Event) :
    (ofEvents (.note name k :: rest)).receiver
      = (ofEvents rest).receiver + if k = .receiver then 1 else 0 := by
  simp [ofEvents, Event.classification?, List.count_cons]

end Stats

namespace Context

variable {c : Context} {object : Node}

/-- A start that counts apart counts for the receiver in a chain, and not by itself. -/
theorem receiver_startEvents (h : c.countsApart object = true) (behind : List Event) :
    (Stats.ofEvents (c.startEvents object ++ behind)).receiver
      = (Stats.ofEvents (c.aloneEvents object ++ behind)).receiver + 1 := by
  cases object with
  | thisRef s =>
      rw [startEvents_thisRef, List.singleton_append, Stats.receiver_note]
      rfl
  | name role x =>
      cases role with
      | reference =>
          obtain ⟨hspan, hname⟩ : x.span.isNowhere = true ∧ x.name = c.receiver := by
            simpa [countsApart] using h
          rw [startEvents_receiver hname, aloneEvents, classify_of_nowhere hspan,
            List.singleton_append, List.singleton_append, Stats.receiver_note,
            Stats.receiver_note]
          rfl
      | _ => cases h
  | _ => cases h

/--
**A member that is written to is treated like one that is read, but is not always counted like
it.**  Whatever its object is and whatever is known, it becomes the same and the same edits are
made.  The counts are the same too, unless the object itself is `this` or a name that stands
nowhere and is spelled like the receiver: then the member that is read counts for the receiver
once more.
-/
theorem member_written (c : Context) {m : Node} (h : m.object? = some object) :
    m.qualify c .written = m.qualify c .value
      ∧ (m.events c .written).filterMap Event.edit? = (m.events c .value).filterMap Event.edit?
      ∧ (c.countsApart object = false → m.events c .written = m.events c .value)
      ∧ (c.countsApart object = true →
          (Stats.ofEvents (m.events c .value)).receiver
            = (Stats.ofEvents (m.events c .written)).receiver + 1) := by
  obtain ⟨htree, hedits⟩ := Node.qualify_member c h
  obtain ⟨behind, hvalue, hwritten⟩ := Node.events_member c h
  refine ⟨htree, hedits, fun hsame => ?_, fun hapart => ?_⟩
  · rw [hwritten, hvalue, startEvents_eq_aloneEvents hsame]
  · rw [hwritten, hvalue]
    exact receiver_startEvents hapart behind

end Context

/-! ### Units that show the difference -/

namespace Options

/-- The counts of a second pass that has been told the same as the first one. -/
def secondStats? (source : String) : Option Stats := do
  let program ← Program.parse? .module source
  let i : Instructions := { globals := .empty, receiver := "scope", policy := .qualify }
  let second ← (program.tree.passes true [i, i])[1]?
  return second.stats

/-- `this` counts for the receiver where its member is read and where a member of its member is
written to, but not where its own member is; and so for a receiver that a pass has put there. -/
theorem stats_receiver_member :
    (moduleOutcome? "this.a;").map (·.stats) = some { receiver := 1, exempt := 1 }
      ∧ (moduleOutcome? "this.a = 1;").map (·.stats) = some { exempt := 1 }
      ∧ (moduleOutcome? "this.a.b = 1;").map (·.stats) = some { receiver := 1, exempt := 2 }
      ∧ secondStats? "x;" = some { receiver := 1, exempt := 1 }
      ∧ secondStats? "x = 1;" = some { synthetic := 1, exempt := 1 } := by
  decide +kernel

end Options

end FreeNames
