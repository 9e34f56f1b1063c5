/-
Keeping what is written to.

A pass that keeps the names that are written to, and one that qualifies them, go the same
way.  The second takes more references, and those are the ones that are written to; at
each of them the trees that the two leave part, and nowhere else (`Node.SameBut`).  Of a
shorthand target that is taken apart only the name differs: its default is a value, and
both have come to it before they look at the name.

The names that are kept are counted as such, so the two counts have the same total.
-/
import FreeNames.Proofs.Census

namespace FreeNames

/-! ### Trees that are the same but for what is written to -/

mutual

/-- The second tree is the first one, but that some names that are written to are qualified there.
The edits that qualify them are listed in their order. -/
inductive Node.SameBut (receiver : String) : List Edit → Node → Node → Prop
  | same (n : Node) : SameBut receiver [] n n
  /-- A name that is written to. -/
  | target {c : Context} (hc : c.receiver = receiver) (x : Ident) :
      SameBut receiver [⟨x.span, c.qualifiedText x.name⟩] (.write (.name .reference x))
        (.write (c.qualified x))
  /-- A name and a key in one; what differs in the default comes first. -/
  | expanded {c : Context} (hc : c.receiver = receiver) (s : Span) (x : Ident) {edits : List Edit}
      {value value' : Node} (hvalue : SameBut receiver edits value value') :
      SameBut receiver (edits ++ [⟨x.span, c.expandedText x.name⟩]) (.shorthandTarget s x value)
        (.form (.targetProperty false) s
          [.name .key x,
           if value'.isAbsent then .write (c.qualified x)
           else .form .targetDefault s [.write (c.qualified x), value']])
  | member (s : Span) (o : Bool) (x : Ident) {edits : List Edit} {object object' : Node}
      (hobject : SameBut receiver edits object object') :
      SameBut receiver edits (.member s o object x) (.member s o object' x)
  | index (s : Span) (o : Bool) {edits more : List Edit} {object object' key key' : Node}
      (hobject : SameBut receiver edits object object') (hkey : SameBut receiver more key key') :
      SameBut receiver (edits ++ more) (.index s o object key) (.index s o object' key')
  | field (s : Span) (o : Bool) (f : String) {edits : List Edit} {object object' : Node}
      (hobject : SameBut receiver edits object object') :
      SameBut receiver edits (.field s o object f) (.field s o object' f)
  | call (s : Span) (o : Bool) {edits more : List Edit} {callee callee' : Node}
      {args args' : List Node} (hcallee : SameBut receiver edits callee callee')
      (hargs : SameButAll receiver more args args') :
      SameBut receiver (edits ++ more) (.call s o callee args) (.call s o callee' args')
  | chain (s : Span) {edits : List Edit} {element element' : Node}
      (helement : SameBut receiver edits element element') :
      SameBut receiver edits (.chain s element) (.chain s element')
  | nonNull (s : Span) {edits : List Edit} {value value' : Node}
      (hvalue : SameBut receiver edits value value') :
      SameBut receiver edits (.nonNull s value) (.nonNull s value')
  | write {edits : List Edit} {target target' : Node}
      (htarget : SameBut receiver edits target target') :
      SameBut receiver edits (.write target) (.write target')
  | shorthandTarget (s : Span) (x : Ident) {edits : List Edit} {value value' : Node}
      (hvalue : SameBut receiver edits value value') :
      SameBut receiver edits (.shorthandTarget s x value) (.shorthandTarget s x value')
  | declarator (s : Span) (symbol : Option SymbolId) {edits more : List Edit}
      {pattern pattern' value value' : Node}
      (hpattern : SameBut receiver edits pattern pattern')
      (hvalue : SameBut receiver more value value') :
      SameBut receiver (edits ++ more) (.declarator s symbol pattern value)
        (.declarator s symbol pattern' value')
  | form (kind : Form) (s : Span) {edits : List Edit} {parts parts' : List Node}
      (hparts : SameButAll receiver edits parts parts') :
      SameBut receiver edits (.form kind s parts) (.form kind s parts')
  | region (kind : ScopeKind) (s : Span) (scope : Option ScopeId) {edits : List Edit}
      {parts parts' : List Node} (hparts : SameButAll receiver edits parts parts') :
      SameBut receiver edits (.region kind s scope parts) (.region kind s scope parts')

/-- The same of trees that stand side by side. -/
inductive Node.SameButAll (receiver : String) : List Edit → List Node → List Node → Prop
  | nil : SameButAll receiver [] [] []
  | cons {edits more : List Edit} {n n' : Node} {rest rest' : List Node}
      (hn : SameBut receiver edits n n') (hrest : SameButAll receiver more rest rest') :
      SameButAll receiver (edits ++ more) (n :: rest) (n' :: rest')

end

namespace Node

mutual

/-- Trees with nothing between them are the same. -/
theorem SameBut.eq {receiver : String} {n n' : Node} {edits : List Edit}
    (h : SameBut receiver edits n n') (hnone : edits = []) : n' = n := by
  cases h with
  | same => rfl
  | target => cases hnone
  | expanded => simp at hnone
  | member s o x hobject => rw [hobject.eq hnone]
  | index s o hobject hkey =>
      obtain ⟨hedits, hmore⟩ := List.append_eq_nil_iff.1 hnone
      rw [hobject.eq hedits, hkey.eq hmore]
  | field s o f hobject => rw [hobject.eq hnone]
  | call s o hcallee hargs =>
      obtain ⟨hedits, hmore⟩ := List.append_eq_nil_iff.1 hnone
      rw [hcallee.eq hedits, hargs.eq hmore]
  | chain s helement => rw [helement.eq hnone]
  | nonNull s hvalue => rw [hvalue.eq hnone]
  | write htarget => rw [htarget.eq hnone]
  | shorthandTarget s x hvalue => rw [hvalue.eq hnone]
  | declarator s symbol hpattern hvalue =>
      obtain ⟨hedits, hmore⟩ := List.append_eq_nil_iff.1 hnone
      rw [hpattern.eq hedits, hvalue.eq hmore]
  | form kind s hparts => rw [hparts.eq hnone]
  | region kind s scope hparts => rw [hparts.eq hnone]

theorem SameButAll.eq {receiver : String} {parts parts' : List Node} {edits : List Edit}
    (h : SameButAll receiver edits parts parts') (hnone : edits = []) : parts' = parts := by
  cases h with
  | nil => rfl
  | cons hn hrest =>
      obtain ⟨hedits, hmore⟩ := List.append_eq_nil_iff.1 hnone
      rw [hn.eq hedits, hrest.eq hmore]

end

end Node

/-! ### The two passes -/

/-- The context with another way to treat what is written to. -/
def Context.withPolicy (c : Context) (policy : TargetPolicy) : Context := { c with policy }

/-- The edits of some references that are written to, in a pass that qualifies those as well. -/
def Context.targetEdits (c : Context) (refs : List Reference) : List Edit :=
  ((refs.filter (c.withPolicy .qualify).takes).filter (·.use.isTarget)).map (·.edit c.receiver)

theorem Position.value_ne_written : Position.value ≠ .written := by simp

namespace Context

variable (c : Context)

theorem targetEdits_append (refs more : List Reference) :
    c.targetEdits (refs ++ more) = c.targetEdits refs ++ c.targetEdits more := by
  unfold targetEdits
  rw [List.filter_append, List.filter_append, List.map_append]

theorem targetEdits_singleton (r : Reference) :
    c.targetEdits [r]
      = if (c.withPolicy .qualify).takes r && r.use.isTarget then [r.edit c.receiver] else [] := by
  unfold targetEdits
  rw [List.filter_singleton]
  cases (c.withPolicy .qualify).takes r <;> cases hr : r.use.isTarget <;> simp [hr]

theorem inward_ne_written (pos : Position) (n : Node) : c.inward pos n ≠ .written := by
  cases pos <;> simp [inward]

/-- What becomes of a name that is written to. -/
theorem sameBut_written {site : Site} {x : Ident}
    (h : Arrives (c.withPolicy .qualify) .written site (.name .reference x)) :
    Node.SameBut c.receiver (c.targetEdits [⟨site, x⟩])
      (.write ((c.withPolicy .preserve).qualifyName .written .reference x))
      (.write ((c.withPolicy .qualify).qualifyName .written .reference x)) := by
  have htakes : (c.withPolicy .qualify).takes ⟨site, x⟩ = c.isFree x := h.takes_reference
  have huse : site.use = .target := h.use
  have hkept : (c.withPolicy .preserve).qualifyName .written .reference x
      = .name .reference x := rfl
  have htaken : (c.withPolicy .qualify).qualifyName .written .reference x
      = if c.isFree x then c.qualified x else .name .reference x := rfl
  rw [c.targetEdits_singleton, htakes, hkept, htaken]
  cases c.isFree x with
  | false => exact .same _
  | true =>
      simp only [Reference.edit, huse]
      exact .target rfl x

/-- What becomes of a name that is a key as well. -/
theorem sameBut_shorthandTarget {pos : Position} {site : Site} {s : Span} {x : Ident}
    {value : Node} (h : Arrives (c.withPolicy .qualify) pos site (.shorthandTarget s x value))
    (hvalue : Node.SameBut c.receiver (c.targetEdits (value.referencesIn site.part))
      (value.qualify (c.withPolicy .preserve) .value)
      (value.qualify (c.withPolicy .qualify) .value)) :
    Node.SameBut c.receiver
      (c.targetEdits ((Node.shorthandTarget s x value).referencesIn site))
      ((Node.shorthandTarget s x value).qualify (c.withPolicy .preserve) pos)
      ((Node.shorthandTarget s x value).qualify (c.withPolicy .qualify) pos) := by
  have htakes : (c.withPolicy .qualify).takes ⟨{ site.part with use := .shorthandTarget }, x⟩
      = c.isFree x := h.takes_shorthandTarget
  rw [Node.referencesIn, c.targetEdits_append, c.targetEdits_singleton, htakes, Node.qualify,
    Node.qualify]
  unfold Context.qualifyShorthandTarget
  have hkept : (c.withPolicy .preserve).isFreeTarget x = false := rfl
  have htaken : (c.withPolicy .qualify).isFreeTarget x = c.isFree x := rfl
  rw [hkept, htaken]
  cases c.isFree x with
  | false =>
      rw [Bool.false_and, if_neg Bool.false_ne_true, List.append_nil]
      exact .shorthandTarget s x hvalue
  | true => exact .expanded rfl s x hvalue

end Context

namespace Node

variable {c : Context} {pos : Position} {site : Site}

/-- Two passes over some nodes, if they part over each one at what is written to only. -/
theorem sameBut_qualifyAll {parts : List Node}
    (h : ∀ n ∈ parts, SameBut c.receiver (c.targetEdits (n.referencesIn site))
      (n.qualify (c.withPolicy .preserve) .value) (n.qualify (c.withPolicy .qualify) .value)) :
    SameButAll c.receiver (c.targetEdits (referencesOf site parts))
      (qualifyAll (c.withPolicy .preserve) parts) (qualifyAll (c.withPolicy .qualify) parts) := by
  induction parts with
  | nil => exact .nil
  | cons n rest ih =>
      have hn := h n (by simp)
      have hrest := ih fun m hm => h m (by simp [hm])
      rw [referencesOf, c.targetEdits_append]
      exact .cons hn hrest

/-- **Two passes that differ in how they treat what is written to part there only.**  A name that is
written to is looked at together with the node that says so. -/
theorem sameBut_qualify {n : Node} (h : Arrives (c.withPolicy .qualify) pos site n)
    (hpos : pos ≠ .written ∨ ∀ x, n ≠ .name .reference x) :
    SameBut c.receiver (c.targetEdits (n.referencesIn site))
      (n.qualify (c.withPolicy .preserve) pos) (n.qualify (c.withPolicy .qualify) pos) := by
  induction n generalizing c pos site with
  | name role x =>
      have hvalue : role = .reference → pos ≠ .written := by
        rintro rfl
        exact hpos.resolve_right fun hname => hname x rfl
      have hsame : (c.withPolicy .preserve).qualifyName pos role x
          = (c.withPolicy .qualify).qualifyName pos role x := by
        cases role with
        | reference =>
            cases pos with
            | written => exact absurd rfl (hvalue rfl)
            | _ => rfl
        | _ => rfl
      have hnone : c.targetEdits ((Node.name role x).referencesIn site) = [] := by
        cases role with
        | reference =>
            have huse : site.use.isTarget = false := by
              rw [h.use]
              cases pos with
              | written => exact absurd rfl (hvalue rfl)
              | _ => rfl
            rw [referencesIn, c.targetEdits_singleton, huse, Bool.and_false]
            rfl
        | _ => rfl
      rw [qualify, qualify, hsame, hnone]
      exact .same _
  | thisRef s => exact .same _
  | member s o object x ih =>
      have hobject := ih (h.inward (by simp) rfl) (.inl (c.inward_ne_written _ _))
      exact .member s o x hobject
  | index s o object key ihobject ihkey =>
      have hobject := ihobject (h.inward (by simp) rfl) (.inl (c.inward_ne_written _ _))
      have hkey := ihkey (h.part (by simp)) (.inl Position.value_ne_written)
      rw [referencesIn, c.targetEdits_append]
      exact .index s o hobject hkey
  | field s o object f ih =>
      have hobject := ih (h.inward (by simp) rfl) (.inl (c.inward_ne_written _ _))
      exact .field s o f hobject
  | call s o callee args ihcallee ihargs =>
      have hcallee := ihcallee (h.inward (by simp) rfl) (.inl (c.inward_ne_written _ _))
      have hargs := sameBut_qualifyAll fun n hn =>
        ihargs n hn (h.part (by simp)) (.inl Position.value_ne_written)
      rw [referencesIn, c.targetEdits_append]
      exact .call s o hcallee hargs
  | chain s element ih =>
      have helement := ih (h.inward (by simp) rfl) (.inl (c.inward_ne_written _ _))
      exact .chain s helement
  | nonNull s value ih =>
      have hvalue := ih (h.inward (by simp) rfl) (.inl (c.inward_ne_written _ _))
      exact .nonNull s hvalue
  | write target ih =>
      have htarget : Arrives (c.withPolicy .qualify) .written _ target := h.target (by simp)
      by_cases hname : ∃ x, target = .name .reference x
      · -- A name does not tell that it is written to, so it is looked at from here.
        obtain ⟨x, rfl⟩ := hname
        exact c.sameBut_written htarget
      · exact .write (ih htarget (.inr fun x hx => hname ⟨x, hx⟩))
  | shorthandTarget s x value ih =>
      have hvalue := ih (h.part (by simp)) (.inl Position.value_ne_written)
      exact c.sameBut_shorthandTarget h hvalue
  | shorthand x =>
      have hnone : c.targetEdits ((Node.shorthand x).referencesIn site) = [] := by
        rw [referencesIn, c.targetEdits_singleton]
        simp [Use.isTarget]
      rw [hnone]
      exact .same _
  | declarator s symbol pattern value ihpattern ihvalue =>
      have hpattern := ihpattern (c := c.declaring symbol pattern value)
        (h.pattern symbol pattern value) (.inl Position.value_ne_written)
      have hvalue := ihvalue (c := c.declaring symbol pattern value)
        (h.value symbol pattern value) (.inl Position.value_ne_written)
      rw [referencesIn, c.targetEdits_append]
      exact .declarator s symbol hpattern hvalue
  | form kind s parts ih =>
      by_cases hkind : kind = .targetDefault
      · subst hkind
        cases parts with
        | nil => exact .same _
        | cons target rest =>
            have htarget := ih target (by simp) (h.part (by simp) site.key)
              (.inl Position.value_ne_written)
            have hrest := sameBut_qualifyAll fun n (hn : n ∈ rest) =>
              ih n (List.mem_cons_of_mem _ hn) (h.part (by simp)) (.inl Position.value_ne_written)
            rw [referencesIn, c.targetEdits_append]
            exact .form _ s (.cons htarget hrest)
      · rw [referencesIn_form s parts hkind]
        exact .form kind s (sameBut_qualifyAll fun n hn =>
          ih n hn (h.part (by simp) _) (.inl Position.value_ne_written))
  | region kind s scope parts ih =>
      have hparts := sameBut_qualifyAll (c := c.enter scope) fun n hn =>
        ih n hn (h.enter (by simp) scope) (.inl Position.value_ne_written)
      exact .region kind s scope hparts

end Node

namespace Scoped

variable (p : Scoped) (globals : Globals) (receiver : String)

/-- The trees that the two passes leave. -/
theorem sameBut_pass :
    let taken := p.taken { globals, receiver, policy := .qualify }
    Node.SameBut receiver ((taken.filter (·.use.isTarget)).map (·.edit receiver))
      (p.pass { globals, receiver, policy := .preserve }).tree
      (p.pass { globals, receiver, policy := .qualify }).tree := by
  let i : Instructions := { globals, receiver, policy := .qualify }
  exact Node.sameBut_qualify (c := .ofScopes p.scopes i) (.root p.scopes i p.tree)
    (.inl Position.value_ne_written)

/-- Where nothing is qualified that is written to, it does not matter whether it is kept. -/
theorem tree_pass_preserve
    (h : ∀ r ∈ p.taken { globals, receiver, policy := .qualify }, r.use.isTarget = false) :
    (p.pass { globals, receiver, policy := .qualify }).tree
      = (p.pass { globals, receiver, policy := .preserve }).tree := by
  have hnone : (p.taken { globals, receiver, policy := .qualify }).filter (·.use.isTarget) = [] :=
    List.filter_eq_nil_iff.2 fun r hr => by simp [h r hr]
  refine (p.sameBut_pass globals receiver).eq ?_
  rw [hnone]
  rfl

end Scoped

/-! ### Their counts -/

/-- How many identifiers were met. -/
def Stats.total (s : Stats) : Nat :=
  s.bound + s.global + s.receiver + s.exempt + s.synthetic + s.free

/-- How many identifiers a pass meets does not hang on what it is told. -/
theorem Scoped.total_stats_pass (p : Scoped) (i : Instructions) :
    let t := p.tree.census
    (p.pass i).stats.total
      = t.references + t.thisChains + t.bindings + t.labels + t.keys + t.properties := by
  intro t
  obtain ⟨hlookups, hexempt⟩ := p.tree.tallies (Context.ofScopes p.scopes i) .value
  rw [← Stats.lookups_ofEvents] at hlookups
  rw [← Stats.exempt_ofEvents] at hexempt
  let s := (p.pass i).stats
  let kept := (p.tree.occurrences .value).countP
    (Occurrence.isKept (Context.ofScopes p.scopes i).preserves)
  have hlooked : s.bound + s.global + s.receiver + s.synthetic + s.free + kept
      = t.references + t.thisChains := hlookups
  have haside : s.exempt = t.bindings + t.labels + t.keys + t.properties + kept := hexempt
  -- What is kept is counted among what is left aside, where it is not looked up.
  show s.bound + s.global + s.receiver + s.exempt + s.synthetic + s.free = _
  omega

/--
**Keeping what is written to costs its edits, and nothing else.**  Of two passes that are told the
same, but that the one keeps what is written to, both have the edits of all other references, in
their order; the trees that they leave are the same but for the names that are written to; and
both count as many identifiers.
-/
theorem Scoped.pass_preserve (p : Scoped) (globals : Globals) (receiver : String) :
    let qualifying : Instructions := { globals, receiver, policy := .qualify }
    let preserving : Instructions := { globals, receiver, policy := .preserve }
    let taken := p.taken qualifying
    (p.pass qualifying).edits = taken.map (·.edit receiver)
      ∧ (p.pass preserving).edits = (taken.filter (!·.use.isTarget)).map (·.edit receiver)
      ∧ Node.SameBut receiver ((taken.filter (·.use.isTarget)).map (·.edit receiver))
          (p.pass preserving).tree (p.pass qualifying).tree
      ∧ (p.pass preserving).stats.total = (p.pass qualifying).stats.total := by
  intro qualifying preserving taken
  have hkept : p.taken preserving = taken.filter (!·.use.isTarget) := by
    unfold taken Scoped.taken
    rw [List.filter_filter]
    refine List.filter_congr fun r _ => ?_
    let free := ((Context.ofScopes p.scopes qualifying).around r).isFree r.ident
    show (free && !(true && r.use.isTarget)) = (!r.use.isTarget && (free && !(false && _)))
    rw [Bool.true_and, Bool.false_and, Bool.not_false, Bool.and_true, Bool.and_comm]
  refine ⟨p.edits_eq_taken qualifying, ?_, ?_, ?_⟩
  · rw [p.edits_eq_taken preserving, hkept]
  · exact p.sameBut_pass globals receiver
  · rw [p.total_stats_pass, p.total_stats_pass]

end FreeNames
