/-
What is written to behind `!`.

In a typed program `x! = 1` writes to `x` as `x = 1` does.  A pass that keeps what is written to
looks only at the name that an assignment has for its target, and `x!` is no name: it is a link of
a chain, and its start is taken for a value.

So the references are listed once more here, each with whether such a `!` stands between it and
the assignment (`Access`).  The preserving pass qualifies those that are free and not written to,
and those that are free and written to behind `!`, which it was to keep (`Scoped.edits_preserve`).
-/
import FreeNames.Grammar.Program
import FreeNames.Proofs.Targets

namespace FreeNames

/-! ### References, by whether they are written to -/

/-- A reference, as the program means it. -/
structure Access extends Reference where
  /-- It is written to, with one `!` behind it or several. -/
  asserted : Bool

/-- Whether the program writes to the reference. -/
def Access.isWritten (a : Access) : Bool := a.use.isTarget || a.asserted

namespace Node

mutual

/-- The references of a tree in the order of `referencesIn`.  A node is asserted if it is what is
written to but for `!` and parentheses around it. -/
def accessesIn (site : Site) (asserted : Bool) : Node → List Access
  | .name .reference x => [⟨⟨site, x⟩, asserted⟩]
  | .name .. | .thisRef _ => []
  | .member _ _ object _ | .field _ _ object _ => accessesIn site.part false object
  | .index _ _ object key => accessesIn site.part false object ++ accessesIn site.part false key
  | .call _ _ callee args => accessesIn site.part false callee ++ accessesOf site.part false args
  | .chain _ element => accessesIn site.part false element
  | .nonNull _ value => accessesIn site.part (asserted || site.use.isTarget) value
  | .write target => accessesIn { site.part with use := .target, key := site.key } false target
  | .shorthandTarget _ x value =>
    accessesIn site.part false value ++ [⟨⟨{ site.part with use := .shorthandTarget }, x⟩, false⟩]
  | .shorthand x => [⟨⟨{ site.part with use := .shorthand }, x⟩, false⟩]
  | .declarator _ symbol pattern value =>
    accessesIn site.part false pattern
      ++ accessesIn { site.part with own := selfSymbol symbol pattern value } false value
  | .form .paren _ parts => accessesOf site.part asserted parts
  | .form .targetDefault _ (target :: rest) =>
    accessesIn { site.part with key := site.key } false target ++ accessesOf site.part false rest
  | .form kind _ parts => accessesOf { site.part with key := keyPlace kind parts } false parts
  | .region _ _ inner parts => accessesOf { scope := inner.or site.scope } false parts

/-- The same of trees that stand side by side. -/
def accessesOf (site : Site) (asserted : Bool) : List Node → List Access
  | [] => []
  | n :: rest => accessesIn site asserted n ++ accessesOf site asserted rest

end

/-- The references of a whole program. -/
def accesses (n : Node) : List Access := n.accessesIn {} false

variable {site : Site} {asserted : Bool}

theorem accessesIn_form {kind : Form} (s : Span) (parts : List Node) (hparen : kind ≠ .paren)
    (hdefault : kind ≠ .targetDefault) :
    accessesIn site asserted (.form kind s parts)
      = accessesOf { site.part with key := keyPlace kind parts } false parts := by
  rw [accessesIn]
  · exact hparen
  · exact fun _ _ h _ => hdefault h

theorem map_toReference_accessesOf {parts : List Node}
    (h : ∀ n ∈ parts, (accessesIn site asserted n).map (·.toReference) = referencesIn site n) :
    (accessesOf site asserted parts).map (·.toReference) = referencesOf site parts := by
  induction parts with
  | nil => rfl
  | cons n rest ih =>
      rw [accessesOf, referencesOf, List.map_append, h n (by simp), ih fun m hm => h m (by simp [hm])]

/-- They are the same references. -/
theorem map_toReference_accessesIn (site : Site) (asserted : Bool) (n : Node) :
    (accessesIn site asserted n).map (·.toReference) = referencesIn site n := by
  induction n generalizing site asserted with
  | name role x => cases role <;> rfl
  | thisRef s => rfl
  | member s o object x ih => exact ih _ _
  | index s o object key ihobject ihkey =>
      rw [accessesIn, referencesIn, List.map_append, ihobject, ihkey]
  | field s o object f ih => exact ih _ _
  | call s o callee args ihcallee ihargs =>
      rw [accessesIn, referencesIn, List.map_append, ihcallee,
        map_toReference_accessesOf fun n hn => ihargs n hn _ _]
  | chain s element ih => exact ih _ _
  | nonNull s value ih => exact ih _ _
  | write target ih => exact ih _ _
  | shorthandTarget s x value ih =>
      rw [accessesIn, referencesIn, List.map_append, ih]
      rfl
  | shorthand x => rfl
  | declarator s symbol pattern value ihpattern ihvalue =>
      rw [accessesIn, referencesIn, List.map_append, ihpattern, ihvalue]
  | form kind s parts ih =>
      have hparts (site : Site) (asserted : Bool) :
          (accessesOf site asserted parts).map (·.toReference) = referencesOf site parts :=
        map_toReference_accessesOf fun n hn => ih n hn _ _
      -- Of the forms only parentheses hand the mark on.
      by_cases hparen : kind = .paren
      · subst hparen
        exact hparts _ _
      · by_cases hdefault : kind = .targetDefault
        · subst hdefault
          cases parts with
          | nil => rfl
          | cons target rest =>
              have hrest : (accessesOf site.part false rest).map (·.toReference)
                  = referencesOf site.part rest :=
                map_toReference_accessesOf fun n hn => ih n (List.mem_cons_of_mem _ hn) _ _
              rw [accessesIn, referencesIn, List.map_append, ih target (by simp), hrest]
        · rw [accessesIn_form s parts hparen hdefault, referencesIn_form s parts hdefault]
          exact hparts _ _
  | region kind s scope parts ih =>
      exact map_toReference_accessesOf fun n hn => ih n hn _ _

theorem map_toReference_accesses (n : Node) : n.accesses.map (·.toReference) = n.references :=
  map_toReference_accessesIn {} false n

theorem use_of_asserted_of {parts : List Node} {a : Access} (ha : a ∈ accessesOf site asserted parts)
    (h : ∀ n ∈ parts, a ∈ accessesIn site asserted n → a.use = .value) : a.use = .value := by
  induction parts with
  | nil => cases ha
  | cons n rest ih =>
      rcases List.mem_append.1 ha with hn | hrest
      · exact h n List.mem_cons_self hn
      · exact ih hrest fun m hm => h m (List.mem_cons_of_mem _ hm)

/-- What is asserted is not the whole target, so it is taken for a value. -/
theorem use_of_asserted {n : Node} {a : Access} (ha : a ∈ accessesIn site asserted n)
    (hasserted : a.asserted = true) (hsite : asserted = true → site.use = .value) :
    a.use = .value := by
  -- The mark is handed on by `!` and by parentheses, which both take their part for a value.
  induction n generalizing site asserted with
  | name role x =>
      cases role with
      | reference =>
          obtain rfl := List.mem_singleton.1 ha
          exact hsite hasserted
      | _ => cases ha
  | thisRef s => cases ha
  | member s o object x ih => exact ih ha nofun
  | index s o object key ihobject ihkey =>
      rcases List.mem_append.1 ha with hobject | hkey
      · exact ihobject hobject nofun
      · exact ihkey hkey nofun
  | field s o object f ih => exact ih ha nofun
  | call s o callee args ihcallee ihargs =>
      rcases List.mem_append.1 ha with hcallee | hargs
      · exact ihcallee hcallee nofun
      · exact use_of_asserted_of hargs fun n hn harg => ihargs n hn harg nofun
  | chain s element ih => exact ih ha nofun
  | nonNull s value ih => exact ih ha fun _ => rfl
  | write target ih => exact ih ha nofun
  | shorthandTarget s x value ih =>
      rcases List.mem_append.1 ha with hvalue | hname
      · exact ih hvalue nofun
      · obtain rfl := List.mem_singleton.1 hname
        cases hasserted
  | shorthand x =>
      obtain rfl := List.mem_singleton.1 ha
      cases hasserted
  | declarator s symbol pattern value ihpattern ihvalue =>
      rcases List.mem_append.1 ha with hpattern | hvalue
      · exact ihpattern hpattern nofun
      · exact ihvalue hvalue nofun
  | form kind s parts ih =>
      by_cases hparen : kind = .paren
      · subst hparen
        exact use_of_asserted_of ha fun n hn hpart => ih n hn hpart fun _ => rfl
      · by_cases hdefault : kind = .targetDefault
        · subst hdefault
          cases parts with
          | nil => cases ha
          | cons target rest =>
              rcases List.mem_append.1 ha with htarget | hrest
              · exact ih target List.mem_cons_self htarget nofun
              · exact use_of_asserted_of hrest fun n hn hpart =>
                  ih n (List.mem_cons_of_mem _ hn) hpart nofun
        · rw [accessesIn_form s parts hparen hdefault] at ha
          exact use_of_asserted_of ha fun n hn hpart => ih n hn hpart nofun
  | region kind s scope parts ih =>
      exact use_of_asserted_of ha fun n hn hpart => ih n hn hpart nofun

end Node

/-! ### What the preserving pass qualifies -/

namespace Scoped

variable (p : Scoped) (globals : Globals) (receiver : String)

/-- The references that a pass qualifies if it does not keep what is written to. -/
def reached : List Access :=
  p.tree.accesses.filter fun a =>
    (Context.ofScopes p.scopes { globals, receiver, policy := .qualify }).takes a.toReference

theorem map_toReference_reached :
    (p.reached globals receiver).map (·.toReference)
      = p.taken { globals, receiver, policy := .qualify } := by
  unfold reached taken
  rw [← p.tree.map_toReference_accesses, List.filter_map]
  rfl

/-- The preserving pass keeps a name if an assignment has it for its target. -/
theorem edits_preserve_eq_reached :
    (p.pass { globals, receiver, policy := .preserve }).edits
      = ((p.reached globals receiver).filter (!·.use.isTarget)).map (·.edit receiver) := by
  obtain ⟨-, hedits, -, -⟩ := p.pass_preserve globals receiver
  rw [hedits, ← map_toReference_reached, List.filter_map, List.map_map]
  rfl

/--
**Keeping what is written to does not keep what is written to behind `!`.**  Of the references that
are free, a pass that is to keep those that are written to qualifies all that are not, and besides
them those that are written to with a `!` behind them.  So where there is no such target, nothing
that is written to is qualified.
-/
theorem edits_preserve :
    let edits := (p.pass { globals, receiver, policy := .preserve }).edits
    let reached := p.reached globals receiver
    edits = (reached.filter fun a => !a.isWritten || a.asserted).map (·.edit receiver)
      ∧ ((∀ a ∈ reached, a.asserted = false) →
          edits = (reached.filter (!·.isWritten)).map (·.edit receiver)) := by
  intro edits reached
  have hedits : edits = (reached.filter (!·.use.isTarget)).map (·.edit receiver) :=
    p.edits_preserve_eq_reached globals receiver
  constructor
  · rw [hedits]
    congr 1
    refine List.filter_congr fun a ha => ?_
    unfold Access.isWritten
    cases hasserted : a.asserted with
    | false => rw [Bool.or_false, Bool.or_false]
    | true =>
        have huse : a.use = .value :=
          Node.use_of_asserted (List.mem_of_mem_filter ha) hasserted nofun
        rw [huse, Bool.or_true]
        rfl
  · intro hnone
    rw [hedits]
    congr 1
    refine List.filter_congr fun a ha => ?_
    rw [Access.isWritten, hnone a ha, Bool.or_false]

end Scoped

namespace Program

/-- The edits of a typed program, where no name is global and what is written to is kept. -/
def keptEdits? (source : String) : Option (List Edit) := do
  let program ← parse? .typed source
  let i : Instructions := { globals := .empty, receiver := defaultReceiver, policy := .preserve }
  return (program.tree.pass true i).edits

/-- A name is kept where it is the target, in parentheses or not, and qualified where a `!` stands
behind it: in an assignment of any kind, in the head of a loop and where a value is taken apart. -/
theorem keptEdits_asserted :
    ["x = 1;", "(x) = 1;"].map keptEdits? = [some [], some []]
      ∧ ["x! = 1;", "x!! = 1;", "x! += 1;", "x!++;"].map keptEdits?
          = List.replicate 4 (some [⟨⟨0, 1⟩, "this.x"⟩])
      ∧ ["(x!) = 1;", "[x!] = [];"].map keptEdits?
          = List.replicate 2 (some [⟨⟨1, 2⟩, "this.x"⟩])
      ∧ keptEdits? "for (x! of []);" = some [⟨⟨5, 6⟩, "this.x"⟩] := by
  decide +kernel

end Program

end FreeNames
