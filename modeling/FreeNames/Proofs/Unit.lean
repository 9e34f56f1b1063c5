/-
The new text of a whole unit.

The edits that a pass records lie at references, each at one of its own, so they are
as far apart as the references are.  Where the references of a unit lie in its source
is the parser's affair: it gives each the span of its own token, and no two share a
byte (`Node.ReadFrom`).  Then all edits can be made, in whatever order a pass came
to them, and everything between them is kept.
-/
import FreeNames.Outcome
import FreeNames.Proofs.Numbers
import FreeNames.Proofs.Splice

namespace FreeNames

/-- What a parser sees to: each reference lies at a token of its own. -/
structure Node.ReadFrom (n : Node) (source : String) : Prop where
  token : ∀ r ∈ n.references,
    r.ident.span.start < r.ident.span.stop ∧ r.ident.span.Fits source.toList
  apart : n.references.Pairwise fun a b => a.ident.span.Apart b.ident.span

instance (n : Node) (source : String) : Decidable (n.ReadFrom source) :=
  decidable_of_iff
    ((∀ r ∈ n.references,
        r.ident.span.start < r.ident.span.stop ∧ r.ident.span.Fits source.toList)
      ∧ n.references.Pairwise fun a b => a.ident.span.Apart b.ident.span)
    ⟨fun h => ⟨h.1, h.2⟩, fun h => ⟨h.token, h.apart⟩⟩

/-- Spans that hold a byte and share none differ. -/
theorem Span.Apart.ne {a b : Span} (h : a.Apart b) (ha : a.start < a.stop)
    (hb : b.start < b.stop) : a.start ≠ b.start := by
  rcases h with h | h <;> omega

namespace Node

/-- The places of the references, in their order. -/
def referenceSpans (n : Node) : List Span := n.references.map (·.ident.span)

theorem referenceSpans_withScopes (tree : Node) (strict : Bool) :
    (tree.withScopes strict).tree.referenceSpans = tree.referenceSpans := by
  have h := congrArg (List.map fun r : Reference => r.ident.span)
    (references_withScopes tree strict)
  rw [List.map_map, List.map_map] at h
  exact h

end Node

/-- The places of the edits are places of references, in their order and none of them twice. -/
theorem Scoped.spans_edits_sublist (p : Scoped) (i : Instructions) :
    ((p.pass i).edits.map Edit.span).Sublist p.tree.referenceSpans := by
  rw [p.edits_pass i, List.map_map]
  exact List.filter_sublist.map _

namespace Node.ReadFrom

variable {n : Node} {source : String}

theorem span (h : n.ReadFrom source) {s : Span} (hs : s ∈ n.referenceSpans) :
    s.start < s.stop ∧ s.Fits source.toList := by
  obtain ⟨r, hr, rfl⟩ := List.mem_map.mp hs
  exact h.token r hr

theorem pairwise_spans (h : n.ReadFrom source) :
    n.referenceSpans.Pairwise fun a b => a.start ≠ b.start ∧ a.Apart b := by
  refine List.Pairwise.imp_of_mem ?_ (List.pairwise_map.mpr h.apart)
  intro a b ha hb hapart
  exact ⟨hapart.ne (h.span ha).1 (h.span hb).1, hapart⟩

/-- At the place of a reference there is one reference. -/
theorem count_span (h : n.ReadFrom source) {s : Span} (hs : s ∈ n.referenceSpans) :
    n.referenceSpans.count s = 1 := by
  have hnodup : n.referenceSpans.Nodup := by
    refine h.pairwise_spans.imp ?_
    rintro a _ ⟨hne, -⟩ rfl
    exact hne rfl
  exact List.count_eq_one_of_mem hnodup hs

end Node.ReadFrom

namespace Options

/-- A unit comes to its new text once its options are sound, its source has been read and its
global names are known. -/
theorem qualify_eq_outcome {o : Options} {source : String} (file : String) {fs : FileSystem}
    {cache cache' : GlobalsCache} {program : Program} {unit : UnitGlobals}
    (hoptions : o.problem? = none)
    (hread : Program.parse? o.sourceKind source = some program)
    (hglobals : o.unitGlobals (.ofComments program.comments) fs cache = (.ok unit, cache')) :
    o.qualify source file fs cache = (.ok (o.outcome source program unit), cache') := by
  unfold qualify
  simp only [hoptions, hread, hglobals]

/-- What becomes of a module that names no files, with nothing asked for. -/
def moduleOutcome? (source : String) : Option Outcome :=
  (Options.qualify {} source "" default .empty).1.toOption

/--
**The new text of a unit differs from its source at references only.**  The edits of
a unit share no byte, and each lies at one reference; they can all be made, so a
unit that is read and whose global names are known comes to a result; and its text
is the source with the texts of the edits in the place of their spans, and all that
lies between them kept in its order.
-/
theorem qualify_splices_references (o : Options) (source file : String) (fs : FileSystem)
    (cache cache' : GlobalsCache) (program : Program) (unit : UnitGlobals)
    (hoptions : o.problem? = none)
    (hread : Program.parse? o.sourceKind source = some program)
    (hglobals : o.unitGlobals (.ofComments program.comments) fs cache = (.ok unit, cache'))
    (htokens : program.tree.ReadFrom source) :
    let edits := (o.report program unit.globals).edits
    edits.Pairwise (fun a b => a.span.Apart b.span)
      ∧ (∀ e ∈ edits, program.tree.referenceSpans.count e.span = 1)
      ∧ ∃ outcome ordered, o.qualify source file fs cache = (.ok outcome, cache')
        ∧ Edit.spliceAll? edits source = some outcome.code
        ∧ ordered.Perm edits
        ∧ Spliced 0 ordered source.toList outcome.code.toList := by
  intro edits
  have hsub : (edits.map Edit.span).Sublist program.tree.referenceSpans := by
    rw [← Node.referenceSpans_withScopes program.tree (o.sourceKind != .script)]
    exact Scoped.spans_edits_sublist _ _
  have hmem : ∀ e ∈ edits, e.span ∈ program.tree.referenceSpans := fun e he =>
    hsub.subset (List.mem_map_of_mem he)
  have hmeet : edits.Pairwise fun a b => a.span.start ≠ b.span.start ∧ a.span.Apart b.span :=
    List.pairwise_map.mp (htokens.pairwise_spans.sublist hsub)
  refine ⟨hmeet.imp And.right, fun e he => htokens.count_span (hmem e he), ?_⟩
  obtain ⟨code, hcode, hspliced⟩ :=
    Edit.spliceAll?_spliced (fun e he => (htokens.span (hmem e he)).2) hmeet
  have houtcome : (o.outcome source program unit).code = code := by
    show (Edit.spliceAll? edits source).getD source = code
    rw [hcode]
    rfl
  refine ⟨o.outcome source program unit, (Edit.backToFront edits).reverse,
    qualify_eq_outcome file hoptions hread hglobals, ?_, ?_, ?_⟩
  · rw [houtcome]
    exact hcode
  · exact (List.reverse_perm _).trans (Edit.backToFront_perm edits)
  · rw [houtcome]
    exact hspliced

/-- Letters of two bytes in front of, between and behind the references, and a directive. -/
def umlauts : String := "/* global g */ ü(g, {x} = é.ö); // ä"

theorem qualify_splices_umlauts :
    let o : Options := { receiver := "self" }
    ∃ program unit, o.problem? = none
      ∧ Program.parse? o.sourceKind umlauts = some program
      ∧ o.unitGlobals (.ofComments program.comments) default .empty = (.ok unit, .empty)
      ∧ program.tree.ReadFrom umlauts
      ∧ (o.report program unit.globals).edits.Pairwise (fun a b => a.span.Apart b.span)
      ∧ (∀ e ∈ (o.report program unit.globals).edits,
          program.tree.referenceSpans.count e.span = 1)
      ∧ ∃ outcome ordered, o.qualify umlauts "u.js" default .empty = (.ok outcome, .empty)
        ∧ Edit.spliceAll? (o.report program unit.globals).edits umlauts = some outcome.code
        ∧ ordered.Perm (o.report program unit.globals).edits
        ∧ Spliced 0 ordered umlauts.toList outcome.code.toList := by
  intro o
  have hsome : (Program.parse? o.sourceKind umlauts).isSome = true := by decide +kernel
  have htokens : ((Program.parse? o.sourceKind umlauts).getD default).tree.ReadFrom umlauts := by
    decide +kernel
  have hoptions : o.problem? = none := by decide +kernel
  obtain ⟨program, hread⟩ := Option.isSome_iff_exists.mp hsome
  rw [hread, Option.getD_some] at htokens
  have hglobals : o.unitGlobals (.ofComments program.comments) default .empty
      = (.ok (o.layers (.ofComments program.comments) none), .empty) := rfl
  exact ⟨program, _, hoptions, hread, hglobals, htokens,
    qualify_splices_references o umlauts "u.js" default .empty .empty program _ hoptions hread
      hglobals htokens⟩

end Options

end FreeNames
