/-
Making edits from the back to the front.

What the edits of a text should come to is said without any order of making them
(`Spliced`): read from its front to its back, the text is cut at the spans of the
edits, the pieces between them are kept and the spans give way to the texts.

The loop makes the last edit first.  What carries it is that all edits still to be
made lie in front of the ones already made, so the text is always an untouched
front followed by a finished back, and the places in the front are those of the
text that the loop began with (`spliceInOrder?_of_descending`).

Where the edits are given in another order they are sorted into the same one, so they are
made all at once, as it were (`Edit.spliceAll?_at_once`).
-/
import FreeNames.Edit
import Mathlib.Data.List.Sort

namespace FreeNames

/-- Whether the text can be cut at this byte without cutting a character in two. -/
def IsBoundary (cs : List Char) (k : Nat) : Prop :=
  ∃ before after, cs = before ++ after ∧ byteLength before = k

namespace Span

/-- Two spans that share no byte. -/
def Apart (a b : Span) : Prop := a.stop ≤ b.start ∨ b.stop ≤ a.start

instance (a b : Span) : Decidable (a.Apart b) := inferInstanceAs (Decidable (_ ∨ _))

theorem Apart.symm {a b : Span} (h : a.Apart b) : b.Apart a := Or.symm h

/-- A span of the text. -/
structure Fits (s : Span) (cs : List Char) : Prop where
  ordered : s.start ≤ s.stop
  start : IsBoundary cs s.start
  stop : IsBoundary cs s.stop

end Span

theorem byteLength_eq_zero_iff {cs : List Char} : byteLength cs = 0 ↔ cs = [] := by
  constructor
  · intro h
    cases cs with
    | nil => rfl
    | cons c cs =>
        have hpos := c.utf8Size_pos
        rw [byteLength_cons] at h
        omega
  · rintro rfl
    rfl

/-! ### Cutting at a byte -/

theorem splitAtByte?_append (before after : List Char) :
    splitAtByte? (byteLength before) (before ++ after) = some (before, after) := by
  induction before with
  | nil => cases after <;> rfl
  | cons c before ih =>
      have hpos := c.utf8Size_pos
      obtain ⟨n, hn⟩ := Nat.exists_eq_succ_of_ne_zero (Nat.ne_of_gt hpos)
      have hlen : byteLength (c :: before) = n + byteLength before + 1 := by
        rw [byteLength_cons]
        omega
      have hrest : n + byteLength before + 1 - c.utf8Size = byteLength before := by omega
      rw [hlen, List.cons_append, splitAtByte?, if_pos (by omega), hrest, ih]
      rfl

theorem isBoundary_iff_isSome {cs : List Char} {k : Nat} :
    IsBoundary cs k ↔ (splitAtByte? k cs).isSome = true := by
  constructor
  · rintro ⟨before, after, rfl, rfl⟩
    rw [splitAtByte?_append]
    rfl
  · intro h
    induction cs generalizing k with
    | nil =>
        cases k with
        | zero => exact ⟨[], [], rfl, rfl⟩
        | succ k => cases h
    | cons c cs ih =>
        cases k with
        | zero => exact ⟨[], c :: cs, rfl, rfl⟩
        | succ k =>
            unfold splitAtByte? at h
            split at h
            · rename_i hsize
              rw [Option.isSome_map] at h
              obtain ⟨before, after, rfl, hbefore⟩ := ih h
              refine ⟨c :: before, after, rfl, ?_⟩
              rw [byteLength_cons, hbefore]
              omega
            · cases h

instance (cs : List Char) (k : Nat) : Decidable (IsBoundary cs k) :=
  decidable_of_iff _ isBoundary_iff_isSome.symm

instance (s : Span) (cs : List Char) : Decidable (s.Fits cs) :=
  decidable_of_iff (s.start ≤ s.stop ∧ IsBoundary cs s.start ∧ IsBoundary cs s.stop)
    ⟨fun h => ⟨h.1, h.2.1, h.2.2⟩, fun h => ⟨h.ordered, h.start, h.stop⟩⟩

/-- A boundary of the text that lies in a front part of it is a boundary of that part. -/
theorem IsBoundary.of_append {front back : List Char} {k : Nat} (h : IsBoundary (front ++ back) k)
    (hk : k ≤ byteLength front) : IsBoundary front k := by
  obtain ⟨before, after, heq, rfl⟩ := h
  rcases List.append_eq_append_iff.mp heq with ⟨more, rfl, -⟩ | ⟨more, rfl, -⟩
  · -- the boundary is not in front of the end of the part, so it is the end
    have hmore : more = [] := by
      rw [byteLength_append] at hk
      exact byteLength_eq_zero_iff.mp (by omega)
    subst hmore
    exact ⟨front, [], by simp, by simp⟩
  · exact ⟨before, more, rfl, rfl⟩

namespace Span

variable {s : Span}

/-- The pieces in front of a span, under it and behind it. -/
theorem Fits.pieces {cs : List Char} (h : s.Fits cs) :
    ∃ before token after, cs = before ++ (token ++ after) ∧ byteLength before = s.start
      ∧ s.start + byteLength token = s.stop := by
  obtain ⟨front, after, rfl, hfront⟩ := h.stop
  have hle : s.start ≤ byteLength front := by rw [hfront]; exact h.ordered
  obtain ⟨before, token, rfl, hbefore⟩ := h.start.of_append hle
  refine ⟨before, token, after, by rw [List.append_assoc], hbefore, ?_⟩
  rw [byteLength_append] at hfront
  omega

theorem Fits.of_append {front back : List Char} (h : s.Fits (front ++ back))
    (hstop : s.stop ≤ byteLength front) : s.Fits front where
  ordered := h.ordered
  start := h.start.of_append (Nat.le_trans h.ordered hstop)
  stop := h.stop.of_append hstop

end Span

namespace Edit

theorem splice?_pieces {e : Edit} {before token after : List Char}
    (hstart : byteLength before = e.span.start)
    (hstop : e.span.start + byteLength token = e.span.stop) :
    e.splice? (before ++ (token ++ after)) = some (before ++ (e.text.toList ++ after)) := by
  have hordered : ¬ e.span.stop < e.span.start := by omega
  have htoken : e.span.stop - e.span.start = byteLength token := by omega
  unfold splice?
  rw [if_neg hordered, htoken, ← hstart, splitAtByte?_append]
  simp [splitAtByte?_append]

end Edit

/-- The text `source`, which begins at the byte `first`, becomes `result` by edits that are given
from the front to the back. -/
inductive Spliced : Nat → List Edit → List Char → List Char → Prop
  /-- What no edit is left for is kept. -/
  | kept (first : Nat) (rest : List Char) : Spliced first [] rest rest
  /-- What lies in front of the first edit is kept, and its span gives way to its text. -/
  | edited {first : Nat} {e : Edit} {edits : List Edit} {before token source result : List Char}
      (hstart : first + byteLength before = e.span.start)
      (hstop : e.span.start + byteLength token = e.span.stop)
      (hrest : Spliced e.span.stop edits source result) :
      Spliced first (e :: edits) (before ++ (token ++ source))
        (before ++ (e.text.toList ++ result))

/-- One more edit at the back. -/
theorem Spliced.snoc {first : Nat} {edits : List Edit} {source result token after : List Char}
    {e : Edit} (h : Spliced first edits source result)
    (hstart : first + byteLength source = e.span.start)
    (hstop : e.span.start + byteLength token = e.span.stop) :
    Spliced first (edits ++ [e]) (source ++ (token ++ after))
      (result ++ (e.text.toList ++ after)) := by
  induction h with
  | kept first rest => exact .edited hstart hstop (.kept _ after)
  | @edited first e' edits before token' source result hstart' hstop' _ ih =>
      have hnext : e'.span.stop + byteLength source = e.span.start := by
        rw [byteLength_append, byteLength_append] at hstart
        omega
      rw [List.append_assoc, List.append_assoc, List.append_assoc, List.append_assoc]
      exact .edited hstart' hstop' (ih hnext)

/-- A text is cut in two at a byte in one way only. -/
theorem append_inj_of_byteLength {before before' after after' : List Char}
    (h : before ++ after = before' ++ after') (hlen : byteLength before = byteLength before') :
    before = before' ∧ after = after' := by
  have hcut := splitAtByte?_append before after
  rw [h, hlen, splitAtByte?_append, Option.some.injEq, Prod.mk.injEq] at hcut
  exact ⟨hcut.1.symm, hcut.2.symm⟩

/-- What edits come to is fixed by the text and the edits. -/
theorem Spliced.unique {first : Nat} {edits : List Edit} {source result result' : List Char}
    (h : Spliced first edits source result) (h' : Spliced first edits source result') :
    result = result' := by
  induction h generalizing result' with
  | kept first rest =>
      cases h'
      rfl
  | @edited first e edits before token source result hstart hstop _ ih =>
      generalize htext : before ++ (token ++ source) = text at h'
      cases h' with
      | @edited _ _ _ before' token' source' result'' hstart' hstop' hrest' =>
          obtain ⟨rfl, hback⟩ := append_inj_of_byteLength htext (by omega)
          obtain ⟨rfl, rfl⟩ := append_inj_of_byteLength hback (by omega)
          rw [ih hrest']

/-! ### The loop -/

namespace Edit

/-- **Edits made from the back to the front come to what they say together.**  What lies behind
the text that they are made in stays as it is. -/
theorem spliceInOrder?_of_descending {edits : List Edit} {front : List Char} (back : List Char)
    (hdescending : edits.Pairwise fun a b => b.span.stop ≤ a.span.start)
    (hfits : ∀ e ∈ edits, e.span.Fits front) :
    ∃ result, spliceInOrder? edits (front ++ back) = some (result ++ back)
      ∧ Spliced 0 edits.reverse front result := by
  induction edits generalizing front back with
  | nil => exact ⟨front, rfl, .kept 0 front⟩
  | cons e rest ih =>
      rw [List.pairwise_cons] at hdescending
      obtain ⟨before, token, after, rfl, hstart, hstop⟩ := (hfits e (by simp)).pieces
      -- the edits still to be made lie in front of the one just made
      have hbefore : ∀ d ∈ rest, d.span.Fits before := by
        intro d hd
        refine (hfits d (by simp [hd])).of_append ?_
        rw [hstart]
        exact hdescending.1 d hd
      obtain ⟨result, hresult, hspliced⟩ :=
        ih (e.text.toList ++ (after ++ back)) hdescending.2 hbefore
      refine ⟨result ++ (e.text.toList ++ after), ?_, ?_⟩
      · have hfirst : e.splice? (before ++ (token ++ after) ++ back)
            = some (before ++ (e.text.toList ++ (after ++ back))) := by
          rw [List.append_assoc, List.append_assoc]
          exact splice?_pieces hstart hstop
        unfold spliceInOrder? at hresult ⊢
        rw [List.foldlM_cons, hfirst, Option.bind_eq_bind, Option.bind_some, hresult]
        simp
      · rw [List.reverse_cons]
        exact hspliced.snoc (by omega) hstop

theorem backToFront_perm (edits : List Edit) : (backToFront edits).Perm edits :=
  List.mergeSort_perm _ _

theorem pairwise_backToFront (edits : List Edit) :
    (backToFront edits).Pairwise fun a b => b.span.start ≤ a.span.start := by
  have hsorted : (backToFront edits).Pairwise
      fun a b => decide (b.span.start ≤ a.span.start) = true := by
    refine List.pairwise_mergeSort ?_ ?_ edits
    · intro a b c hab hbc
      simp only [decide_eq_true_eq] at hab hbc ⊢
      omega
    · intro a b
      simp only [Bool.or_eq_true, decide_eq_true_eq]
      omega
  exact hsorted.imp fun h => of_decide_eq_true h

/-- Edits at places of their own are sorted strictly. -/
theorem pairwise_lt_backToFront {edits : List Edit}
    (hstarts : edits.Pairwise fun a b => a.span.start ≠ b.span.start) :
    (backToFront edits).Pairwise fun a b => b.span.start < a.span.start := by
  have hne := ((backToFront_perm edits).pairwise_iff fun h => Ne.symm h).mpr hstarts
  refine ((pairwise_backToFront edits).and hne).imp ?_
  rintro a b ⟨hle, hne⟩
  omega

/-- Edits of which no two begin at one place or share a byte are sorted by their ends too. -/
theorem pairwise_stop_backToFront {edits : List Edit}
    (hmeet : edits.Pairwise fun a b => a.span.start ≠ b.span.start ∧ a.span.Apart b.span)
    (hordered : ∀ e ∈ edits, e.span.start ≤ e.span.stop) :
    (backToFront edits).Pairwise fun a b => b.span.stop ≤ a.span.start := by
  have hperm := backToFront_perm edits
  have hapart := (hperm.pairwise_iff fun h => h.symm).mpr (hmeet.imp And.right)
  have hlt := pairwise_lt_backToFront (hmeet.imp And.left)
  refine (hlt.and hapart).imp_of_mem ?_
  rintro a b ha - ⟨hstart, hab⟩
  have ha' := hordered a (hperm.mem_iff.mp ha)
  rcases hab with h | h <;> omega

/-- **Edits that do not meet can all be made**, and come to what they say together. -/
theorem spliceAll?_spliced {edits : List Edit} {source : String}
    (hfits : ∀ e ∈ edits, e.span.Fits source.toList)
    (hmeet : edits.Pairwise fun a b => a.span.start ≠ b.span.start ∧ a.span.Apart b.span) :
    ∃ result, spliceAll? edits source = some result
      ∧ Spliced 0 (backToFront edits).reverse source.toList result.toList := by
  have hdescending := pairwise_stop_backToFront hmeet fun e he => (hfits e he).ordered
  have hfits' : ∀ e ∈ backToFront edits, e.span.Fits source.toList := fun e he =>
    hfits e ((backToFront_perm edits).mem_iff.mp he)
  obtain ⟨result, hresult, hspliced⟩ := spliceInOrder?_of_descending [] hdescending hfits'
  rw [List.append_nil, List.append_nil] at hresult
  refine ⟨String.ofList result, ?_, ?_⟩
  · unfold spliceAll?
    rw [hresult]
    rfl
  · rw [String.toList_ofList]
    exact hspliced

/-! ### The order in which edits are given

Sorting is stable, so two edits at one place would be made in the order in which they are given.
Where every edit has a place of its own there is only one order from the back to the front.
-/

/-- However such edits are given, they are made in one order. -/
theorem backToFront_eq_of_perm {edits others : List Edit} (hperm : others.Perm edits)
    (hstarts : edits.Pairwise fun a b => a.span.start ≠ b.span.start) :
    backToFront others = backToFront edits := by
  have hstarts' : others.Pairwise fun a b => a.span.start ≠ b.span.start :=
    (hperm.pairwise_iff fun h => Ne.symm h).mpr hstarts
  have hsame : (backToFront others).Perm (backToFront edits) :=
    (backToFront_perm others).trans (hperm.trans (backToFront_perm edits).symm)
  refine hsame.eq_of_pairwise ?_ (pairwise_lt_backToFront hstarts')
    (pairwise_lt_backToFront hstarts)
  intro a b _ _ hab hba
  omega

/--
**The edits of a text are made all at once.**  If each edit lies at a span of the text, no two of
them begin at one place and no two share a byte, then they can all be made.  What comes out is the
text with each span replaced, from the front to the back, and it does not matter in which order
the edits are given.
-/
theorem spliceAll?_at_once (source : String) (edits : List Edit)
    (hfits : ∀ e ∈ edits, e.span.Fits source.toList)
    (hmeet : edits.Pairwise fun a b => a.span.start ≠ b.span.start ∧ a.span.Apart b.span) :
    ∃ result ordered, ordered.Perm edits
      ∧ ordered.Pairwise (fun a b => a.span.start < b.span.start)
      ∧ (∀ text, Spliced 0 ordered source.toList text ↔ text = result.toList)
      ∧ ∀ others, others.Perm edits → spliceAll? others source = some result := by
  have hstarts := hmeet.imp And.left
  obtain ⟨result, hresult, hspliced⟩ := spliceAll?_spliced hfits hmeet
  refine ⟨result, (backToFront edits).reverse, ?_, ?_, ?_, ?_⟩
  · exact (List.reverse_perm _).trans (backToFront_perm edits)
  · exact List.pairwise_reverse.mpr (pairwise_lt_backToFront hstarts)
  · intro text
    constructor
    · intro htext
      exact htext.unique hspliced
    · rintro rfl
      exact hspliced
  · intro others hperm
    rw [← hresult, spliceAll?, spliceAll?, backToFront_eq_of_perm hperm hstarts]

/-- Spans that touch, and empty ones between them and at the end, with letters of two bytes. -/
def touching : List Edit :=
  [⟨⟨5, 5⟩, "!"⟩, ⟨⟨3, 5⟩, "e"⟩, ⟨⟨2, 2⟩, "-"⟩, ⟨⟨0, 2⟩, "u"⟩]

theorem spliceAll?_at_once_touching :
    (∀ e ∈ touching, e.span.Fits "üxé".toList)
      ∧ touching.Pairwise (fun a b => a.span.start ≠ b.span.start ∧ a.span.Apart b.span)
      ∧ ∀ others, others.Perm touching → spliceAll? others "üxé" = some "u-xe!" := by
  have hfits : ∀ e ∈ touching, e.span.Fits "üxé".toList := by decide +kernel
  have hmeet : touching.Pairwise
      fun a b => a.span.start ≠ b.span.start ∧ a.span.Apart b.span := by
    decide +kernel
  have hsorted : backToFront touching = touching :=
    List.mergeSort_of_pairwise (by decide +kernel)
  have hcode : spliceAll? touching "üxé" = some "u-xe!" := by
    rw [spliceAll?, hsorted]
    decide +kernel
  obtain ⟨result, -, -, -, -, hothers⟩ := spliceAll?_at_once "üxé" touching hfits hmeet
  refine ⟨hfits, hmeet, fun others hperm => ?_⟩
  rw [hothers others hperm, ← hothers touching (.refl _), hcode]

end Edit

end FreeNames
