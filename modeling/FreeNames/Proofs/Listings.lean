/-
How directives are written, and what is read of them.

A comment that lists names is written in one way (`Directive.Listing`): a tag, one space, and
pieces with commas between them, each of them a name or nothing.  White space may stand around
the whole and around each piece.  Such a comment is read as the names in it, under its own tag
and no other (`Listing.namesIn_text`), and a comment that is read as names is written so
(`Listing.exists_of_namesIn`).

The white space behind the last piece is also that at the end of the comment, so trimming the
whole takes some of it away before the list is looked at.  If no piece has a comma or a name in
it, that goes as far as the space behind the tag, and the comment carries no tag any more; but
then there is nothing to be read under it either.
-/
import FreeNames.Directive

namespace FreeNames

/-! ### Trimming -/

/-- White space, or nothing. -/
abbrev Blanks := { cs : List Char // ∀ c ∈ cs, isBlank c = true }

/-- Characters with white space at neither end. -/
structure Trimmed (cs : List Char) : Prop where
  first : ∀ c ∈ cs.head?, isBlank c = false
  last : ∀ c ∈ cs.getLast?, isBlank c = false

instance (cs : List Char) : Decidable (Trimmed cs) :=
  decidable_of_iff (cs.head?.all (!isBlank ·) = true ∧ cs.getLast?.all (!isBlank ·) = true)
    ⟨fun h => ⟨by simpa [Option.all_eq_true] using h.1, by simpa [Option.all_eq_true] using h.2⟩,
      fun h => ⟨by simpa [Option.all_eq_true] using h.first,
        by simpa [Option.all_eq_true] using h.last⟩⟩

namespace Blanks

/-- White space that is checked to be so. -/
def ofList (cs : List Char) (h : cs.all isBlank = true) : Blanks := ⟨cs, List.all_eq_true.1 h⟩

/-- White space behind white space. -/
def append (before after : Blanks) : Blanks where
  val := before.val ++ after.val
  property c hc := (List.mem_append.1 hc).elim (before.property c) (after.property c)

/-- White space read backwards. -/
def reverse (blanks : Blanks) : Blanks where
  val := blanks.val.reverse
  property c hc := blanks.property c (List.mem_reverse.1 hc)

theorem not_mem {c : Char} (h : isBlank c = false) (blanks : Blanks) : c ∉ blanks.val := by
  intro hc
  rw [blanks.property c hc] at h
  cases h

theorem dropWhile_append (blanks : Blanks) {cs : List Char}
    (h : ∀ c, cs.head? = some c → isBlank c = false) :
    (blanks.val ++ cs).dropWhile isBlank = cs := by
  rw [List.dropWhile_append_of_pos blanks.property]
  cases cs with
  | nil => rfl
  | cons c rest => rw [List.dropWhile_cons_of_neg (by simp [h c rfl])]

end Blanks

/-- Characters are white space, and then what is left when it is dropped. -/
theorem exists_blanks_dropWhile (cs : List Char) :
    ∃ blanks : Blanks, cs = blanks.val ++ cs.dropWhile isBlank :=
  ⟨.ofList (cs.takeWhile isBlank) List.all_takeWhile,
    List.takeWhile_append_dropWhile.symm⟩

theorem isBlank_of_head?_dropWhile {cs : List Char} {c : Char}
    (h : (cs.dropWhile isBlank).head? = some c) : isBlank c = false := by
  have hfirst := List.head?_dropWhile_not isBlank cs
  rw [h] at hfirst
  exact hfirst

/-- Trimming takes the white space at both ends. -/
theorem trimBlanks_around (before after : Blanks) {core : List Char} (h : Trimmed core) :
    trimBlanks (before.val ++ core ++ after.val) = core := by
  have hback : (after.val.reverse ++ core.reverse).dropWhile isBlank = core.reverse :=
    after.reverse.dropWhile_append fun c hc => h.last c (by simpa using hc)
  unfold trimBlanks
  cases hcore : core with
  | nil =>
      have hnone : ((before.append after).val ++ []).dropWhile isBlank = [] :=
        (before.append after).dropWhile_append (by simp)
      rw [List.append_nil] at hnone ⊢
      rw [show (before.val ++ after.val).dropWhile isBlank = [] from hnone]
      rfl
  | cons c rest =>
      rw [← hcore, List.append_assoc, before.dropWhile_append, List.reverse_append, hback,
        List.reverse_reverse]
      intro d hd
      rw [hcore] at hd
      exact h.first d (by rw [hcore]; exact hd)

theorem exists_dropWhile_eq_trimBlanks (cs : List Char) :
    ∃ after : Blanks, cs.dropWhile isBlank = trimBlanks cs ++ after.val := by
  obtain ⟨after, hafter⟩ := exists_blanks_dropWhile (cs.dropWhile isBlank).reverse
  rw [List.reverse_eq_iff, List.reverse_append] at hafter
  exact ⟨after.reverse, hafter⟩

/-- And nothing else. -/
theorem exists_around_trimBlanks (cs : List Char) :
    ∃ before after : Blanks, cs = before.val ++ trimBlanks cs ++ after.val := by
  obtain ⟨before, hbefore⟩ := exists_blanks_dropWhile cs
  obtain ⟨after, hafter⟩ := exists_dropWhile_eq_trimBlanks cs
  refine ⟨before, after, ?_⟩
  rw [List.append_assoc, ← hafter]
  exact hbefore

theorem trimmed_trimBlanks (cs : List Char) : Trimmed (trimBlanks cs) where
  first c hc := by
    obtain ⟨after, hafter⟩ := exists_dropWhile_eq_trimBlanks cs
    refine @isBlank_of_head?_dropWhile cs _ ?_
    rw [hafter, List.head?_append, show (trimBlanks cs).head? = some c from hc]
    rfl
  last c hc := by
    unfold trimBlanks at hc
    rw [List.getLast?_reverse] at hc
    exact isBlank_of_head?_dropWhile hc

/-- White space at the end does not matter to trimming. -/
theorem trimBlanks_append (cs : List Char) (after : Blanks) :
    trimBlanks (cs ++ after.val) = trimBlanks cs := by
  obtain ⟨before, behind, hcs⟩ := exists_around_trimBlanks cs
  have hmore : cs ++ after.val
      = before.val ++ trimBlanks cs ++ (behind.append after).val := by
    rw [Blanks.append, ← List.append_assoc, ← hcs]
  rw [hmore, trimBlanks_around _ _ (trimmed_trimBlanks cs)]

/-! ### Pieces between separators -/

theorem piecesAt_eq_splitOn (sep : Char) (cs : List Char) : piecesAt sep cs = cs.splitOn sep := by
  induction cs with
  | nil => exact (List.splitOn_nil sep).symm
  | cons c rest ih =>
      have hsplit : (c :: rest).splitOn sep
          = if c == sep then [] :: rest.splitOn sep
            else (rest.splitOn sep).modifyHead (c :: ·) :=
        List.splitOnP_cons_eq_if_modifyHead c rest
      rw [hsplit, piecesAt, ih]
      split
      · rfl
      · cases hrest : rest.splitOn sep with
        | nil => exact absurd hrest (List.splitOn_ne_nil sep rest)
        | cons piece more => rfl

theorem not_mem_of_mem_piecesAt {sep : Char} {cs piece : List Char}
    (h : piece ∈ piecesAt sep cs) : sep ∉ piece := by
  induction cs generalizing piece with
  | nil =>
      rw [piecesAt, List.mem_singleton] at h
      simp [h]
  | cons c rest ih =>
      unfold piecesAt at h
      split at h
      · rcases List.mem_cons.1 h with rfl | h
        · simp
        · exact ih h
      · rename_i hother
        have hc : sep ≠ c := fun heq => hother (beq_iff_eq.2 heq.symm)
        split at h
        · rw [List.mem_singleton] at h
          simp [h, hc]
        · rename_i first more hpieces
          rcases List.mem_cons.1 h with rfl | h
          · have hfirst : sep ∉ first := ih (by rw [hpieces]; exact List.mem_cons_self)
            simp [hc, hfirst]
          · exact ih (by rw [hpieces]; exact List.mem_cons_of_mem _ h)

/-- What has no separator in it belongs to the last piece. -/
theorem piecesAt_append {sep : Char} (cs : List Char) {more : List Char} (h : sep ∉ more) :
    ∃ front last, piecesAt sep cs = front ++ [last]
      ∧ piecesAt sep (cs ++ more) = front ++ [last ++ more] := by
  induction cs with
  | nil =>
      have hmore : [sep].intercalate [more] = more := by simp [List.intercalate]
      refine ⟨[], [], rfl, ?_⟩
      rw [List.nil_append, ← hmore, piecesAt_eq_splitOn,
        List.splitOn_intercalate sep (by simpa using h) (by simp), hmore]
      rfl
  | cons c rest ih =>
      obtain ⟨front, last, hcs, hlonger⟩ := ih
      rw [List.cons_append, piecesAt, piecesAt, hcs, hlonger]
      by_cases hc : (c == sep) = true
      · exact ⟨[] :: front, last, by rw [if_pos hc]; rfl, by rw [if_pos hc]; rfl⟩
      · rw [if_neg hc, if_neg hc]
        cases front with
        | nil => exact ⟨[], c :: last, rfl, rfl⟩
        | cons first front => exact ⟨(c :: first) :: front, last, rfl, rfl⟩

namespace Directive

/-! ### The tags -/

/-- A tag and the space behind it. -/
def Tag.opening (tag : Tag) : List Char := tag.text.toList ++ [' ']

theorem Tag.strip?_eq_some_iff {tag : Tag} {comment list : List Char} :
    tag.strip? comment = some list ↔ trimBlanks comment = tag.opening ++ list := by
  unfold Tag.strip?
  show (if tag.opening.isPrefixOf (trimBlanks comment) = true then _ else _) = _ ↔ _
  split
  · rename_i hopening
    obtain ⟨rest, hrest⟩ := List.isPrefixOf_iff_prefix.1 hopening
    rw [← hrest]
    show some ((tag.opening ++ rest).drop tag.opening.length) = some list ↔ _
    rw [List.drop_left, Option.some_inj, List.append_cancel_left_eq]
  · rename_i hopening
    refine ⟨nofun, fun htext => absurd ?_ hopening⟩
    rw [htext]
    exact List.isPrefixOf_iff_prefix.2 (List.prefix_append ..)

/-- No text starts with two tags. -/
theorem Tag.eq_of_opening_prefix {tag other : Tag} {text : List Char}
    (htag : tag.opening <+: text) (hother : other.opening <+: text) : other = tag := by
  have hone : tag.opening <+: other.opening ∨ other.opening <+: tag.opening :=
    List.prefix_or_prefix_of_prefix htag hother
  revert hone
  cases tag <;> cases other <;> decide

/-- No tag is the beginning of one with nothing behind it. -/
theorem Tag.not_opening_prefix_text (tag other : Tag) : ¬other.opening <+: tag.text.toList := by
  cases tag <;> cases other <;> decide

theorem Tag.trimmed_text (tag : Tag) : Trimmed tag.text.toList := by
  cases tag <;> decide

/-! ### Names in a list -/

/-- A name that a directive can list. -/
structure IsListable (name : String) : Prop where
  nonempty : name ≠ ""
  noComma : ',' ∉ name.toList
  trimmed : Trimmed name.toList

instance (name : String) : Decidable (IsListable name) :=
  decidable_of_iff (name ≠ "" ∧ ',' ∉ name.toList ∧ Trimmed name.toList)
    ⟨fun h => ⟨h.1, h.2.1, h.2.2⟩, fun h => ⟨h.nonempty, h.noComma, h.trimmed⟩⟩

theorem isListable_of_mem {list : List Char} {name : String} (h : name ∈ listedNames list) :
    IsListable name := by
  obtain ⟨trimmed, htrimmed, rfl⟩ := List.mem_map.1 h
  obtain ⟨hmem, hnonempty⟩ := List.mem_filter.1 htrimmed
  obtain ⟨piece, hpiece, rfl⟩ := List.mem_map.1 hmem
  obtain ⟨before, after, haround⟩ := exists_around_trimBlanks piece
  refine ⟨fun hempty => ?_, ?_, ?_⟩
  · rw [← String.toList_eq_nil_iff, String.toList_ofList] at hempty
    simp [hempty] at hnonempty
  · rw [String.toList_ofList]
    refine fun hcomma => not_mem_of_mem_piecesAt hpiece ?_
    rw [haround]
    simp [hcomma]
  · rw [String.toList_ofList]
    exact trimmed_trimBlanks piece

/-- White space at the end of a list does not matter. -/
theorem listedNames_append (list : List Char) (after : Blanks) :
    listedNames (list ++ after.val) = listedNames list := by
  obtain ⟨front, last, hlist, hlonger⟩ :=
    piecesAt_append list (after.not_mem (show isBlank ',' = false by decide))
  unfold listedNames
  rw [hlist, hlonger, List.map_append, List.map_append, List.map_singleton, List.map_singleton,
    trimBlanks_append]

/-- A piece of a list: a name or nothing, with white space around it. -/
structure Piece where
  before : Blanks
  name? : Option String
  after : Blanks
  listable : ∀ name ∈ name?, IsListable name

namespace Piece

/-- The name itself, without the white space. -/
def core (p : Piece) : List Char := (p.name?.map String.toList).getD []

def text (p : Piece) : List Char := p.before.val ++ p.core ++ p.after.val

theorem trimmed_core (p : Piece) : Trimmed p.core := by
  unfold core
  cases hname : p.name? with
  | none => exact ⟨nofun, nofun⟩
  | some name => exact (p.listable name hname).trimmed

theorem comma_not_mem_text (p : Piece) : ',' ∉ p.text := by
  have hcore : ',' ∉ p.core := by
    unfold core
    cases hname : p.name? with
    | none => exact nofun
    | some name => exact (p.listable name hname).noComma
  simp [text, hcore, p.before.not_mem (show isBlank ',' = false by decide),
    p.after.not_mem (show isBlank ',' = false by decide)]

/-- Anything without a comma is a piece. -/
theorem exists_text_eq {cs : List Char} (h : ',' ∉ cs) : ∃ p : Piece, p.text = cs := by
  obtain ⟨before, after, haround⟩ := exists_around_trimBlanks cs
  by_cases hempty : trimBlanks cs = []
  · refine ⟨⟨before, none, after, nofun⟩, ?_⟩
    rw [haround, hempty]
    rfl
  · have hlistable : IsListable (String.ofList (trimBlanks cs)) := by
      refine ⟨fun hnil => hempty ?_, ?_, ?_⟩
      · rw [← String.toList_ofList (l := trimBlanks cs), hnil]
        rfl
      · rw [String.toList_ofList]
        refine fun hcomma => h ?_
        rw [haround]
        simp [hcomma]
      · rw [String.toList_ofList]
        exact trimmed_trimBlanks cs
    refine ⟨⟨before, some (String.ofList (trimBlanks cs)), after, ?_⟩, ?_⟩
    · rintro name ⟨⟩
      exact hlistable
    · show before.val ++ (String.ofList (trimBlanks cs)).toList ++ after.val = cs
      rw [String.toList_ofList, ← haround]

end Piece

/-- Pieces with commas between them. -/
def listText (pieces : List Piece) : List Char := [','].intercalate (pieces.map Piece.text)

/-- The names that pieces hold. -/
def namesOf (pieces : List Piece) : List String := pieces.filterMap Piece.name?

theorem exists_listText_eq (list : List Char) : ∃ pieces, listText pieces = list := by
  have hpieces : ∀ texts : List (List Char), (∀ text ∈ texts, ',' ∉ text) →
      ∃ pieces : List Piece, pieces.map Piece.text = texts := by
    intro texts hcomma
    induction texts with
    | nil => exact ⟨[], rfl⟩
    | cons text rest ih =>
        obtain ⟨piece, hpiece⟩ := Piece.exists_text_eq (hcomma text List.mem_cons_self)
        obtain ⟨pieces, hpieces⟩ := ih fun t ht => hcomma t (List.mem_cons_of_mem text ht)
        exact ⟨piece :: pieces, by rw [List.map_cons, hpiece, hpieces]⟩
  obtain ⟨pieces, hpieces⟩ := hpieces (piecesAt ',' list) fun _ => not_mem_of_mem_piecesAt
  refine ⟨pieces, ?_⟩
  rw [listText, hpieces, piecesAt_eq_splitOn, List.intercalate_splitOn]

theorem piecesAt_listText {pieces : List Piece} (h : pieces ≠ []) :
    piecesAt ',' (listText pieces) = pieces.map Piece.text := by
  rw [piecesAt_eq_splitOn]
  refine List.splitOn_intercalate ',' ?_ (by simpa using h)
  intro text htext
  obtain ⟨piece, -, rfl⟩ := List.mem_map.1 htext
  exact piece.comma_not_mem_text

/-- A list is read as the names that its pieces hold. -/
theorem listedNames_listText (pieces : List Piece) :
    listedNames (listText pieces) = namesOf pieces := by
  have hnames : ((pieces.map fun p => trimBlanks p.text).filter (!·.isEmpty)).map String.ofList
      = namesOf pieces := by
    induction pieces with
    | nil => rfl
    | cons p rest ih =>
        have hcore : trimBlanks p.text = p.core := trimBlanks_around _ _ p.trimmed_core
        rw [List.map_cons, hcore, namesOf, List.filterMap_cons]
        cases hname : p.name? with
        | none =>
            rw [Piece.core, hname]
            exact ih
        | some name =>
            have hnonempty : (!name.toList.isEmpty) = true := by
              simpa using (p.listable name hname).nonempty
            rw [Piece.core, hname]
            show ((name.toList :: _).filter fun piece => !piece.isEmpty).map String.ofList = _
            rw [List.filter_cons, if_pos hnonempty, List.map_cons, String.ofList_toList, ih]
            rfl
  cases pieces with
  | nil => rfl
  | cons p rest =>
      rw [listedNames, piecesAt_listText (by simp), List.map_map]
      exact hnames

/-! ### Comments -/

/-- A comment that lists names under a tag. -/
structure Listing where
  before : Blanks
  tag : Tag
  pieces : List Piece
  after : Blanks

namespace Listing

/-- The comment as it is written. -/
def text (l : Listing) : String :=
  String.ofList (l.before.val ++ (l.tag.opening ++ listText l.pieces) ++ l.after.val)

def names (l : Listing) : List String := namesOf l.pieces

/-- What is left of a listing when it is trimmed: its tag alone if there is nothing in the list, and
else all up to the end of the list. -/
theorem trimBlanks_text (l : Listing) :
    (trimBlanks l.text.toList = l.tag.text.toList ∧ l.names = [])
      ∨ ∃ list, trimBlanks l.text.toList = l.tag.opening ++ list ∧ listedNames list = l.names := by
  obtain ⟨before, after, hlist⟩ := exists_around_trimBlanks (listText l.pieces)
  have hcore := trimmed_trimBlanks (listText l.pieces)
  generalize trimBlanks (listText l.pieces) = core at hlist hcore
  have hnames : l.names = listedNames (before.val ++ core) := by
    rw [names, ← listedNames_listText, hlist, listedNames_append]
  rw [text, String.toList_ofList, hlist]
  by_cases hempty : core = []
  · subst hempty
    refine .inl ⟨?_, ?_⟩
    · let space := Blanks.ofList [' '] (by decide)
      let behind := ((space.append before).append after).append l.after
      have hcut : l.before.val ++ (l.tag.opening ++ (before.val ++ [] ++ after.val)) ++ l.after.val
          = l.before.val ++ l.tag.text.toList ++ behind.val := by
        simp [Tag.opening, behind, space, Blanks.ofList, Blanks.append]
      rw [hcut, trimBlanks_around _ _ l.tag.trimmed_text]
    · rw [hnames, List.append_nil, ← List.nil_append before.val, listedNames_append]
      rfl
  · refine .inr ⟨before.val ++ core, ?_, hnames.symm⟩
    have hcut : l.before.val ++ (l.tag.opening ++ (before.val ++ core ++ after.val)) ++ l.after.val
        = l.before.val ++ (l.tag.opening ++ (before.val ++ core)) ++ (after.append l.after).val := by
      simp [Blanks.append]
    rw [hcut]
    refine trimBlanks_around _ _ ⟨fun c hc => ?_, fun c hc => ?_⟩
    · refine l.tag.trimmed_text.first c ?_
      revert hc
      cases l.tag <;> exact id
    · rw [← List.append_assoc, List.getLast?_append] at hc
      rcases Option.or_eq_some_iff.1 hc with hlast | ⟨hnone, -⟩
      · exact hcore.last c hlast
      · exact absurd (List.getLast?_eq_none_iff.1 hnone) hempty

/-- A listing is read as its names under its tag, and as nothing under the others. -/
theorem namesIn_text (l : Listing) (tag : Tag) :
    namesIn tag l.text = if tag = l.tag then l.names else [] := by
  have hread {list : List Char} (h : tag.strip? l.text.toList = some list) :
      namesIn tag l.text = listedNames list := by
    rw [namesIn, h]
  have hnone (h : tag.strip? l.text.toList = none) : namesIn tag l.text = [] := by
    rw [namesIn, h]
  rcases l.trimBlanks_text with ⟨htext, hempty⟩ | ⟨list, htext, hlist⟩
  · rw [hempty, ite_self]
    refine hnone (Option.eq_none_iff_forall_ne_some.2 fun list hstrip => ?_)
    rw [Tag.strip?_eq_some_iff, htext] at hstrip
    exact l.tag.not_opening_prefix_text tag ⟨list, hstrip.symm⟩
  · split
    · rename_i htag
      subst htag
      rw [hread (Tag.strip?_eq_some_iff.2 htext), hlist]
    · rename_i hother
      refine hnone (Option.eq_none_iff_forall_ne_some.2 fun rest hstrip => hother ?_)
      rw [Tag.strip?_eq_some_iff] at hstrip
      exact Tag.eq_of_opening_prefix ⟨list, htext.symm⟩ ⟨rest, hstrip.symm⟩

/-- A comment that is read as names is a listing. -/
theorem exists_of_namesIn {tag : Tag} {comment : String} (h : namesIn tag comment ≠ []) :
    ∃ l : Listing, l.tag = tag ∧ l.text = comment := by
  cases hstrip : tag.strip? comment.toList with
  | none =>
      rw [namesIn, hstrip] at h
      exact absurd rfl h
  | some list =>
      obtain ⟨before, after, hcomment⟩ := exists_around_trimBlanks comment.toList
      obtain ⟨pieces, hpieces⟩ := exists_listText_eq list
      refine ⟨⟨before, tag, pieces, after⟩, rfl, ?_⟩
      rw [text, hpieces, ← Tag.strip?_eq_some_iff.1 hstrip, ← hcomment, String.ofList_toList]

end Listing

theorem isListable_of_mem_namesIn {tag : Tag} {comment name : String}
    (h : name ∈ namesIn tag comment) : IsListable name := by
  unfold namesIn at h
  split at h
  · exact isListable_of_mem h
  · cases h

/--
**Directives are read as they are written.**  A comment that lists names under a tag is read as
those names, in their order and with repetitions, however much white space there is and however
many pieces are empty; nothing is read of it under another tag; and no other comment is read as
names.  Comments are read one after the other, and all that comes out are names that can be
listed.
-/
theorem extract_listings :
    (∀ l : Listing, extract l.tag [l.text] = l.names
        ∧ ∀ other, other ≠ l.tag → extract other [l.text] = [])
      ∧ (∀ tag comment, extract tag [comment] ≠ [] →
          ∃ l : Listing, l.tag = tag ∧ l.text = comment)
      ∧ (∀ tag comments, extract tag comments
          = (comments.map fun comment => extract tag [comment]).flatten)
      ∧ ∀ tag comments, ∀ name ∈ extract tag comments, IsListable name := by
  have hone (tag : Tag) (comment : String) : extract tag [comment] = namesIn tag comment :=
    List.flatMap_singleton ..
  refine ⟨fun l => ⟨?_, fun other hother => ?_⟩, fun tag comment h => ?_, fun tag comments => ?_,
    fun tag comments name h => ?_⟩
  · rw [hone, l.namesIn_text, if_pos rfl]
  · rw [hone, l.namesIn_text, if_neg hother]
  · rw [hone] at h
    exact Listing.exists_of_namesIn h
  · rw [extract, List.flatMap_def]
    exact congrArg (fun f => (comments.map f).flatten) (funext fun comment => (hone tag comment).symm)
  · obtain ⟨comment, -, hname⟩ := List.mem_flatMap.1 h
    exact isListable_of_mem_namesIn hname

/-- White space of several kinds, pieces with nothing in them, and a comment that is written in
no particular way. -/
theorem extract_listings_padded :
    let wide := Blanks.ofList ['\u3000', '\t'] (by decide)
    let nothing := Blanks.ofList [] (by decide)
    let l : Listing :=
      { before := wide
        tag := .lintEnvironment
        pieces := [⟨wide, some "a b", nothing, by decide⟩, ⟨wide, none, wide, by decide⟩,
          ⟨nothing, some "c", wide, by decide⟩, ⟨nothing, some "a b", nothing, by decide⟩,
          ⟨nothing, none, wide, by decide⟩]
        after := wide }
    l.text = "\u3000\teslint-env \u3000\ta b,\u3000\t\u3000\t,c\u3000\t,a b,\u3000\t\u3000\t"
      ∧ extract .lintEnvironment [l.text] = ["a b", "c", "a b"]
      ∧ Tag.environment ≠ l.tag ∧ extract .environment [l.text] = []
      ∧ extract .global [" global a,, b"] ≠ []
      ∧ (∃ other : Listing, other.tag = .global ∧ other.text = " global a,, b")
      ∧ "b" ∈ extract .global ["env b", " global a,, b"] ∧ IsListable "b" := by
  intro wide nothing l
  obtain ⟨hread, hwritten, -, hlistable⟩ := extract_listings
  have hother : Tag.environment ≠ l.tag := by decide
  have hsome : extract .global [" global a,, b"] ≠ [] := by decide +kernel
  have hmem : "b" ∈ extract .global ["env b", " global a,, b"] := by decide +kernel
  exact ⟨by decide +kernel, (hread l).1, hother, (hread l).2 .environment hother, hsome,
    hwritten _ _ hsome, hmem, hlistable _ _ _ hmem⟩

end Directive

end FreeNames
