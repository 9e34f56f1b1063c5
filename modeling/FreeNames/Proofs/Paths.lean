/-
Paths below a directory, and their order.

A name put behind a path that is not empty is one component more, whatever slashes and dots the
path ends in (`Path.components_join`).  So names of entries put behind one start one after the
other can be read off the components again, and different names make different paths.  Slashes put at
the front of a path that starts at the root are no components at all, so such a path has spellings
of any length (`Path.padded`).

Paths are compared component by component.  That is the lexicographic order of lists over an
order of components, root and dots before names (`Path.before_iff_lt`), and therefore linear; it
is not the order of the texts, for `a-b` comes before `a/b` in the order of texts, and behind it
here.
-/
import FreeNames.Files.Path
import FreeNames.Proofs.Listings
import Mathlib.Data.List.Lex
import Mathlib.Data.Prod.Lex
import Mathlib.Data.String.Basic

namespace FreeNames

/-- A separator ends a piece. -/
theorem piecesAt_append_cons (sep : Char) (cs more : List Char) :
    piecesAt sep (cs ++ sep :: more) = piecesAt sep cs ++ piecesAt sep more := by
  induction cs with
  | nil => simp [piecesAt]
  | cons c rest ih =>
      rw [List.cons_append, piecesAt, piecesAt, ih]
      split
      · rfl
      · cases hrest : piecesAt sep rest with
        | nil => exact absurd (piecesAt_eq_splitOn sep rest ▸ hrest) (List.splitOn_ne_nil sep rest)
        | cons piece pieces => rfl

/-- A text without separators is one piece. -/
theorem piecesAt_of_not_mem {sep : Char} {cs : List Char} (h : sep ∉ cs) :
    piecesAt sep cs = [cs] := by
  obtain ⟨front, last, hnil, hcs⟩ := piecesAt_append [] h
  obtain ⟨rfl, rfl⟩ : front = [] ∧ last = [] := by
    cases front <;> simp_all [piecesAt]
  exact hcs

namespace Path

/-! ### Names behind a path -/

/-- Whether a text can be the name of an entry of a directory. -/
structure IsName (name : String) : Prop where
  nonempty : name ≠ ""
  not_dot : name ≠ "."
  not_dots : name ≠ ".."
  not_slash : '/' ∉ name.toList

instance (name : String) : Decidable (IsName name) :=
  decidable_of_iff (name ≠ "" ∧ name ≠ "." ∧ name ≠ ".." ∧ '/' ∉ name.toList)
    ⟨fun ⟨nonempty, not_dot, not_dots, not_slash⟩ => ⟨nonempty, not_dot, not_dots, not_slash⟩,
      fun h => ⟨h.nonempty, h.not_dot, h.not_dots, h.not_slash⟩⟩

variable {directory name path : String}

theorem isAbsolute_append (h : path ≠ "") (rest : String) :
    isAbsolute (path ++ rest) = isAbsolute path := by
  unfold isAbsolute
  rw [String.toList_append]
  cases hchars : path.toList with
  | nil => exact absurd (String.toList_eq_nil_iff.1 hchars) h
  | cons c cs => rfl

theorem isAbsolute_join (directory path : String) :
    isAbsolute (join directory path) = (isAbsolute path || isAbsolute directory) := by
  unfold join
  by_cases hpath : isAbsolute path = true
  · rw [hpath, Bool.true_or, Bool.true_or, if_pos rfl, hpath]
  · rw [Bool.not_eq_true] at hpath
    rw [hpath, Bool.false_or, Bool.false_or]
    by_cases hempty : directory = ""
    · subst hempty
      exact hpath
    · rw [if_neg (by simpa using hempty)]
      split
      · exact isAbsolute_append hempty _
      · rw [String.append_assoc]
        exact isAbsolute_append hempty _

theorem isAbsolute_ofGlobalsFile (path directory : String) :
    isAbsolute (ofGlobalsFile path directory) = (isAbsolute path || isAbsolute directory) := by
  have hnamed : isAbsolute (if extension? path == some "json" then path else path ++ ".json")
      = isAbsolute path := by
    split
    · rfl
    · by_cases hempty : path = ""
      · subst hempty
        decide
      · exact isAbsolute_append hempty _
  rw [ofGlobalsFile, isAbsolute_join, hnamed]

theorem pieces_append_slash (front rest : String) :
    pieces (front ++ "/" ++ rest) = pieces front ++ pieces rest := by
  have hlist : (front ++ "/" ++ rest).toList = front.toList ++ '/' :: rest.toList := by simp
  rw [pieces, hlist, piecesAt_append_cons, List.filter_append, List.map_append]
  rfl

namespace IsName

theorem isAbsolute (h : IsName name) : isAbsolute name = false := by
  unfold Path.isAbsolute
  cases hchars : name.toList with
  | nil => rfl
  | cons c cs =>
      have hslash := h.not_slash
      rw [hchars] at hslash
      simpa using fun hc => hslash (by simp [hc])

theorem pieces (h : IsName name) : pieces name = [name] := by
  have hchars : name.toList ≠ [] := fun hnil => h.nonempty (String.toList_eq_nil_iff.1 hnil)
  rw [Path.pieces, piecesAt_of_not_mem h.not_slash, List.filter_cons_of_pos (by simpa using hchars)]
  simp

theorem component? (h : IsName name) : component? name = some (.name name) := by
  simp [Path.component?, h.not_dot, h.not_dots]

theorem getLast?_ne (h : IsName name) : name.toList.getLast? ≠ some '/' :=
  fun hlast => h.not_slash (List.mem_of_getLast? hlast)

end IsName

/-- A name behind a path stands behind a slash. -/
theorem exists_join_eq (hd : directory ≠ "") (h : IsName name) :
    ∃ front, join directory name = front ++ "/" ++ name ∧ pieces front = pieces directory := by
  unfold join
  rw [if_neg (by simp [h.isAbsolute, hd])]
  split
  · rename_i hlast
    rw [beq_iff_eq] at hlast
    obtain ⟨front, hfront⟩ := List.getLast?_eq_some_iff.1 hlast
    have hsplit : directory = String.ofList front ++ "/" ++ "" := by
      apply String.toList_injective
      simpa using hfront
    refine ⟨String.ofList front, ?_, ?_⟩
    · conv_lhs => rw [hsplit]
      simp
    · conv_rhs => rw [hsplit, pieces_append_slash]
      simp [pieces, piecesAt]
  · exact ⟨directory, rfl, rfl⟩

theorem join_ne_empty (hd : directory ≠ "") (h : IsName name) : join directory name ≠ "" := by
  obtain ⟨front, hjoin, -⟩ := exists_join_eq hd h
  rw [hjoin]
  simp [h.nonempty]

theorem pieces_join (hd : directory ≠ "") (h : IsName name) :
    pieces (join directory name) = pieces directory ++ [name] := by
  obtain ⟨front, hjoin, hfront⟩ := exists_join_eq hd h
  rw [hjoin, pieces_append_slash, hfront, h.pieces]

theorem getLast?_join (hd : directory ≠ "") (h : IsName name) :
    (join directory name).toList.getLast? ≠ some '/' := by
  obtain ⟨front, hjoin, -⟩ := exists_join_eq hd h
  have hchars : name.toList ≠ [] := fun hnil => h.nonempty (String.toList_eq_nil_iff.1 hnil)
  rw [hjoin, String.toList_append, List.getLast?_append_of_ne_nil _ hchars]
  exact h.getLast?_ne

theorem utf8ByteSize_le_join (directory : String) (h : IsName name) :
    directory.utf8ByteSize ≤ (join directory name).utf8ByteSize := by
  unfold join
  split
  · rename_i hempty
    rw [h.isAbsolute, Bool.false_or, String.isEmpty_iff] at hempty
    simp [hempty]
  · split <;> simp only [String.utf8ByteSize_append] <;> omega

/-- **A name behind a path is one component more.** -/
theorem components_join (hd : directory ≠ "") (h : IsName name) :
    components (join directory name) = components directory ++ [.name name] := by
  have hdot : ((pieces directory ++ [name]).head? == some ".")
      = ((pieces directory).head? == some ".") := by
    cases pieces directory with
    | nil => simpa using h.not_dot
    | cons piece rest => rfl
  unfold components
  rw [isAbsolute_join, h.isAbsolute, Bool.false_or, pieces_join hd h, hdot, List.filterMap_append,
    List.filterMap_cons_some h.component?, List.filterMap_nil]
  dsimp only
  split
  · rfl
  · split <;> rfl

/-- A path with names behind it. -/
def below (start : String) (names : List String) : String := names.foldl join start

theorem below_cons (start name : String) (names : List String) :
    below start (name :: names) = below (join start name) names := rfl

theorem components_below {names : List String} (hd : directory ≠ "")
    (h : ∀ n ∈ names, IsName n) :
    components (below directory names) = components directory ++ names.map .name := by
  induction names generalizing directory with
  | nil => simp [below]
  | cons n rest ih =>
      have hn : IsName n := h n List.mem_cons_self
      have hrest := ih (join_ne_empty hd hn) fun m hm => h m (List.mem_cons_of_mem _ hm)
      rw [below_cons, hrest, components_join hd hn, List.append_assoc]
      rfl

theorem utf8ByteSize_le_below (directory : String) {names : List String}
    (h : ∀ n ∈ names, IsName n) :
    directory.utf8ByteSize ≤ (below directory names).utf8ByteSize := by
  induction names generalizing directory with
  | nil => exact le_rfl
  | cons n rest ih =>
      have hrest := ih (join directory n) fun m hm => h m (List.mem_cons_of_mem _ hm)
      exact (utf8ByteSize_le_join directory (h n List.mem_cons_self)).trans hrest

theorem below_append (start : String) (names more : List String) :
    below start (names ++ more) = below (below start names) more :=
  List.foldl_append

/-! ### Slashes at the front -/

theorem isAbsolute_slash (path : String) : isAbsolute ("/" ++ path) = true := by
  rw [isAbsolute_append (by decide)]
  decide

/-- One more slash at the front of a path that starts at the root does not count. -/
theorem components_slash (h : isAbsolute path = true) :
    components ("/" ++ path) = components path := by
  have hpieces : pieces ("/" ++ path) = pieces path := pieces_append_slash "" path
  unfold components
  rw [hpieces, isAbsolute_slash, h]

theorem ofGlobalsFile_of_isAbsolute (h : isAbsolute path = true) (directory : String) :
    ofGlobalsFile path directory
      = if extension? path == some "json" then path else path ++ ".json" := by
  have hempty : path ≠ "" := by
    rintro rfl
    cases h
  unfold ofGlobalsFile join
  split
  · rw [h, Bool.true_or, if_pos rfl]
  · rw [isAbsolute_append hempty, h, Bool.true_or, if_pos rfl]

theorem ofGlobalsFile_slash (h : isAbsolute path = true) (directory : String) :
    ofGlobalsFile ("/" ++ path) directory = "/" ++ ofGlobalsFile path directory := by
  have hextension : extension? ("/" ++ path) = extension? path := by
    unfold extension? fileName?
    rw [components_slash h]
  rw [ofGlobalsFile_of_isAbsolute (isAbsolute_slash path), ofGlobalsFile_of_isAbsolute h, hextension]
  split
  · rfl
  · rw [String.append_assoc]

/-- A path with slashes put at its front. -/
def padded (path : String) : Nat → String
  | 0 => path
  | n + 1 => "/" ++ padded path n

theorem isAbsolute_padded (h : isAbsolute path = true) (n : Nat) :
    isAbsolute (padded path n) = true := by
  cases n with
  | zero => exact h
  | succ n => exact isAbsolute_slash _

theorem components_padded (h : isAbsolute path = true) (n : Nat) :
    components (padded path n) = components path := by
  induction n with
  | zero => rfl
  | succ n ih => rw [padded, components_slash (isAbsolute_padded h n), ih]

theorem ofGlobalsFile_padded (h : isAbsolute path = true) (directory : String) (n : Nat) :
    ofGlobalsFile (padded path n) directory = padded (ofGlobalsFile path directory) n := by
  induction n with
  | zero => rfl
  | succ n ih => rw [padded, ofGlobalsFile_slash (isAbsolute_padded h n), ih, padded]

theorem utf8ByteSize_padded (path : String) (n : Nat) :
    (padded path n).utf8ByteSize = path.utf8ByteSize + n := by
  induction n with
  | zero => rfl
  | succ n ih =>
      have hslash : "/".utf8ByteSize = 1 := by decide
      rw [padded, String.utf8ByteSize_append, ih, hslash]
      omega

/-! ### The order of paths -/

/-- Where a component stands: by its kind, and names by their texts. -/
def Component.key : Component → ℕ ×ₗ String
  | .name s => toLex (3, s)
  | c => toLex (c.rank, "")

theorem Component.key_injective : Function.Injective Component.key := by
  intro a b h
  cases a <;> cases b <;> simp_all [key, rank]

theorem Component.before_iff_lt (a b : Component) : a.before b = true ↔ a.key < b.key := by
  cases a <;> cases b <;> simp [before, key, rank, Prod.Lex.toLex_lt_toLex]

/-- The order of paths is lexicographic. -/
theorem before_iff_lt (as bs : List Component) :
    before as bs = true ↔ as.map Component.key < bs.map Component.key := by
  induction as generalizing bs with
  | nil => cases bs <;> simp [before]
  | cons a rest ih =>
      cases bs with
      | nil => simp [before]
      | cons b more =>
          simp [before, ih, List.cons_lt_cons_iff, Component.before_iff_lt,
            Component.key_injective.eq_iff]

example : before (components "a/b") (components "a-b") = true ∧ "a-b" < "a/b" := by decide

/-- Whether one path does not come behind another. -/
def notBehind (a b : String) : Bool := !before (components b) (components a)

/-- Where a path stands among paths. -/
def key (path : String) : List (ℕ ×ₗ String) := (components path).map Component.key

theorem key_eq_iff {a b : String} : key a = key b ↔ components a = components b :=
  (List.map_injective_iff.2 Component.key_injective).eq_iff

theorem notBehind_iff_le (a b : String) : notBehind a b = true ↔ key a ≤ key b := by
  rw [notBehind, Bool.not_eq_true', ← Bool.not_eq_true, before_iff_lt, not_lt]
  rfl

/-- Paths no two of which are the same rise strictly once they are sorted. -/
theorem pairwise_before_mergeSort {paths : List String} (h : (paths.map components).Nodup) :
    (paths.mergeSort notBehind).Pairwise
      fun a b => before (components a) (components b) = true := by
  have hsorted : (paths.mergeSort notBehind).Pairwise fun a b => notBehind a b = true :=
    List.pairwise_mergeSort
      (fun a b c hab hbc => (notBehind_iff_le a c).2
        (((notBehind_iff_le a b).1 hab).trans ((notBehind_iff_le b c).1 hbc)))
      (fun a b => by
        rw [Bool.or_eq_true, notBehind_iff_le, notBehind_iff_le]
        exact le_total _ _)
      paths
  have hapart : (paths.mergeSort notBehind).Pairwise fun a b => components a ≠ components b :=
    List.pairwise_map.1 (((List.mergeSort_perm paths notBehind).map components).nodup_iff.2 h)
  refine hsorted.imp₂ (fun a b hle hne => ?_) hapart
  exact (before_iff_lt _ _).2 (((notBehind_iff_le a b).1 hle).lt_of_ne (key_eq_iff.not.2 hne))

/-- There is one way only to put paths in strictly rising order. -/
theorem eq_of_pairwise_before {paths others : List String}
    (h : paths.Pairwise fun a b => before (components a) (components b) = true)
    (h' : others.Pairwise fun a b => before (components a) (components b) = true)
    (hmem : ∀ path, path ∈ paths ↔ path ∈ others) : paths = others := by
  have hlt {l : List String}
      (hl : l.Pairwise fun a b => before (components a) (components b) = true) :
      l.Pairwise fun a b => key a < key b :=
    hl.imp fun hab => (before_iff_lt _ _).1 hab
  have hnodup {l : List String} (hl : l.Pairwise fun a b => key a < key b) : l.Nodup :=
    hl.imp fun hab heq => by subst heq; exact lt_irrefl _ hab
  have hperm : paths.Perm others :=
    (List.perm_ext_iff_of_nodup (hnodup (hlt h)) (hnodup (hlt h'))).2 hmem
  exact hperm.eq_of_pairwise (fun a b _ _ hab hba => absurd hba hab.asymm) (hlt h) (hlt h')

end Path

end FreeNames
