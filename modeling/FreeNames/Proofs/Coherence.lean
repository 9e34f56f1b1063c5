/-
A cache that says what the files say.

A cache knows a path by its components, and opening a file goes by the spelling: `a//b`
and `a/b` are one path to both, but with a slash at its end a path leads to nothing
unless it leads to a directory, and a spelling of too many slashes leads to nothing at
all.  So two spellings of one path need not both lead to the file; if both do, they lead
to the same (`FileSystem.read_unique`), and if one does not, it asks for a directory
where there is none or is too long (`FileSystem.read_eq_error_of_components`).  That is
enough for a cache whose entries are what some spelling reads as
(`GlobalsCache.Coherent`): a load of a path that can be read gives what reading it gives.
-/
import FreeNames.Proofs.CacheHistory

namespace FreeNames

/-! ### Spellings of a path -/

namespace Path

/-- The piece of a path that a component stands for. -/
def Component.piece? : Component → Option String
  | .root | .current => none
  | .parent => some ".."
  | .name s => some s

/-- The components of a path are its pieces but for the dots. -/
theorem filterMap_piece?_components (path : String) :
    (components path).filterMap Component.piece? = (pieces path).filter (· != ".") := by
  have hpieces (ps : List String) :
      (ps.filterMap component?).filterMap Component.piece? = ps.filter (· != ".") := by
    induction ps with
    | nil => rfl
    | cons piece rest ih =>
        by_cases hdot : piece = "."
        · subst hdot
          exact ih
        · have hkept : (component? piece).bind Component.piece? = some piece := by
            by_cases hup : piece = ".."
            · subst hup
              rfl
            · simp [component?, hdot, hup, Component.piece?]
          rw [List.filterMap_filterMap] at ih ⊢
          rw [List.filterMap_cons, hkept, List.filter_cons_of_pos (by simpa using hdot), ih]
  unfold components
  split
  · exact hpieces _
  · split
    · exact hpieces _
    · exact hpieces _

theorem isAbsolute_iff {path : String} : isAbsolute path = true ↔ .root ∈ components path := by
  have hnot (ps : List String) : Component.root ∉ ps.filterMap component? := by
    intro hroot
    obtain ⟨piece, -, hpiece⟩ := List.mem_filterMap.1 hroot
    unfold component? at hpiece
    split at hpiece
    · cases hpiece
    · split at hpiece <;> cases hpiece
  unfold components
  cases isAbsolute path with
  | true => simp
  | false =>
      rw [if_neg Bool.false_ne_true]
      split <;> simp [hnot]

end Path

/-- A step from a directory that is no dot leads nowhere, or on to another tree. -/
theorem FileTree.walk_step (entries : List (String × FileTree)) (above : List FileTree)
    {piece : String} (hdot : piece ≠ ".") :
    (∃ e, ∀ rest, (FileTree.directory entries).walk above (piece :: rest) = .error e)
      ∨ ∃ (next : FileTree) (around : List FileTree), ∀ rest,
          (FileTree.directory entries).walk above (piece :: rest) = next.walk around rest := by
  have hskip : ¬(piece == ".") = true := by simpa using hdot
  by_cases hup : (piece == "..") = true
  · refine .inr ?_
    cases above with
    | nil => exact ⟨.directory entries, [], fun rest => by rw [walk, if_neg hskip, if_pos hup]⟩
    | cons parent above =>
        exact ⟨parent, above, fun rest => by rw [walk, if_neg hskip, if_pos hup]⟩
  · cases hentry : entries.lookup piece with
    | none => exact .inl ⟨.missing, fun rest => by simp only [walk, if_neg hskip, if_neg hup, hentry]⟩
    | some next =>
        exact .inr ⟨next, .directory entries :: above, fun rest => by
          simp only [walk, if_neg hskip, if_neg hup, hentry]⟩

/-- Dots do not count on a way that leads somewhere. -/
theorem FileTree.walk_filter_dots {t found : FileTree} {above : List FileTree} {way : List String}
    (h : t.walk above way = .ok found) : t.walk above (way.filter (· != ".")) = .ok found := by
  induction way generalizing t above with
  | nil => exact h
  | cons piece rest ih =>
      cases t with
      | file | special => cases h
      | directory entries =>
          by_cases hdot : piece = "."
          · subst hdot
            exact ih h
          · rw [List.filter_cons_of_pos (by simpa using hdot)]
            rcases walk_step entries above hdot with ⟨e, herror⟩ | ⟨next, around, hnext⟩
            · rw [herror] at h
              cases h
            · rw [hnext] at h ⊢
              exact ih h

namespace FileSystem

variable {fs : FileSystem} {path other text text' : String} {t : FileTree} {globals : Globals}

/-- A path leads to something if it is not empty, is not too long and its way does. -/
theorem find_eq_ok_iff : fs.find path = .ok t ↔
    path ≠ "" ∧ path.utf8ByteSize ≤ longestPath ∧ fs.root.walk [] (fs.way path) = .ok t := by
  unfold find
  rw [← Nat.not_lt, Ne, ← String.isEmpty_iff]
  split
  · simp [*]
  · split <;> simp [*]

theorem find_eq_nameTooLong (fs : FileSystem) (hlong : longestPath < path.utf8ByteSize) :
    fs.find path = .error .nameTooLong := by
  have hempty : path ≠ "" := by
    rintro rfl
    cases hlong
  simp [find, hempty, hlong]

theorem find_eq_walk (fs : FileSystem) (hempty : path ≠ "") (hfits : path.utf8ByteSize ≤ longestPath) :
    fs.find path = fs.root.walk [] (fs.way path) := by
  simp [find, hempty, Nat.not_lt.2 hfits]

theorem read_eq_ok_iff :
    fs.read path = .ok text ↔ ∃ t, fs.find path = .ok t ∧ t.text = .ok text := by
  unfold read
  cases fs.find path <;> simp

theorem filter_dots_way (fs : FileSystem) (h : Path.components other = Path.components path) :
    (fs.way other).filter (· != ".") = (fs.way path).filter (· != ".") := by
  have hpieces : (Path.pieces other).filter (· != ".") = (Path.pieces path).filter (· != ".") := by
    rw [← Path.filterMap_piece?_components, ← Path.filterMap_piece?_components, h]
  have habsolute : Path.isAbsolute other = Path.isAbsolute path := by
    rw [Bool.eq_iff_iff, Path.isAbsolute_iff, Path.isAbsolute_iff, h]
  have hlast (slash : Bool) : (if slash then ["."] else []).filter (· != ".") = [] := by
    cases slash <;> rfl
  unfold way
  dsimp only
  rw [habsolute]
  split
  · rw [List.filter_append, List.filter_append, hpieces, hlast, hlast]
  · rw [List.filter_append, List.filter_append, List.filter_append, List.filter_append, hpieces,
      hlast, hlast]

/-- What can be read is at the end of its way. -/
theorem walk_of_read (h : fs.read path = .ok text) :
    ∃ t, fs.root.walk [] ((fs.way path).filter (· != ".")) = .ok t ∧ t.text = .ok text := by
  obtain ⟨t, hfind, htext⟩ := read_eq_ok_iff.1 h
  exact ⟨t, FileTree.walk_filter_dots (find_eq_ok_iff.1 hfind).2.2, htext⟩

/-- Two spellings of one path that can both be read read as the same. -/
theorem read_unique (h : Path.components other = Path.components path)
    (hother : fs.read other = .ok text') (hpath : fs.read path = .ok text) : text' = text := by
  obtain ⟨t', hwalk', htext'⟩ := walk_of_read hother
  obtain ⟨t, hwalk, htext⟩ := walk_of_read hpath
  rw [filter_dots_way fs h, hwalk] at hwalk'
  cases hwalk'
  rw [htext] at htext'
  cases htext'
  rfl

theorem readGlobals_eq_ok_iff : fs.readGlobals path = .ok globals ↔
    ∃ text members, fs.read path = .ok text
      ∧ Options.readJson? text = some (.object members) ∧ globals = .ofMembers members := by
  unfold readGlobals
  cases fs.read path with
  | error reason => simp
  | ok text =>
      unfold Globals.ofText
      dsimp only
      cases hread : Options.readJson? text with
      | none => simp [hread]
      | some value =>
          cases value <;> simp [hread, eq_comm]

theorem readGlobals_unique {globals' : Globals}
    (h : Path.components other = Path.components path)
    (hother : fs.readGlobals other = .ok globals') (hpath : fs.readGlobals path = .ok globals) :
    globals' = globals := by
  obtain ⟨text', members', htext', hjson', rfl⟩ := readGlobals_eq_ok_iff.1 hother
  obtain ⟨text, members, htext, hjson, rfl⟩ := readGlobals_eq_ok_iff.1 hpath
  obtain rfl := read_unique h htext' htext
  rw [hjson] at hjson'
  cases hjson'
  rfl

end FileSystem

/-! ### Spellings that keep a path from being opened -/

namespace Path

/-- Whether a path ends in a slash or in a dot, so that it can only be read as a directory. -/
def AsksForDirectory (path : String) : Prop :=
  path.toList.getLast? = some '/' ∨ (pieces path).getLast? = some "."

instance (path : String) : Decidable (AsksForDirectory path) := inferInstanceAs (Decidable (_ ∨ _))

/-- What may be wrong with the spelling of a path that can be opened in another one, and why it then
cannot be opened. -/
inductive Misspelled (path : String) : ReadError → Prop
  /-- It asks for a directory where there is none. -/
  | directory (hasks : AsksForDirectory path) : Misspelled path .notDirectory
  | length (hlong : longestPath < path.utf8ByteSize) : Misspelled path .nameTooLong

/-- A path without pieces is made of slashes. -/
theorem eq_slash_of_pieces_eq_nil {path : String} (h : pieces path = []) :
    ∀ c ∈ path.toList, c = '/' := by
  have hall (cs : List Char) (hcs : (piecesAt '/' cs).filter (!·.isEmpty) = []) :
      ∀ c ∈ cs, c = '/' := by
    induction cs with
    | nil => simp
    | cons c rest ih =>
        unfold piecesAt at hcs
        split at hcs
        · rename_i hslash
          intro d hd
          rcases List.mem_cons.1 hd with rfl | hd
          · exact beq_iff_eq.1 hslash
          · exact ih (by simpa using hcs) d hd
        · exfalso
          split at hcs <;> simp at hcs
  exact hall path.toList (List.map_eq_nil_iff.1 h)

theorem ofGlobalsFile_ne_empty (path directory : String) : ofGlobalsFile path directory ≠ "" := by
  have hnamed : (if extension? path == some "json" then path else path ++ ".json") ≠ "" := by
    split
    · rintro rfl
      revert ‹_›
      decide
    · simp
  unfold ofGlobalsFile
  generalize (if extension? path == some "json" then path else path ++ ".json") = named at hnamed
  unfold join
  split
  · exact hnamed
  · split <;> simp [hnamed]

end Path

/-- A way that leads somewhere once its dots are left out leads there itself, unless it ends in a
dot. -/
theorem FileTree.walk_of_filter_dots {t found : FileTree} {above : List FileTree}
    {way : List String} (h : t.walk above (way.filter (· != ".")) = .ok found) :
    t.walk above way = .ok found
      ∨ (t.walk above way = .error .notDirectory ∧ way.getLast? = some ".") := by
  induction way generalizing t above with
  | nil => exact .inl h
  | cons piece rest ih =>
      have hlonger (hlast : rest.getLast? = some ".") : (piece :: rest).getLast? = some "." := by
        rw [List.getLast?_cons, hlast]
        rfl
      by_cases hdot : piece = "."
      · subst hdot
        rw [List.filter_cons_of_neg (by simp)] at h
        cases t with
        | file | special =>
            -- Only dots are left where there is no directory.
            have hdots : rest.filter (· != ".") = [] := by
              cases hrest : rest.filter (· != ".") with
              | nil => rfl
              | cons next more =>
                  rw [hrest] at h
                  cases h
            refine .inr ⟨rfl, ?_⟩
            obtain ⟨last, hlast⟩ := Option.ne_none_iff_exists'.1
              (mt List.getLast?_eq_none_iff.1 (List.cons_ne_nil "." rest))
            rw [hlast]
            rcases List.mem_cons.1 (List.mem_of_getLast? hlast) with rfl | hmem
            · rfl
            · simpa using List.filter_eq_nil_iff.1 hdots last hmem
        | directory entries => exact (ih h).imp_right (And.imp_right hlonger)
      · rw [List.filter_cons_of_pos (by simpa using hdot)] at h
        cases t with
        | file | special => cases h
        | directory entries =>
            rcases walk_step entries above hdot with ⟨e, herror⟩ | ⟨next, around, hnext⟩
            · rw [herror] at h
              cases h
            · rw [hnext] at h ⊢
              exact (ih h).imp_right (And.imp_right hlonger)

namespace FileSystem

variable {fs : FileSystem} {path other text : String} {reason : ReadError}

/-- A path that ends in no slash and no dot has no dot at the end of its way. -/
theorem asksForDirectory_of_way (hempty : path ≠ "") (h : (fs.way path).getLast? = some ".") :
    Path.AsksForDirectory path := by
  by_cases hslash : path.toList.getLast? = some '/'
  · exact .inl hslash
  · refine .inr ?_
    have hpieces : Path.pieces path ≠ [] := by
      intro hnone
      refine hslash ?_
      have hchars : path.toList ≠ [] := fun hnil => hempty (String.toList_eq_nil_iff.1 hnil)
      obtain ⟨last, hlast⟩ := Option.ne_none_iff_exists'.1 (mt List.getLast?_eq_none_iff.1 hchars)
      rw [hlast, Path.eq_slash_of_pieces_eq_nil hnone last (List.mem_of_getLast? hlast)]
    have hplain : ¬(path.toList.getLast? == some '/') = true := by simpa using hslash
    unfold way at h
    simp only [if_neg hplain, List.append_nil] at h
    split at h
    · exact h
    · obtain ⟨last, hlast⟩ := Option.ne_none_iff_exists'.1 (mt List.getLast?_eq_none_iff.1 hpieces)
      rw [List.getLast?_append, hlast] at h
      rw [hlast]
      exact h

/-- If one spelling of a path can be read and another cannot, it is the spelling that is at
fault. -/
theorem read_eq_error_of_components (hsame : Path.components other = Path.components path)
    (hother : fs.read other = .ok text) (hempty : path ≠ "") (hpath : fs.read path = .error reason) :
    Path.Misspelled path reason := by
  obtain ⟨t, hwalk, htext⟩ := walk_of_read hother
  rw [filter_dots_way fs hsame] at hwalk
  rcases Nat.lt_or_ge longestPath path.utf8ByteSize with hlong | hfits
  · rw [read, fs.find_eq_nameTooLong hlong] at hpath
    cases hpath
    exact .length hlong
  · have hfind := fs.find_eq_walk hempty hfits
    rcases FileTree.walk_of_filter_dots hwalk with hfound | ⟨herror, hlast⟩
    · rw [read, hfind, hfound] at hpath
      cases htext.symm.trans hpath
    · rw [read, hfind, herror] at hpath
      cases hpath
      exact .directory (asksForDirectory_of_way hempty hlast)

theorem readGlobals_eq_error_of_components {globals : Globals} {failure : Failure}
    (hsame : Path.components other = Path.components path)
    (hother : fs.readGlobals other = .ok globals) (hempty : path ≠ "")
    (hpath : fs.readGlobals path = .error failure) :
    ∃ reason, Path.Misspelled path reason ∧ failure = .globalsUnreadable path reason := by
  obtain ⟨text, members, htext, hjson, rfl⟩ := readGlobals_eq_ok_iff.1 hother
  cases hread : fs.read path with
  | ok text' =>
      obtain rfl := read_unique hsame htext hread
      rw [readGlobals_eq_ok_iff.2 ⟨text, members, hread, hjson, rfl⟩] at hpath
      cases hpath
  | error reason =>
      refine ⟨reason, read_eq_error_of_components hsame htext hempty hread, ?_⟩
      unfold readGlobals at hpath
      rw [hread] at hpath
      cases hpath
      rfl

end FileSystem

/-! ### Caches that say what the files say -/

namespace GlobalsCache

/-- Every entry is what the file of its path now reads as, in some spelling of the path. -/
def Coherent (cache : GlobalsCache) (fs : FileSystem) : Prop :=
  ∀ path globals, cache.get? path = some globals →
    ∃ other, Path.components other = Path.components path ∧ fs.readGlobals other = .ok globals

theorem coherent_empty (fs : FileSystem) : Coherent .empty fs := by
  intro path globals h
  cases h

/-- A load through such a cache gives what reading the file gives, if it can be read. -/
theorem Coherent.load {cache : GlobalsCache} {fs : FileSystem} (h : cache.Coherent fs)
    {path : String} {globals : Globals} (hread : fs.readGlobals path = .ok globals) :
    (cache.load fs path).1 = .ok globals := by
  rw [fst_load]
  cases hentry : cache.get? path with
  | some kept =>
      obtain ⟨other, hsame, hother⟩ := h path kept hentry
      rw [FileSystem.readGlobals_unique hsame hother hread]
  | none => exact hread

/-- And a load leaves it so. -/
theorem Coherent.after_load {cache : GlobalsCache} {fs : FileSystem} (h : cache.Coherent fs)
    (path : String) : (cache.load fs path).2.Coherent fs := by
  cases hentry : cache.get? path with
  | some kept =>
      rw [load_of_get?_eq_some hentry]
      exact h
  | none =>
      cases hread : fs.readGlobals path with
      | error failure =>
          rw [load_of_readGlobals_eq_error hentry hread]
          exact h
      | ok globals =>
          rw [load_of_readGlobals_eq_ok hentry hread]
          intro other kept hkept
          rw [get?, List.lookup_cons] at hkept
          split at hkept
          · rename_i hsame
            cases hkept
            exact ⟨path, (beq_iff_eq.1 hsame).symm, hread⟩
          · exact h other kept hkept

end GlobalsCache

end FreeNames
