/-
The scripts below a path.

A directory is searched by going through its tree, and the paths of what is found are spelled by
putting the names of entries behind the start.  That such a path then leads to the file that was
met (`FileSystem.find_below`) needs the names to be names of entries: one that is empty, has a
slash in it or is made of dots would lead elsewhere, and of two entries of one name only the first
is found by its path.  Trees without such names are `FileTree.Legal`, and every tree on a disk is.
A path that grows too long on the way down leads nowhere, and what is there is passed over.

The search then lists exactly the regular files at or below the start whose last name ends in the
extension of a script, each of them once, in rising order of their components, and it is the same
list in whatever order the entries are met (`FileSystem.discovers_of_legal`).  Devices, pipes and
sockets are no regular files, whatever their names.
-/
import FreeNames.Files.FileSystem
import FreeNames.Proofs.Coherence
import FreeNames.Proofs.Paths
import FreeNames.Proofs.Lookup
import Mathlib.Data.List.Nodup
import Mathlib.Data.List.TakeWhile

namespace FreeNames

/-! ### Names of scripts -/

namespace Path

variable {name ext path : String}

/-- **The extension of a name** is what follows its last dot, and something stands before it. -/
theorem nameExtension?_eq_some_iff : nameExtension? name = some ext ↔
    '.' ∉ ext.toList ∧ ∃ stem, stem ≠ "" ∧ name = stem ++ "." ++ ext := by
  unfold nameExtension?
  dsimp only
  constructor
  · intro h
    split at h
    · rename_i c rest hdrop
      obtain rfl := Option.some.inj h
      have hback := List.takeWhile_append_dropWhile (p := (· != '.')) (l := name.toList.reverse)
      have hkept : ∀ c ∈ name.toList.reverse.takeWhile (· != '.'), c ≠ '.' := fun c hc =>
        bne_iff_ne.1 (List.mem_takeWhile_imp (p := (· != '.')) hc)
      rw [hdrop] at hback
      generalize name.toList.reverse.takeWhile (· != '.') = kept at hback hkept
      have hname : name.toList = (kept ++ '.' :: c :: rest).reverse := by
        rw [hback, List.reverse_reverse]
      refine ⟨?_, String.ofList (c :: rest).reverse, ?_, ?_⟩
      · simpa using fun hdot => hkept '.' hdot rfl
      · intro hempty
        simpa using congrArg String.toList hempty
      · apply String.toList_injective
        rw [hname]
        simp
    · cases h
  · rintro ⟨hdot, stem, hstem, rfl⟩
    have hback : (stem ++ "." ++ ext).toList.reverse
        = ext.toList.reverse ++ '.' :: stem.toList.reverse := by simp
    have hkept : ∀ c ∈ ext.toList.reverse, (c != '.') = true := fun c hc =>
      bne_iff_ne.2 fun heq => hdot (heq ▸ List.mem_reverse.1 hc)
    rw [hback, List.takeWhile_append_of_pos hkept, List.dropWhile_append_of_pos hkept,
      List.takeWhile_cons_of_neg (by simp), List.dropWhile_cons_of_neg (by simp)]
    cases hrest : stem.toList.reverse with
    | nil =>
        have : stem = "" := String.toList_eq_nil_iff.1 (List.reverse_eq_nil_iff.1 hrest)
        exact absurd this hstem
    | cons c rest => simp

example : nameExtension? "a.b.js" = some "js" ∧ nameExtension? ".js" = none := by decide

/-- Whether the last name of a path has the extension of a script. -/
def IsScript (path : String) : Prop :=
  ∃ stem ext, stem ≠ "" ∧ ext ∈ scriptExtensions ∧ fileName? path = some (stem ++ "." ++ ext)

theorem isScript_iff :
    (extension? path).any scriptExtensions.contains = true ↔ IsScript path := by
  have hdots : ∀ ext ∈ scriptExtensions, '.' ∉ ext.toList := by decide
  rw [Option.any_eq_true]
  constructor
  · rintro ⟨ext, hext, hscript⟩
    obtain ⟨name, hname, hext⟩ := Option.bind_eq_some_iff.1 hext
    obtain ⟨-, stem, hstem, rfl⟩ := nameExtension?_eq_some_iff.1 hext
    exact ⟨stem, ext, hstem, List.contains_iff_mem.1 hscript, hname⟩
  · rintro ⟨stem, ext, hstem, hscript, hname⟩
    refine ⟨ext, Option.bind_eq_some_iff.2 ⟨_, hname, ?_⟩, List.contains_iff_mem.2 hscript⟩
    exact nameExtension?_eq_some_iff.2 ⟨hdots ext hscript, stem, hstem, rfl⟩

/-- Whether a path is a start, or is spelled as one with names of entries behind it.  Nothing is
below the empty path, which leads nowhere. -/
def IsBelow (start path : String) : Prop :=
  start ≠ "" ∧ ∃ names, (∀ n ∈ names, IsName n) ∧ path = below start names

theorem IsBelow.trans {start directory : String} (h : IsBelow start directory)
    (h' : IsBelow directory path) : IsBelow start path := by
  obtain ⟨hstart, names, hnames, rfl⟩ := h
  obtain ⟨-, more, hmore, rfl⟩ := h'
  refine ⟨hstart, names ++ more, fun n hn => ?_, (below_append ..).symm⟩
  exact (List.mem_append.1 hn).elim (hnames n) (hmore n)

end Path

/-! ### Trees of files -/

namespace FileTree

variable {t found : FileTree} {entries : List (String × FileTree)} {above : List FileTree}
  {names way : List String} {name : String}

/-- Whether every entry has a name that can be a part of a path, and that no other entry of its
directory has. -/
inductive Legal : FileTree → Prop
  | file (text : Option String) : Legal (.file text)
  | directory {entries : List (String × FileTree)} (names : ∀ e ∈ entries, Path.IsName e.1)
      (apart : (entries.map (·.1)).Nodup) (inside : ∀ e ∈ entries, Legal e.2) :
      Legal (.directory entries)
  | special (reading : Except ReadError String) : Legal (.special reading)

theorem waysOf_eq_flatMap (entries : List (String × FileTree)) :
    waysOf entries = entries.flatMap fun e => e.2.ways.map (e.1 :: ·) := by
  induction entries with
  | nil => rfl
  | cons e rest ih => rw [waysOf, ih, List.flatMap_cons]

theorem walk_entry {piece : String} (hdot : piece ≠ ".") (hup : piece ≠ "..")
    (rest : List String) : (directory entries).walk above (piece :: rest)
      = (entries.lookup piece).elim (.error .missing)
        (·.walk (directory entries :: above) rest) := by
  have hskip : ¬(piece == ".") = true := by simpa using hdot
  have hdown : ¬(piece == "..") = true := by simpa using hup
  cases hentry : entries.lookup piece <;> simp only [walk, if_neg hskip, if_neg hdown, hentry] <;> rfl

/-- Without steps up it does not matter what is above. -/
theorem walk_above (h : ".." ∉ way) : t.walk above way = t.walk [] way := by
  induction way generalizing t above with
  | nil => rfl
  | cons piece rest ih =>
      obtain ⟨hpiece, hrest⟩ := not_or.1 (List.mem_cons.not.1 h)
      cases t with
      | file | special => rfl
      | directory entries =>
          have hup : ¬(piece == "..") = true := by simpa using Ne.symm hpiece
          simp only [walk, if_neg hup]
          split
          · exact ih hrest
          · cases entries.lookup piece with
            | none => rfl
            | some next => exact (ih hrest).trans (ih hrest).symm

/-- A way can be gone in two parts, if the second has no steps up. -/
theorem walk_append {more : List String} (h : ".." ∉ more) :
    t.walk above (way ++ more) = (t.walk above way).bind (·.walk [] more) := by
  induction way generalizing t above with
  | nil => exact walk_above h
  | cons piece rest ih =>
      cases t with
      | file | special => rfl
      | directory entries =>
          by_cases hdot : piece = "."
          · subst hdot
            exact ih
          · rw [List.cons_append]
            rcases walk_step entries above hdot with ⟨e, herror⟩ | ⟨next, around, hnext⟩
            · rw [herror, herror]
              rfl
            · rw [hnext, hnext]
              exact ih

/-- A last dot asks for a directory, and so does a name. -/
theorem walk_dot_bind (name : String) (rest : List String) :
    (t.walk [] ["."]).bind (·.walk [] (name :: rest)) = t.walk [] (name :: rest) := by
  cases t <;> rfl

theorem Legal.of_walk (h : t.Legal) (habove : ∀ u ∈ above, u.Legal)
    (hwalk : t.walk above way = .ok found) : found.Legal := by
  induction way generalizing t above with
  | nil =>
      cases hwalk
      exact h
  | cons piece rest ih =>
      cases h with
      | file | special => cases hwalk
      | @directory entries hnames hapart hinside =>
          have ht : (FileTree.directory entries).Legal := .directory hnames hapart hinside
          by_cases hdot : piece = "."
          · subst hdot
            exact ih ht habove hwalk
          · by_cases hup : piece = ".."
            · subst hup
              cases above with
              | nil => exact ih ht habove hwalk
              | cons parent above =>
                  exact ih (habove parent List.mem_cons_self)
                    (fun u hu => habove u (List.mem_cons_of_mem _ hu)) hwalk
            · rw [walk_entry hdot hup] at hwalk
              cases hnext : entries.lookup piece with
              | none => simp [hnext] at hwalk
              | some next =>
                  rw [hnext, Option.elim_some] at hwalk
                  have hmem := (lookup_eq_some_iff_mem hapart).1 hnext
                  exact ih (hinside _ hmem) (List.forall_mem_cons.2 ⟨ht, habove⟩) hwalk

/-- **The ways through a tree** are the ways of names that lead somewhere. -/
theorem Legal.mem_ways_iff (h : t.Legal) (above : List FileTree) : names ∈ t.ways ↔
    (∀ n ∈ names, Path.IsName n) ∧ ∃ found, t.walk above names = .ok found := by
  induction h generalizing names above with
  | file | special => cases names <;> simp [ways, walk]
  | @directory entries hnames hapart _ ih =>
      rw [ways, waysOf_eq_flatMap, List.mem_cons, List.mem_flatMap]
      constructor
      · rintro (rfl | ⟨e, he, hmem⟩)
        · exact ⟨by simp, _, rfl⟩
        · obtain ⟨rest, hrest, rfl⟩ := List.mem_map.1 hmem
          obtain ⟨hlegal, found, hwalk⟩ := (ih e he (.directory entries :: above)).1 hrest
          refine ⟨List.forall_mem_cons.2 ⟨hnames e he, hlegal⟩, found, ?_⟩
          have hname := hnames e he
          rw [walk_entry hname.not_dot hname.not_dots, (lookup_eq_some_iff_mem hapart).2 he]
          exact hwalk
      · rintro ⟨hlegal, found, hwalk⟩
        cases names with
        | nil => exact .inl rfl
        | cons name rest =>
            obtain ⟨hname, hrest⟩ := List.forall_mem_cons.1 hlegal
            rw [walk_entry hname.not_dot hname.not_dots] at hwalk
            cases hnext : entries.lookup name with
            | none => simp [hnext] at hwalk
            | some next =>
                have he := (lookup_eq_some_iff_mem hapart).1 hnext
                refine .inr ⟨(name, next), he, List.mem_map_of_mem ?_⟩
                rw [hnext, Option.elim_some] at hwalk
                exact (ih _ he _).2 ⟨hrest, found, hwalk⟩

theorem Legal.nodup_ways (h : t.Legal) : t.ways.Nodup := by
  induction h with
  | file | special => simp [ways]
  | @directory entries _ hapart _ ih =>
      rw [ways, waysOf_eq_flatMap, List.nodup_cons, List.nodup_flatMap]
      refine ⟨by simp, fun e he => (ih e he).map List.cons_injective, ?_⟩
      refine (List.pairwise_map.1 hapart).imp fun hne => ?_
      intro way hway hway'
      obtain ⟨rest, -, rfl⟩ := List.mem_map.1 hway
      obtain ⟨rest', -, heq⟩ := List.mem_map.1 hway'
      exact hne (List.cons.inj heq).1.symm

end FileTree

/-! ### Paths below a start -/

namespace FileSystem

variable {fs : FileSystem} {start name path : String} {names : List String} {t : FileTree}

/-- Whether a path leads to anything. -/
def Exists (fs : FileSystem) (path : String) : Prop := ∃ t, fs.find path = .ok t

theorem isFile_iff : fs.isFile path = true ↔ ∃ text, fs.find path = .ok (.file text) := by
  unfold isFile
  split <;> simp_all

/-- A name behind a path is one step more on its way. -/
theorem walk_way_join (hstart : start ≠ "") (h : Path.IsName name) :
    fs.root.walk [] (fs.way (Path.join start name))
      = (fs.root.walk [] (fs.way start)).bind (·.walk [] [name]) := by
  have hlast : ((Path.join start name).toList.getLast? == some '/') = false :=
    beq_false_of_ne (Path.getLast?_join hstart h)
  have hups : ".." ∉ [name] := by simpa using h.not_dots.symm
  -- The way to the start is one of pieces, and a dot behind them if the start ends in a slash.
  obtain ⟨way, hway, hlonger⟩ : ∃ way, fs.way start
        = way ++ (if start.toList.getLast? == some '/' then ["."] else [])
      ∧ fs.way (Path.join start name) = way ++ [name] := by
    unfold way
    rw [Path.isAbsolute_join, h.isAbsolute, Bool.false_or, hlast, Path.pieces_join hstart h]
    cases Path.isAbsolute start with
    | true => exact ⟨Path.pieces start, rfl, by simp⟩
    | false => exact ⟨Path.pieces fs.workingDirectory ++ Path.pieces start, rfl, by simp⟩
  rw [hway, hlonger, FileTree.walk_append hups]
  split
  · rw [FileTree.walk_append (by decide)]
    cases fs.root.walk [] way with
    | error e => rfl
    | ok found => exact (FileTree.walk_dot_bind name []).symm
  · rw [List.append_nil]

theorem walk_way_below (hstart : start ≠ "") (h : ∀ n ∈ names, Path.IsName n) :
    fs.root.walk [] (fs.way (Path.below start names))
      = (fs.root.walk [] (fs.way start)).bind (·.walk [] names) := by
  induction names generalizing start with
  | nil =>
      show fs.root.walk [] (fs.way start) = _
      cases fs.root.walk [] (fs.way start) <;> rfl
  | cons name rest ih =>
      obtain ⟨hname, hrest⟩ := List.forall_mem_cons.1 h
      have hups : ".." ∉ rest := fun hmem => (hrest _ hmem).not_dots rfl
      rw [Path.below_cons, ih (Path.join_ne_empty hstart hname) hrest, walk_way_join hstart hname]
      cases fs.root.walk [] (fs.way start) with
      | error e => rfl
      | ok t =>
          have hparts : t.walk [] ([name] ++ rest) = (t.walk [] [name]).bind (·.walk [] rest) :=
            FileTree.walk_append hups
          exact hparts.symm

/-- **A path below a start** that is not too long leads to what the names lead to from there. -/
theorem find_below (hstart : start ≠ "") (h : ∀ n ∈ names, Path.IsName n)
    (hfits : (Path.below start names).utf8ByteSize ≤ longestPath) :
    fs.find (Path.below start names) = (fs.find start).bind (·.walk [] names) := by
  have hempty : Path.below start names ≠ "" := by
    intro hnone
    have hle := Path.utf8ByteSize_le_below start h
    rw [hnone, String.utf8ByteSize_empty, Nat.le_zero, String.utf8ByteSize_eq_zero_iff] at hle
    exact hstart hle
  rw [fs.find_eq_walk hempty hfits,
    fs.find_eq_walk hstart ((Path.utf8ByteSize_le_below start h).trans hfits), walk_way_below hstart h]

theorem exists_walk_of_isFile (hstart : start ≠ "") (h : ∀ n ∈ names, Path.IsName n)
    (hfile : fs.isFile (Path.below start names) = true) :
    ∃ text, (fs.find start).bind (·.walk [] names) = .ok (.file text) := by
  obtain ⟨text, hpath⟩ := isFile_iff.1 hfile
  rw [find_below hstart h (find_eq_ok_iff.1 hpath).2.1] at hpath
  exact ⟨text, hpath⟩

theorem legal_of_find (h : fs.root.Legal) (hfind : fs.find path = .ok t) : t.Legal :=
  h.of_walk (by simp) (find_eq_ok_iff.1 hfind).2.2

/-! ### The search -/

theorem discover_eq (hfind : fs.find start = .ok t) : fs.discover start
    = (((t.ways.map (Path.below start)).filter
        fun path => fs.isFile path && (Path.extension? path).any scriptExtensions.contains).mergeSort
          Path.notBehind) := by
  unfold discover
  rw [hfind]
  rfl

/-- The search lists the scripts among the files at or below its start. -/
theorem mem_discover_iff (h : fs.root.Legal) : path ∈ fs.discover start ↔
    Path.IsBelow start path ∧ fs.isFile path = true ∧ Path.IsScript path := by
  cases hfind : fs.find start with
  | error e =>
      have hnone : fs.discover start = [] := by
        unfold discover
        rw [hfind]
      rw [hnone]
      refine ⟨fun hmem => by simp at hmem, ?_⟩
      rintro ⟨⟨hstart, names, hnames, rfl⟩, hfile, -⟩
      obtain ⟨text, hwalk⟩ := exists_walk_of_isFile hstart hnames hfile
      rw [hfind] at hwalk
      cases hwalk
  | ok t =>
      have hstart := (find_eq_ok_iff.1 hfind).1
      have ht := legal_of_find h hfind
      rw [discover_eq hfind, List.mem_mergeSort, List.mem_filter, List.mem_map, Bool.and_eq_true,
        Path.isScript_iff]
      refine and_congr_left fun ⟨hfile, _⟩ => ⟨?_, ?_⟩
      · rintro ⟨names, hmem, rfl⟩
        exact ⟨hstart, names, ((ht.mem_ways_iff []).1 hmem).1, rfl⟩
      · rintro ⟨-, names, hnames, rfl⟩
        obtain ⟨text, hwalk⟩ := exists_walk_of_isFile hstart hnames hfile
        rw [hfind] at hwalk
        exact ⟨names, (ht.mem_ways_iff []).2 ⟨hnames, _, hwalk⟩, rfl⟩

/-- Two paths below one start that have the same components have the same names. -/
theorem below_injective (hstart : start ≠ "") {more : List String}
    (h : ∀ n ∈ names, Path.IsName n) (h' : ∀ n ∈ more, Path.IsName n)
    (heq : Path.components (Path.below start names) = Path.components (Path.below start more)) :
    names = more := by
  rw [Path.components_below hstart h, Path.components_below hstart h',
    List.append_cancel_left_eq] at heq
  exact List.map_injective_iff.2 (fun a b => Path.Component.name.inj) heq

theorem discover_rising (h : fs.root.Legal) (start : String) :
    (fs.discover start).Pairwise
      fun a b => Path.before (Path.components a) (Path.components b) = true := by
  cases hfind : fs.find start with
  | error e => simp [discover, hfind]
  | ok t =>
      have hstart := (find_eq_ok_iff.1 hfind).1
      have ht := legal_of_find h hfind
      have hnames {names : List String} (hmem : names ∈ t.ways) : ∀ n ∈ names, Path.IsName n :=
        ((ht.mem_ways_iff []).1 hmem).1
      rw [discover_eq hfind]
      refine Path.pairwise_before_mergeSort ?_
      refine List.Nodup.sublist ((List.filter_sublist).map _) ?_
      rw [List.map_map]
      exact List.Nodup.map_on
        (fun a ha b hb => below_injective hstart (hnames ha) (hnames hb)) ht.nodup_ways

/-- What a search from a start lists. -/
structure Discovers (fs : FileSystem) (start : String) (found : List String) : Prop where
  /-- Each path comes before the next, component by component. -/
  rising : found.Pairwise fun a b => Path.before (Path.components a) (Path.components b) = true
  /-- No path is listed twice, however it is spelled. -/
  apart : (found.map Path.components).Nodup
  /-- What is listed are the scripts among the files at or below the start. -/
  listed : ∀ path, path ∈ found ↔
    Path.IsBelow start path ∧ fs.isFile path = true ∧ Path.IsScript path
  /-- However what is at or below the start is visited, if it is each of them once, sorting the
  scripts among the files gives this list. -/
  visited : ∀ paths : List String, paths.Nodup →
    (∀ path, path ∈ paths ↔ Path.IsBelow start path ∧ fs.Exists path) →
    found = (paths.filter fun path => fs.isFile path
      && (Path.extension? path).any scriptExtensions.contains).mergeSort Path.notBehind
  /-- A directory is not listed, whatever its name, and what a search from it lists are the listed
  paths below it. -/
  searched : ∀ directory entries, Path.IsBelow start directory →
    fs.find directory = .ok (.directory entries) →
    directory ∉ found
      ∧ ∀ path, path ∈ fs.discover directory ↔ path ∈ found ∧ Path.IsBelow directory path

/-- Paths below one start that are spelled differently are different paths. -/
theorem nodup_components {start : String} {paths : List String} (h : paths.Nodup)
    (hbelow : ∀ path ∈ paths, Path.IsBelow start path) : (paths.map Path.components).Nodup := by
  refine List.Nodup.map_on (fun a ha b hb heq => ?_) h
  obtain ⟨hstart, names, hnames, rfl⟩ := hbelow a ha
  obtain ⟨-, more, hmore, rfl⟩ := hbelow b hb
  rw [below_injective hstart hnames hmore heq]

/-- **The search is exact**: it lists the scripts below its start and nothing else, each once and
in the order of their paths. -/
theorem discovers_of_legal (h : fs.root.Legal) (start : String) :
    fs.Discovers start (fs.discover start) where
  rising := discover_rising h start
  apart := List.pairwise_map.2 ((discover_rising h start).imp fun hab heq => by
    rw [heq, Path.before_iff_lt] at hab
    exact lt_irrefl _ hab)
  listed path := mem_discover_iff h
  visited paths hnodup hpaths := by
    refine Path.eq_of_pairwise_before (discover_rising h start)
      (Path.pairwise_before_mergeSort ?_) fun path => ?_
    · exact nodup_components (hnodup.filter _) fun path hpath =>
        ((hpaths path).1 (List.mem_of_mem_filter hpath)).1
    · rw [mem_discover_iff h, List.mem_mergeSort, List.mem_filter, hpaths, Bool.and_eq_true,
        Path.isScript_iff]
      constructor
      · rintro ⟨hbelow, hfile, hscript⟩
        obtain ⟨text, hfind⟩ := isFile_iff.1 hfile
        exact ⟨⟨hbelow, _, hfind⟩, hfile, hscript⟩
      · rintro ⟨⟨hbelow, -⟩, hfile, hscript⟩
        exact ⟨hbelow, hfile, hscript⟩
  searched directory entries hdirectory hfind := by
    refine ⟨fun hmem => ?_, fun path => ?_⟩
    · obtain ⟨text, hfile⟩ := isFile_iff.1 ((mem_discover_iff h).1 hmem).2.1
      rw [hfind] at hfile
      cases hfile
    · rw [mem_discover_iff h, mem_discover_iff h]
      exact ⟨fun ⟨hbelow, hfile⟩ => ⟨⟨hdirectory.trans hbelow, hfile⟩, hbelow⟩,
        fun ⟨⟨_, hfile⟩, hbelow⟩ => ⟨hbelow, hfile⟩⟩

/-- A directory and a socket with the names of scripts, a script without a stem, and names that the
order of texts puts the other way round. -/
def library : FileSystem where
  root := .directory [("lib", .directory [
    ("x.js", .directory [("c.cjs", .file none), (".js", .file (some ""))]),
    ("a-b.js", .file (some "")), ("a", .directory [("b.mjs", .file (some ""))]),
    ("d.js.txt", .file (some "")), ("s.js", .special (.error .noDevice))])]
  workingDirectory := "/lib/a"

/-- What is in the directory is found, and neither the directory nor the socket is. -/
theorem discovers_library : library.root.Legal
    ∧ library.Discovers ".././" (library.discover ".././")
    ∧ ".././x.js/c.cjs" ∈ library.discover ".././" ∧ ".././x.js" ∉ library.discover ".././"
    ∧ library.Exists ".././s.js" ∧ ".././s.js" ∉ library.discover ".././" := by
  have hlegal : library.root.Legal := by
    unfold library
    refine .directory (by decide) (by decide) (List.forall_mem_singleton.2 ?_)
    refine .directory (by decide) (by decide) ?_
    simp only [List.forall_mem_cons, List.not_mem_nil, false_implies, implies_true, and_true]
    exact ⟨.directory (by decide) (by decide) (by simp [FileTree.Legal.file]), .file _,
      .directory (by decide) (by decide) (by simp [FileTree.Legal.file]), .file _, .special _⟩
  have hfound := discovers_of_legal hlegal ".././"
  have hnot {path : String} (hfile : library.isFile path = false) :
      path ∉ library.discover ".././" := by
    rw [hfound.listed, hfile]
    simp
  have hsocket : library.find ".././s.js" = .ok (.special (.error .noDevice)) := rfl
  refine ⟨hlegal, hfound, (hfound.listed _).2 ⟨?_, by decide +kernel, ?_⟩, hnot (by decide +kernel),
    ⟨_, hsocket⟩, hnot (by decide +kernel)⟩
  · exact ⟨by decide, ["x.js", "c.cjs"], by decide, by decide⟩
  · exact ⟨"c", "cjs", by decide, by decide, by decide⟩

end FileSystem

end FreeNames
