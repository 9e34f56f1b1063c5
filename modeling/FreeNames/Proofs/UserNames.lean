/-
What the user's globals are good for: their names.

The user says them as a list, as a table with flags or as a file that holds one.  All
that a run makes of them, of the environments and of the directives is which names there
are.  So names that are added cost their own edits and nothing else
(`Options.qualify_extended`), and options that name the same environments and the same
globals, in whatever order and shape, give the same text (`Options.qualify_interchange`).
-/
import FreeNames.Proofs.Coherence
import FreeNames.Proofs.Membership
import FreeNames.Proofs.Run

namespace FreeNames

/-! ### The names of a set -/

namespace Globals

variable {g : Globals} {name : String}

theorem contains_iff_mem : g.contains name = true ↔ name ∈ g.entries.map (·.1) := by
  rw [contains, get?, List.lookup_isSome_iff, List.mem_map]
  constructor
  · rintro ⟨e, he, hname⟩
    exact ⟨e, he, (beq_iff_eq.1 hname).symm⟩
  · rintro ⟨e, he, hname⟩
    exact ⟨e, he, beq_iff_eq.2 hname.symm⟩

theorem contains_insert {other : String} {flag : Bool} :
    (g.insert other flag).contains name = true ↔ name = other ∨ g.contains name = true := by
  rw [contains, get?_insert, contains]
  by_cases h : name = other
  · simp [h]
  · simp [h]

/-- A set has the names of the list that it is made of. -/
theorem contains_ofList {pairs : List (String × Bool)} :
    (ofList pairs).contains name = true ↔ name ∈ pairs.map (·.1) := by
  have hall (g : Globals) : (pairs.foldl (fun g e => g.insert e.1 e.2) g).contains name = true
      ↔ name ∈ pairs.map (·.1) ∨ g.contains name = true := by
    induction pairs generalizing g with
    | nil => simp
    | cons e rest ih =>
        rw [List.foldl_cons, ih, contains_insert, List.map_cons, List.mem_cons, or_left_comm,
          or_assoc]
  rw [ofList, hall]
  exact or_iff_left Bool.false_ne_true

theorem contains_ofNames {names : List String} {flag : Bool} :
    (ofNames names flag).contains name = true ↔ name ∈ names := by
  rw [ofNames, contains_ofList, List.map_map]
  show name ∈ names.map id ↔ _
  rw [List.map_id]

/-- Which names an object has does not hang on the flags. -/
theorem contains_ofMembers {members : List (String × Json)} :
    (ofMembers members).contains name = true ↔ name ∈ members.map (·.1) := by
  rw [ofMembers, contains_ofList, List.map_map]
  rfl

end Globals

/-- The user's global names, unless they are in a file. -/
def UserGlobals.inlineNames? : Option UserGlobals → Option (List String)
  | none => some []
  | some (.names listed) => some listed
  | some (.table globals) => some (globals.entries.map (·.1))
  | some (.file _) => none

namespace Options

/-- The user's global names, unless they are in a file that cannot be read or holds no object. -/
def userNames? (o : Options) (fs : FileSystem) : Option (List String) :=
  match o.globals with
  | some (.file spelled) =>
    match (o.globalsPath fs spelled).bind fs.read with
    | .error _ => none
    | .ok text =>
      match readJson? text with
      | some (.object members) => some (members.map (·.1))
      | _ => none
  | inline => UserGlobals.inlineNames? inline

/-- The user's set, if there is one, has this name. -/
def Knows (user : Option Globals) (name : String) : Prop :=
  ∃ g, user = some g ∧ g.contains name = true

theorem not_knows_none (name : String) : ¬Knows none name := by
  rintro ⟨g, h, -⟩
  cases h

@[simp] theorem knows_some {g : Globals} {name : String} :
    Knows (some g) name ↔ g.contains name = true := by
  simp [Knows]

variable {o o' : Options} {fs fs' : FileSystem} {cache cache' : GlobalsCache}
  {names names' named : List String} {source : String}

/-- No file is gone to for names that stand in the options. -/
theorem userGlobals_of_inlineNames? (h : UserGlobals.inlineNames? o.globals = some names)
    (fs : FileSystem) (cache : GlobalsCache) :
    ∃ user, o.userGlobals fs cache = (.ok user, cache)
      ∧ ∀ name, Knows user name ↔ name ∈ names := by
  unfold userGlobals
  cases hglobals : o.globals with
  | none =>
      rw [hglobals] at h
      cases h
      exact ⟨none, rfl, fun name => by simp [not_knows_none]⟩
  | some user =>
      rw [hglobals] at h
      cases user with
      | names listed =>
          cases h
          exact ⟨_, rfl, fun name => by simp [Globals.contains_ofNames]⟩
      | table g =>
          cases h
          exact ⟨_, rfl, fun name => knows_some.trans Globals.contains_iff_mem⟩
      | file path => cases h

/-- Names are known from the options themselves or from a file that holds an object. -/
theorem userNames?_cases (h : o.userNames? fs = some names) :
    UserGlobals.inlineNames? o.globals = some names
      ∨ ∃ spelled path members, o.globals = some (.file spelled)
          ∧ o.globalsPath fs spelled = .ok path
          ∧ fs.readGlobals path = .ok (.ofMembers members)
          ∧ names = members.map (·.1) := by
  unfold userNames? at h
  split at h
  · rename_i spelled hglobals
    split at h
    · cases h
    · rename_i text htext
      cases hpath : o.globalsPath fs spelled with
      | error reason =>
          rw [hpath] at htext
          cases htext
      | ok path =>
          rw [hpath] at htext
          split at h
          · rename_i members hobject
            cases h
            refine .inr ⟨spelled, path, members, hglobals, hpath, ?_, rfl⟩
            exact FileSystem.readGlobals_eq_ok_iff.2 ⟨text, members, htext, hobject, rfl⟩
          · cases h
  · exact .inl h

/-- A file that goes through a coherent cache has the names that it holds now. -/
theorem userGlobals_of_userNames? (hcache : cache.Coherent fs)
    (h : o.userNames? fs = some names) :
    ∃ user later, o.userGlobals fs cache = (.ok user, later)
      ∧ ∀ name, Knows user name ↔ name ∈ names := by
  rcases userNames?_cases h with hinline | ⟨spelled, path, members, hglobals, hpath, hread, rfl⟩
  · obtain ⟨user, hloaded, hnames⟩ := userGlobals_of_inlineNames? hinline fs cache
    exact ⟨user, cache, hloaded, hnames⟩
  · have hload := hcache.load hread
    refine ⟨some (.ofMembers members), (cache.load fs path).2, ?_,
      fun name => by simp [Globals.contains_ofMembers]⟩
    simp only [userGlobals, hglobals, hpath]
    cases hloaded : cache.load fs path with
    | mk result later =>
        rw [hloaded] at hload
        cases hload
        rfl

/-! ### Runs of options that say the same but for global names -/

/-- Options that say the same but for the user's global names.  The environments may be asked for in
another order, and some of them again. -/
structure SameButNames (o o' : Options) : Prop where
  strict : o'.strict = o.strict
  receiver : o'.receiver = o.receiver
  policy : o'.policy = o.policy
  sourceKind : o'.sourceKind = o.sourceKind
  environments : ∀ env, env ∈ o'.environments ↔ env ∈ o.environments

theorem SameButNames.extended (o : Options) (more : Option UserGlobals) :
    o.SameButNames { o with globals := more } :=
  ⟨rfl, rfl, rfl, rfl, fun _ => Iff.rfl⟩

/-- Which names a unit gets is decided by which are asked for, in whatever order. -/
theorem SameButNames.contains_layers (h : o.SameButNames o') {user user' : Option Globals}
    (huser : ∀ name, Knows user' name ↔ Knows user name ∨ name ∈ named)
    {comments comments' : List String} (hcomments : comments'.Perm comments) (name : String) :
    (o'.layers (.ofComments comments') user').globals.contains name = true ↔
      (o.layers (.ofComments comments) user).globals.contains name = true ∨ name ∈ named := by
  have hextract (tag : Directive.Tag) (other : String) :
      other ∈ Directive.extract tag comments' ↔ other ∈ Directive.extract tag comments :=
    (hcomments.flatMap_right _).mem_iff
  have hheeded : (name ∈ (o'.heeded (.ofComments comments')).globals
      ↔ name ∈ (o.heeded (.ofComments comments)).globals) := by
    rw [heeded_globals, heeded_globals, h.strict]
    split
    · rfl
    · exact hextract _ _
  have hselected (env : String) : env ∈ (o'.selection (.ofComments comments')).names
      ↔ env ∈ (o.selection (.ofComments comments)).names := by
    unfold selection Selection.ofRequests
    rw [List.mem_filter, List.mem_filter, List.mem_append, List.mem_append, h.environments,
      heeded_environments, heeded_environments, h.strict]
    split
    · rfl
    · rw [List.mem_append, List.mem_append]
      show ((_ ∨ env ∈ Directive.extract _ _ ∨ env ∈ Directive.extract _ _) ∧ _) ↔ _
      rw [hextract, hextract]
      rfl
  have hknows : (∃ g, user' = some g ∧ g.contains name = true)
      ↔ (∃ g, user = some g ∧ g.contains name = true) ∨ name ∈ named := huser name
  -- A name is in the set if some layer has it, so the order of the layers does not matter.
  unfold layers
  simp only [Selection.contains_globals, hheeded, hselected, hknows, or_assoc]
  rw [or_comm (a := name ∈ named)]

theorem SameButNames.withScopes (h : o.SameButNames o') (run : o.Run source fs cache)
    (run' : o'.Run source fs' cache') (hprogram : run'.program = run.program) :
    run'.withScopes = run.withScopes := by
  unfold Run.withScopes
  rw [hprogram, h.sourceKind]

/-- **Two runs between which only global names differ.**  The names that the second has besides
cost it their references, which it counts as global. -/
theorem SameButNames.runs (h : o.SameButNames o') (run : o.Run source fs cache)
    (run' : o'.Run source fs' cache') (hprogram : run'.program = run.program)
    (huser : ∀ name, Knows run'.user name ↔ Knows run.user name ∨ name ∈ named) :
    run'.taken = run.taken.filter (·.ident.name ∉ named)
      ∧ run.outcome.stats.Moved run'.outcome.stats
          (run.taken.countP (·.ident.name ∈ named)) := by
  have hcontains (name : String) : run'.unit.globals.contains name = true ↔
      run.unit.globals.contains name = true ∨ name ∈ named := by
    unfold Run.unit
    rw [hprogram]
    exact h.contains_layers huser (.refl _) name
  have hscopes := h.withScopes run run' hprogram
  have htold : o'.instructions run'.unit.globals
      = { o.instructions run.unit.globals with globals := run'.unit.globals } := by
    unfold instructions
    rw [h.receiver, h.policy]
  obtain ⟨htaken, hmoved⟩ := run.withScopes.pass_withGlobals (o.instructions run.unit.globals)
    run'.unit.globals hcontains
  have hreport : run'.report
      = run.withScopes.pass { o.instructions run.unit.globals with globals := run'.unit.globals } := by
    rw [← htold, ← hscopes]
    rfl
  constructor
  · unfold Run.taken
    rw [hscopes, htold]
    exact htaken
  · show run.report.stats.Moved run'.report.stats _
    rw [hreport]
    exact hmoved

/--
**More global names cost the edits of these names, and nothing else.**  If the names that stand in
the options are extended, a unit fails as it failed before, or it has the edits that it had but
for those of the new names, in their order; these are counted as global and no longer as free.
-/
theorem qualify_extended (o : Options) (more : Option UserGlobals)
    {names names' named : List String}
    (hinline : UserGlobals.inlineNames? o.globals = some names)
    (hmore : UserGlobals.inlineNames? more = some names')
    (hnames : ∀ name, name ∈ names' ↔ name ∈ names ∨ name ∈ named)
    (source file : String) (fs : FileSystem) (cache : GlobalsCache) :
    let o' := { o with globals := more }
    (∃ failure, o.qualify source file fs cache = (.error failure, cache)
        ∧ o'.qualify source file fs cache = (.error failure, cache))
      ∨ ∃ (run : o.Run source fs cache) (run' : o'.Run source fs cache),
          o.qualify source file fs cache = (.ok run.outcome, cache)
            ∧ o'.qualify source file fs cache = (.ok run'.outcome, cache)
            ∧ run'.outcome.environments = run.outcome.environments
            ∧ run'.outcome.warnings = run.outcome.warnings
            ∧ run.report.edits = run.taken.map (·.edit o.receiver)
            ∧ run'.report.edits
                = (run.taken.filter (·.ident.name ∉ named)).map (·.edit o.receiver)
            ∧ run.outcome.stats.Moved run'.outcome.stats
                (run.taken.countP (·.ident.name ∈ named)) := by
  intro o'
  have hsame : o.SameButNames o' := .extended o more
  obtain ⟨user, hloaded, huser⟩ := userGlobals_of_inlineNames? hinline fs cache
  obtain ⟨user', hloaded', huser'⟩ := userGlobals_of_inlineNames? (o := o') hmore fs cache
  rcases qualify_alike hsame.receiver hsame.sourceKind hloaded hloaded' source file with
    hfailed | ⟨run, run', hprogram, ⟨rfl, hlater⟩, rfl, hlater'⟩
  · exact .inl hfailed
  · have hknows (name : String) : Knows run'.user name ↔ Knows run.user name ∨ name ∈ named := by
      rw [huser', huser, hnames]
    obtain ⟨htaken, hmoved⟩ := hsame.runs run run' hprogram hknows
    have hqualify := run.qualify_eq file
    have hqualify' := run'.qualify_eq file
    rw [hlater] at hqualify
    rw [hlater'] at hqualify'
    refine .inr ⟨run, run', hqualify, hqualify', ?_, ?_, run.edits_eq_taken, ?_, hmoved⟩
    · show (o'.selection _).names = (o.selection _).names
      rw [hprogram]
      rfl
    · show (o'.selection _).warnings ++ run'.withScopes.clashes.map redeclaredMessage = _
      rw [hprogram, hsame.withScopes run run' hprogram]
      rfl
    · rw [run'.edits_eq_taken, htaken]

/-- A list gives way to a table that has its names, the flag of one turned, and one more. -/
theorem qualify_extended_table :
    let o : Options := { globals := some (.names ["f"]) }
    let more : UserGlobals := .table (.ofList [("f", false), ("x", true)])
    let source := "f(x, y, {x} = z);"
    UserGlobals.inlineNames? o.globals = some ["f"]
      ∧ UserGlobals.inlineNames? (some more) = some ["x", "f"]
      ∧ (∀ name, name ∈ ["x", "f"] ↔ name ∈ ["f"] ∨ name ∈ ["x"])
      ∧ ((∃ failure, o.qualify source "f.js" default .empty = (.error failure, .empty)
            ∧ { o with globals := some more }.qualify source "f.js" default .empty
              = (.error failure, .empty))
        ∨ ∃ (run : o.Run source default .empty)
            (run' : { o with globals := some more }.Run source default .empty),
            o.qualify source "f.js" default .empty = (.ok run.outcome, .empty)
              ∧ { o with globals := some more }.qualify source "f.js" default .empty
                = (.ok run'.outcome, .empty)
              ∧ run'.outcome.environments = run.outcome.environments
              ∧ run'.outcome.warnings = run.outcome.warnings
              ∧ run.report.edits = run.taken.map (·.edit o.receiver)
              ∧ run'.report.edits
                  = (run.taken.filter (·.ident.name ∉ ["x"])).map (·.edit o.receiver)
              ∧ run.outcome.stats.Moved run'.outcome.stats
                  (run.taken.countP (·.ident.name ∈ ["x"]))) := by
  intro o more source
  have hinline : UserGlobals.inlineNames? o.globals = some ["f"] := rfl
  have hmore : UserGlobals.inlineNames? (some more) = some ["x", "f"] := by decide +kernel
  have hnames : ∀ name, name ∈ ["x", "f"] ↔ name ∈ ["f"] ∨ name ∈ ["x"] := fun name => by
    rw [List.mem_cons, or_comm, List.mem_singleton, List.mem_singleton]
  exact ⟨hinline, hmore, hnames,
    qualify_extended o (some more) hinline hmore hnames source "f.js" default .empty⟩

/-- Directives count by what they say and not by where they stand. -/
theorem unitGlobals_perm (o : Options) (fs : FileSystem) (cache : GlobalsCache)
    {comments comments' : List String} (h : comments'.Perm comments) :
    (∃ failure later, o.unitGlobals (.ofComments comments) fs cache = (.error failure, later)
        ∧ o.unitGlobals (.ofComments comments') fs cache = (.error failure, later))
      ∨ ∃ unit unit' later, o.unitGlobals (.ofComments comments) fs cache = (.ok unit, later)
          ∧ o.unitGlobals (.ofComments comments') fs cache = (.ok unit', later)
          ∧ ∀ name, unit'.globals.contains name = unit.globals.contains name := by
  unfold unitGlobals
  cases o.userGlobals fs cache with
  | mk result later =>
      cases result with
      | error failure => exact .inl ⟨failure, later, rfl, rfl⟩
      | ok user =>
          have hsame : o.SameButNames o := .extended o o.globals
          refine .inr ⟨_, _, later, rfl, rfl, fun name => ?_⟩
          have hnone (name : String) : Knows user name ↔ Knows user name ∨ name ∈ [] := by simp
          rw [Bool.eq_iff_iff, hsame.contains_layers hnone h]
          simp

/--
**Only which names there are counts**, not their order, their flags or how they are given.  Two
units of one source whose options name the same environments and the same global names, and say
the same besides, fail alike or have the same text and the same counts; files go through caches
that say what the files say.  And directives may stand in any order.
-/
theorem qualify_interchange (hsame : o.SameButNames o') (hcache : cache.Coherent fs)
    (hcache' : cache'.Coherent fs') (hknown : o.userNames? fs = some names)
    (hknown' : o'.userNames? fs' = some names') (hnames : ∀ name, name ∈ names' ↔ name ∈ names)
    (source file : String) :
    ((∃ failure, o.qualify source file fs cache = (.error failure, cache)
          ∧ o'.qualify source file fs' cache' = (.error failure, cache'))
        ∨ ∃ outcome outcome' later later',
            o.qualify source file fs cache = (.ok outcome, later)
              ∧ o'.qualify source file fs' cache' = (.ok outcome', later')
              ∧ outcome'.code = outcome.code
              ∧ outcome'.stats = outcome.stats)
      ∧ ∀ (o : Options) (fs : FileSystem) (cache : GlobalsCache) (comments comments' : List String),
          comments'.Perm comments →
            (∃ failure later,
                o.unitGlobals (.ofComments comments) fs cache = (.error failure, later)
                  ∧ o.unitGlobals (.ofComments comments') fs cache = (.error failure, later))
              ∨ ∃ unit unit' later,
                  o.unitGlobals (.ofComments comments) fs cache = (.ok unit, later)
                    ∧ o.unitGlobals (.ofComments comments') fs cache = (.ok unit', later)
                    ∧ ∀ name, unit'.globals.contains name = unit.globals.contains name := by
  refine ⟨?_, fun o fs cache _ _ h => o.unitGlobals_perm fs cache h⟩
  obtain ⟨user, later, hloaded, huser⟩ := userGlobals_of_userNames? hcache hknown
  obtain ⟨user', later', hloaded', huser'⟩ := userGlobals_of_userNames? hcache' hknown'
  rcases qualify_alike hsame.receiver hsame.sourceKind hloaded hloaded' source file with
    hfailed | ⟨run, run', hprogram, ⟨rfl, rfl⟩, rfl, rfl⟩
  · exact .inl hfailed
  · have hknows (name : String) : Knows run'.user name ↔ Knows run.user name ∨ name ∈ [] := by
      simp [huser', huser, hnames]
    obtain ⟨htaken, hmoved⟩ := hsame.runs run run' hprogram hknows
    have hedits : run'.report.edits = run.report.edits := by
      rw [run'.edits_eq_taken, run.edits_eq_taken, htaken, hsame.receiver]
      simp
    have hstats : run'.outcome.stats = run.outcome.stats := by
      refine Stats.Moved.eq ?_
      simpa using hmoved
    refine .inr ⟨run.outcome, run'.outcome, run.later, run'.later, run.qualify_eq file,
      run'.qualify_eq file, ?_, hstats⟩
    show (Edit.spliceAll? run'.report.edits source).getD source
      = (Edit.spliceAll? run.report.edits source).getD source
    rw [hedits]

/-- The file that the user's names are in. -/
def listed : FileSystem :=
  { root := .directory [("g.json", .file (some "\x7b\"f\": \"off\", \"x\": true\x7d"))]
    workingDirectory := "/" }

/-- A file that has been loaded, and a list; the environments in another order, one of them twice. -/
theorem qualify_interchange_file :
    let o : Options := { environments := ["node", "mocha"], globals := some (.file "g") }
    let o' : Options :=
      { environments := ["mocha", "node", "mocha"], globals := some (.names ["x", "f", "x"]) }
    let cache := (GlobalsCache.empty.load listed "/g.json").2
    let source := "f(x, y, it, require);"
    cache.contains "/g.json" = true
      ∧ o.SameButNames o'
      ∧ cache.Coherent listed
      ∧ GlobalsCache.empty.Coherent default
      ∧ o.userNames? listed = some ["f", "x"]
      ∧ o'.userNames? default = some ["x", "f", "x"]
      ∧ ((∃ failure, o.qualify source "f.js" listed cache = (.error failure, cache)
            ∧ o'.qualify source "f.js" default .empty = (.error failure, .empty))
          ∨ ∃ outcome outcome' later later',
              o.qualify source "f.js" listed cache = (.ok outcome, later)
                ∧ o'.qualify source "f.js" default .empty = (.ok outcome', later')
                ∧ outcome'.code = outcome.code
                ∧ outcome'.stats = outcome.stats) := by
  intro o o' cache source
  have hsame : o.SameButNames o' := ⟨rfl, rfl, rfl, rfl, fun env => by simp [o, o']; tauto⟩
  have hnames : ∀ name, name ∈ ["x", "f", "x"] ↔ name ∈ ["f", "x"] := fun name => by simp; tauto
  have hcache : cache.Coherent listed := (GlobalsCache.coherent_empty _).after_load "/g.json"
  have hknown : o.userNames? listed = some ["f", "x"] := by decide +kernel
  have hknown' : o'.userNames? default = some ["x", "f", "x"] := rfl
  have hkept : cache.contains "/g.json" = true := by decide +kernel
  exact ⟨hkept, hsame, hcache, GlobalsCache.coherent_empty _, hknown, hknown',
    (qualify_interchange hsame hcache (GlobalsCache.coherent_empty _) hknown hknown' hnames source
      "f.js").1⟩

end Options

end FreeNames
