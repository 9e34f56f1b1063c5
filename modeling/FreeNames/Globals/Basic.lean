/-
Sets of global names, each with a flag that says whether it may be written to.

A name is listed once.  Of two sets that are merged the later one decides the
flag of a name in both.
-/

namespace FreeNames

/-- Global names with their flags. -/
structure Globals where
  entries : List (String × Bool)
  distinct : (entries.map (·.1)).Nodup

namespace Globals

def empty : Globals := ⟨[], by simp⟩

instance : Inhabited Globals := ⟨empty⟩

/-- The flag of a name, if it is in the set. -/
def get? (g : Globals) (name : String) : Option Bool := g.entries.lookup name

/-- Whether a name is in the set. -/
def contains (g : Globals) (name : String) : Bool := (g.get? name).isSome

/-- Whether a name is in the set and may be written to. -/
def isWritable (g : Globals) (name : String) : Bool := (g.get? name).getD false

def size (g : Globals) : Nat := g.entries.length

def isEmpty (g : Globals) : Bool := g.entries.isEmpty

/-- The names in rising order of their code points. -/
def names (g : Globals) : List String := (g.entries.map (·.1)).mergeSort fun a b => !(b < a)

/-- The set in which the entries of `late` take the place of those in `g`. -/
def merge (g late : Globals) : Globals where
  entries := late.entries ++ g.entries.filter fun e => !late.contains e.1
  distinct := by
    rw [List.map_append, List.nodup_append]
    refine ⟨late.distinct, ?_, ?_⟩
    · exact (g.distinct.sublist ((List.filter_sublist).map _))
    · intro a ha b hb hab
      subst hab
      obtain ⟨e, he, rfl⟩ := List.mem_map.1 hb
      obtain ⟨e', he', heq⟩ := List.mem_map.1 ha
      have hnot := (List.mem_filter.1 he).2
      have hin : late.contains e.1 = true := by
        simp only [contains, get?, List.lookup_isSome_iff]
        exact ⟨e', he', by simp [heq]⟩
      simp [hin] at hnot

/-- The set with one name added or its flag changed. -/
def insert (g : Globals) (name : String) (writable : Bool) : Globals :=
  g.merge ⟨[(name, writable)], by simp⟩

/-- The set of the pairs in a list, later ones first. -/
def ofList (pairs : List (String × Bool)) : Globals :=
  pairs.foldl (fun g e => g.insert e.1 e.2) empty

/-- A set of names that share one flag. -/
def ofNames (names : List String) (writable : Bool) : Globals :=
  ofList (names.map (·, writable))

end Globals

end FreeNames
