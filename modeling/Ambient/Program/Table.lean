import Ambient.Name

/-!
Tables from names to values, kept in strictly ascending order of the names. Strings are ordered by
code points. A table is its list of entries, so tables with the same look-ups are equal and nothing
shows the order in which entries came.
-/
namespace Ambient

def insertEntry {α : Type} (name : Name) (value : α) : List (Name × α) → List (Name × α)
  | [] => [(name, value)]
  | e :: es =>
    if name < e.1 then (name, value) :: e :: es
    else if name = e.1 then (name, value) :: es
    else e :: insertEntry name value es

theorem mem_of_mem_insertEntry {α : Type} {name : Name} {value : α} {e : Name × α}
    {es : List (Name × α)} (h : e ∈ insertEntry name value es) : e = (name, value) ∨ e ∈ es := by
  induction es with
  | nil => simpa [insertEntry] using h
  | cons d ds ih =>
    rw [insertEntry] at h
    split at h
    · simpa using h
    · split at h <;> grind

theorem insertEntry_ascending {α : Type} (name : Name) (value : α) {es : List (Name × α)}
    (h : es.Pairwise (·.1 < ·.1)) : (insertEntry name value es).Pairwise (·.1 < ·.1) := by
  induction es with
  | nil => simp [insertEntry]
  | cons d ds ih =>
    have ⟨first, rest⟩ := List.pairwise_cons.1 h
    rw [insertEntry]
    split
    · next before =>
      refine List.pairwise_cons.2 ⟨fun e he => ?_, h⟩
      rcases List.mem_cons.1 he with rfl | he
      · exact before
      · exact String.lt_trans before (first e he)
    · split
      · next same => exact List.pairwise_cons.2 ⟨fun e he => same ▸ first e he, rest⟩
      · next notBefore other =>
        refine List.pairwise_cons.2 ⟨fun e he => ?_, ih rest⟩
        rcases mem_of_mem_insertEntry he with rfl | he
        · grind
        · exact first e he

structure Table (α : Type) where
  entries : List (Name × α)
  ascending : entries.Pairwise (·.1 < ·.1)

namespace Table

variable {α : Type}

def empty : Table α := ⟨[], .nil⟩

def insert (t : Table α) (name : Name) (value : α) : Table α :=
  ⟨insertEntry name value t.entries, insertEntry_ascending name value t.ascending⟩

def find? (t : Table α) (name : Name) : Option α :=
  (t.entries.find? (·.1 == name)).map (·.2)

def contains (t : Table α) (name : Name) : Bool := (t.find? name).isSome

def names (t : Table α) : List Name := t.entries.map (·.1)

def size (t : Table α) : Nat := t.entries.length

def startingWith (t : Table α) (stem : Name) : List (Name × α) :=
  (t.entries.dropWhile (·.1 < stem)).takeWhile fun e => stem.toList.isPrefixOf e.1.toList

end Table

abbrev NameSet := Table Unit

namespace NameSet

def add (s : NameSet) (name : Name) : NameSet := Table.insert s name ()

def ofList (names : List Name) : NameSet := names.foldl add Table.empty

end NameSet

end Ambient
