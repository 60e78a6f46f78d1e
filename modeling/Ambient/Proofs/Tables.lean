import Ambient.Program.Graph
import Ambient.Proofs.Names
import Mathlib.Data.List.Sort

namespace Ambient

theorem eq_of_ascending {α : Type} {key : α → Name} {l l' : List α}
    (ascending : l.Pairwise (key · < key ·)) (ascending' : l'.Pairwise (key · < key ·))
    (same : ∀ x, x ∈ l ↔ x ∈ l') : l = l' := by
  have irreflexive : Std.Irrefl fun x y => key x < key y := ⟨fun x => String.lt_irrefl (key x)⟩
  have antisymmetric : Std.Antisymm fun x y => key x < key y :=
    ⟨fun x y before after => absurd (String.lt_trans before after) (String.lt_irrefl (key x))⟩
  exact ascending.eq_of_mem_iff ascending' same

namespace Table

variable {α : Type}

theorem names_ascending (t : Table α) : t.names.Pairwise (· < ·) :=
  List.pairwise_map.mpr t.ascending

theorem find?_eq_some_iff (t : Table α) (name : Name) (value : α) :
    t.find? name = some value ↔ (name, value) ∈ t.entries := by
  obtain ⟨entries, ascending⟩ := t
  unfold find?
  induction entries with
  | nil => simp
  | cons e es ih =>
    obtain ⟨first, rest⟩ := List.pairwise_cons.mp ascending
    rw [List.find?_cons]
    obtain ⟨key, stored⟩ := e
    by_cases same : key = name
    · subst same
      have absent : ∀ d ∈ es, d.1 ≠ key := fun d hd eq => String.lt_irrefl _ (eq ▸ first d hd)
      constructor
      · intro found
        have value_eq : stored = value := by simpa using found
        exact List.mem_cons.mpr (.inl (Prod.ext rfl value_eq.symm))
      · intro member
        rcases List.mem_cons.mp member with here | later
        · cases here
          simp
        · exact absurd rfl (absent _ later)
    · have other : (key == name) = false := beq_false_of_ne same
      have apart : (name, value) ≠ (key, stored) := fun eq => same (congrArg Prod.fst eq).symm
      rw [other, ih rest]
      simp [apart]

theorem contains_iff (t : Table α) (name : Name) : t.contains name = true ↔ name ∈ t.names := by
  unfold contains names
  rw [Option.isSome_iff_exists]
  constructor
  · rintro ⟨value, found⟩
    exact List.mem_map.mpr ⟨_, (t.find?_eq_some_iff name value).mp found, rfl⟩
  · intro member
    obtain ⟨e, he, rfl⟩ := List.mem_map.mp member
    exact ⟨e.2, (t.find?_eq_some_iff e.1 e.2).mpr he⟩

theorem mem_insertEntry_iff (name : Name) (value : α) {es : List (Name × α)}
    (ascending : es.Pairwise (·.1 < ·.1)) (e : Name × α) :
    e ∈ insertEntry name value es ↔ e = (name, value) ∨ (e ∈ es ∧ e.1 ≠ name) := by
  induction es with
  | nil => simp [insertEntry]
  | cons d ds ih =>
    obtain ⟨first, rest⟩ := List.pairwise_cons.mp ascending
    have later : ∀ x ∈ ds, x.1 ≠ d.1 := fun x hx eq => String.lt_irrefl _ (eq ▸ first x hx)
    rw [insertEntry]
    split
    · next before =>
      have absent : ∀ x ∈ d :: ds, x.1 ≠ name := by
        intro x hx eq
        rcases List.mem_cons.mp hx with rfl | hx
        · exact String.lt_irrefl _ (eq ▸ before)
        · exact String.lt_irrefl _ (eq ▸ String.lt_trans before (first x hx))
      rw [List.mem_cons]
      exact or_congr_right ⟨fun hx => ⟨hx, absent e hx⟩, fun h => h.1⟩
    · split
      · next same =>
        rw [same, List.mem_cons]
        constructor
        · rintro (here | hx)
          · exact .inl here
          · exact .inr ⟨List.mem_cons_of_mem d hx, later e hx⟩
        · rintro (here | ⟨hx, other⟩)
          · exact .inl here
          · rcases List.mem_cons.mp hx with rfl | hx
            · exact absurd rfl other
            · exact .inr hx
      · next other =>
        rw [List.mem_cons, ih rest, List.mem_cons]
        constructor
        · rintro (rfl | here | ⟨hx, apart⟩)
          · exact .inr ⟨.inl rfl, Ne.symm other⟩
          · exact .inl here
          · exact .inr ⟨.inr hx, apart⟩
        · rintro (here | ⟨rfl | hx, apart⟩)
          · exact .inr (.inl here)
          · exact .inl rfl
          · exact .inr (.inr ⟨hx, apart⟩)

theorem filter_insertEntry {p : Name × α → Bool} {name : Name} {value : α}
    (new : p (name, value) = false) {es : List (Name × α)}
    (old : ∀ e ∈ es, e.1 = name → p e = false) :
    (insertEntry name value es).filter p = es.filter p := by
  have drop {d : Name × α} {ds : List (Name × α)} (h : p d = false) :
      (d :: ds).filter p = ds.filter p :=
    List.filter_cons_of_neg (by rw [h]; decide)
  induction es with
  | nil => exact drop new
  | cons d ds ih =>
    obtain ⟨first, rest⟩ := List.forall_mem_cons.mp old
    rw [insertEntry]
    split
    · exact drop new
    · split
      · next same => rw [drop new, drop (first same.symm)]
      · rw [List.filter_cons, List.filter_cons, ih rest]

theorem mem_entries_insert (t : Table α) (name : Name) (value : α) (e : Name × α) :
    e ∈ (t.insert name value).entries ↔ e = (name, value) ∨ (e ∈ t.entries ∧ e.1 ≠ name) :=
  mem_insertEntry_iff name value t.ascending e

theorem find?_insert (t : Table α) (name other : Name) (value : α) :
    (t.insert name value).find? other = if other = name then some value else t.find? other := by
  ext found
  have member := t.mem_entries_insert name value (other, found)
  rw [find?_eq_some_iff]
  by_cases same : other = name
  · subst same
    simpa [eq_comm] using member
  · simpa [same, find?_eq_some_iff] using member

theorem eq_of_mem_entries_iff {t t' : Table α} (same : ∀ e, e ∈ t.entries ↔ e ∈ t'.entries) :
    t = t' := by
  have entries : t.entries = t'.entries := eq_of_ascending t.ascending t'.ascending same
  cases t
  cases t'
  cases entries
  rfl

theorem mem_names_insert (t : Table α) (name other : Name) (value : α) :
    other ∈ (t.insert name value).names ↔ other = name ∨ other ∈ t.names := by
  rw [← contains_iff, ← contains_iff, contains, contains, find?_insert]
  split <;> simp_all

theorem takeWhile_eq_filter {p : α → Bool} {l : List α}
    (falling : l.Pairwise fun x y => p y = true → p x = true) : l.takeWhile p = l.filter p := by
  induction l with
  | nil => rfl
  | cons x l ih =>
    obtain ⟨first, rest⟩ := List.pairwise_cons.mp falling
    cases test : p x with
    | true => rw [List.takeWhile_cons_of_pos test, List.filter_cons_of_pos test, ih rest]
    | false =>
      have none : ∀ y ∈ l, ¬ p y = true := fun y hy holds => by simp [first y hy holds] at test
      rw [List.takeWhile_cons_of_neg (by simp [test]), List.filter_cons_of_neg (by simp [test])]
      exact (List.filter_eq_nil_iff.mpr none).symm

theorem dropWhile_eq_filter {p : α → Bool} {l : List α}
    (falling : l.Pairwise fun x y => p y = true → p x = true) :
    l.dropWhile p = l.filter (!p ·) := by
  induction l with
  | nil => rfl
  | cons x l ih =>
    obtain ⟨first, rest⟩ := List.pairwise_cons.mp falling
    cases test : p x with
    | true =>
      rw [List.dropWhile_cons_of_pos test, List.filter_cons_of_neg (by simp [test]), ih rest]
    | false =>
      have none : ∀ y ∈ x :: l, (!p y) = true := by
        intro y hy
        rcases List.mem_cons.mp hy with rfl | hy
        · simp [test]
        · cases holds : p y with
          | false => rfl
          | true => simp [first y hy holds] at test
      rw [List.dropWhile_cons_of_neg (by simp [test]), List.filter_eq_self.mpr none]

theorem not_lt_of_prefix {stem n : List Char} (h : stem <+: n) : ¬ n < stem := by
  induction stem generalizing n with
  | nil => exact List.not_lt_nil n
  | cons c stem ih =>
    obtain ⟨rest, rfl⟩ := h
    intro before
    rcases List.cons_lt_cons_iff.mp before with less | ⟨_, less⟩
    · exact Char.lt_irrefl c less
    · exact ih ⟨rest, rfl⟩ less

theorem prefix_of_between {stem x y : List Char} (from_ : ¬ x < stem) (before : x < y)
    (h : stem <+: y) : stem <+: x := by
  induction stem generalizing x y with
  | nil => exact List.nil_prefix
  | cons c stem ih =>
    obtain ⟨rest, rfl⟩ := h
    cases x with
    | nil => exact absurd (List.nil_lt_cons c stem) from_
    | cons d x =>
      rcases List.cons_lt_cons_iff.mp before with less | ⟨rfl, less⟩
      · exact absurd (List.cons_lt_cons_iff.mpr (.inl less)) from_
      · have later : ¬ x < stem := fun less => from_ (List.cons_lt_cons_iff.mpr (.inr ⟨rfl, less⟩))
        exact List.cons_prefix_cons.mpr ⟨rfl, ih later less ⟨rest, rfl⟩⟩

theorem startingWith_eq_filter (t : Table α) (stem : Name) :
    t.startingWith stem = t.entries.filter fun e => stem.toList.isPrefixOf e.1.toList := by
  have lower : t.entries.Pairwise fun x y =>
      decide (y.1 < stem) = true → decide (x.1 < stem) = true := by
    refine t.ascending.imp ?_
    intro x y before below
    exact decide_eq_true (String.lt_trans before (of_decide_eq_true below))
  -- from the stem on, names that begin with it come first
  have run : (t.entries.filter fun e => !decide (e.1 < stem)).Pairwise fun x y =>
      stem.toList.isPrefixOf y.1.toList = true → stem.toList.isPrefixOf x.1.toList = true := by
    refine List.pairwise_filter.mpr (t.ascending.imp ?_)
    intro x y before above _ begins
    have from_ : ¬ x.1 < stem := by simpa using above
    exact List.isPrefixOf_iff_prefix.mpr
      (prefix_of_between from_ before (List.isPrefixOf_iff_prefix.mp begins))
  rw [startingWith, dropWhile_eq_filter lower, takeWhile_eq_filter run, List.filter_filter]
  refine List.filter_congr fun e _ => ?_
  cases begins : stem.toList.isPrefixOf e.1.toList with
  | false => rfl
  | true =>
    have above : ¬ e.1 < stem := not_lt_of_prefix (List.isPrefixOf_iff_prefix.mp begins)
    simp [above]

end Table

namespace SymbolTable

theorem eq_of_mem_entries_iff {t t' : SymbolTable}
    (same : ∀ e, e ∈ t.entries ↔ e ∈ t'.entries) : t = t' := by
  have table : t.toTable = t'.toTable := Table.eq_of_mem_entries_iff same
  cases t
  cases t'
  cases table
  rfl

def ofAscending (symbols : List Symbol) (ascending : symbols.Pairwise (·.name < ·.name)) :
    SymbolTable where
  entries := symbols.map fun s => (s.name, s)
  ascending := List.pairwise_map.mpr ascending
  named := List.forall_mem_map.mpr fun _ _ => rfl

@[simp] theorem values_ofAscending (symbols : List Symbol)
    (ascending : symbols.Pairwise (·.name < ·.name)) :
    (ofAscending symbols ascending).entries.map (·.2) = symbols := by
  simp [ofAscending, Function.comp_def]

end SymbolTable

namespace NameSet

theorem eq_of_mem_names_iff {s s' : NameSet} (same : ∀ n, n ∈ s.names ↔ n ∈ s'.names) :
    s = s' := by
  have member (s : NameSet) (e : Name × Unit) : e ∈ s.entries ↔ e.1 ∈ s.names := by
    unfold Table.names
    rw [List.mem_map]
    exact ⟨fun he => ⟨e, he, rfl⟩, fun ⟨_, he, name⟩ => Prod.ext name rfl ▸ he⟩
  refine Table.eq_of_mem_entries_iff fun e => ?_
  rw [member, member]
  exact same e.1

theorem mem_names_foldl_add (names : List Name) (s : NameSet) (name : Name) :
    name ∈ (names.foldl add s).names ↔ name ∈ names ∨ name ∈ s.names := by
  induction names generalizing s with
  | nil => simp
  | cons n names ih =>
    rw [List.foldl_cons, ih, add, Table.mem_names_insert]
    grind

theorem mem_names_ofList (names : List Name) (name : Name) :
    name ∈ (ofList names).names ↔ name ∈ names := by
  have empty : name ∉ (Table.empty : NameSet).names := List.not_mem_nil
  exact (mem_names_foldl_add names Table.empty name).trans (or_iff_left empty)

end NameSet

namespace Graph

variable (g : Graph)

theorem resolve?_eq_some_iff (name : Name) (s : Symbol) :
    g.resolve? name = some s ↔ s ∈ g.symbolList ∧ s.name = name := by
  unfold resolve? symbolList
  rw [Table.find?_eq_some_iff, List.mem_map]
  constructor
  · intro member
    exact ⟨⟨_, member, rfl⟩, g.symbols.named _ member⟩
  · rintro ⟨⟨⟨key, s⟩, member, rfl⟩, rfl⟩
    have own : s.name = key := g.symbols.named _ member
    rwa [own]

theorem resolve?_define_eq (s : Symbol) (name : Name) :
    (g.define s).resolve? name = if s.name = name then some s else g.resolve? name := by
  unfold define resolve? SymbolTable.add
  rw [Table.find?_insert]
  exact if_congr eq_comm rfl rfl

theorem symbolList_names : g.symbolList.map (·.name) = g.symbols.names := by
  rw [symbolList, List.map_map]
  exact List.map_congr_left g.symbols.named

theorem symbolList_ascending : g.symbolList.Pairwise (·.name < ·.name) := by
  refine List.pairwise_map.mp ?_
  rw [symbolList_names]
  exact g.symbols.names_ascending

theorem childrenOf_eq_filter (ns : Name) :
    g.childrenOf ns = g.symbolList.filter fun s => (s.name.under? ns).isSome := by
  unfold childrenOf
  split
  · next empty =>
    subst empty
    exact (List.filter_eq_self.mpr fun s _ => rfl).symm
  · next named =>
    rw [Table.startingWith_eq_filter, symbolList, List.filter_map]
    congr 1
    refine List.filter_congr fun e member => ?_
    rw [Function.comp_apply, Name.isSome_under? named, String.toList_append,
      g.symbols.named e member]
    rfl

end Graph

end Ambient
