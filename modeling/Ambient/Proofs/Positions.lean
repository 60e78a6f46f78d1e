import Ambient.Proofs.Respelling
import Mathlib.Data.List.Forall2

/-!
Structures written as arrays. A decoder goes through the items of an array as it goes through the
fields, and through the members of an object as they come; both ways a field gets what the one
member of its name gives, or its default.
-/
namespace Ambient.Dump

open Entries (given given_cons_self given_cons_of_ne)

/-- What is listed for a field: what a member gives, or else the default. -/
def Field.listed? (f : Field) (members : List (String × Json)) : Option Json :=
  (given members f.key).head?.or f.written?

/-- Items that list the fields of an object, which has every required member and no unknown or
repeated one. -/
structure InOrder (fields : List Field) (members : List (String × Json)) (items : List Json) :
    Prop where
  known : ∀ m ∈ members, m.1 ∈ fields.map (·.key)
  once : (members.map (·.1)).Nodup
  listed : (fields.take items.length).Forall₂ (fun f v => f.listed? members = some v) items
  leftOff : ∀ f ∈ fields.drop items.length, f.optional = true ∧ given members f.key = []

inductive Listed : Form → Json → Json → Prop where
  | fields {s : Struct} {members : List (String × Json)} {items : List Json}
      (order : InOrder s.fields members items) :
      Listed (.struct s) (.object members none) (.array items none)

theorem given_of_nodup {members : List (String × Json)} (once : (members.map (·.1)).Nodup)
    (key : String) : given members key = [] ∨ ∃ v, given members key = [v] := by
  induction members with
  | nil => exact .inl rfl
  | cons m members ih =>
    obtain ⟨name, v⟩ := m
    obtain ⟨new, rest⟩ := List.nodup_cons.mp once
    by_cases same : name = key
    · subst same
      have none_left : given members name = [] := by
        refine List.eq_nil_iff_forall_not_mem.mpr fun u member => new ?_
        exact List.mem_map.mpr ⟨_, (Entries.mem_given_iff members name u).mp member, rfl⟩
      exact .inr ⟨v, by rw [given_cons_self, none_left]⟩
    · rw [given_cons_of_ne same]
      exact ih rest

theorem whole_of_written? {f : Field} {v : Json} (written : f.written? = some v) : v.Whole := by
  obtain ⟨key, form, optional⟩ := f
  unfold Field.written? at written
  split at written
  · cases form <;> cases written <;> rfl
  · contradiction

theorem whole_of_listed? {f : Field} {members : List (String × Json)} {v : Json}
    (wholes : ∀ m ∈ members, m.2.Whole) (listed : f.listed? members = some v) : v.Whole := by
  rcases Option.or_eq_some_iff.mp listed with first | ⟨-, written⟩
  · have among : v ∈ given members f.key := List.mem_of_mem_head? first
    exact wholes _ ((Entries.mem_given_iff members f.key v).mp among)
  · exact whole_of_written? written

theorem InOrder.whole {fields : List Field} {members : List (String × Json)} {items : List Json}
    (order : InOrder fields members items) (wholes : ∀ m ∈ members, m.2.Whole) :
    ∀ v ∈ items, v.Whole := by
  intro v item
  obtain ⟨i, bound, rfl⟩ := List.getElem_of_mem item
  have listed := order.listed.get (by rwa [order.listed.length_eq]) bound
  exact whole_of_listed? wholes listed

namespace Decoder

def Flattens (D : Decoder) : Json → Json → Prop :=
  Relation.ReflTransGen (D.Within Listed (.struct .program))

namespace Derived

variable {D : Decoder} (derived : D.Derived)

include derived

theorem field_listed? {f : Field} {members : List (String × Json)} {v : Json}
    (once : (members.map (·.1)).Nodup) (listed : f.listed? members = some v) :
    D.field f (given members f.key) = D.value f.form v := by
  rcases given_of_nodup once f.key with absent | ⟨u, single⟩
  · rw [Field.listed?, absent] at listed
    rw [absent]
    exact derived.default?_of_written? listed
  · rw [Field.listed?, single] at listed
    rw [single, ← Option.some.inj listed]
    rfl

/-- The items give the fields what the members give them, by induction on the fields that are
left. -/
theorem items_eq {fields : List Field} {members : List (String × Json)} {items : List Json}
    (once : (members.map (·.1)).Nodup)
    (listed : (fields.take items.length).Forall₂ (fun f v => f.listed? members = some v) items)
    (leftOff : ∀ f ∈ fields.drop items.length, given members f.key = []) :
    D.items fields items = D.fields members fields := by
  induction fields generalizing items with
  | nil =>
    rw [List.take_nil, List.forall₂_nil_left_iff] at listed
    rw [listed]
    exact derived.items_end
  | cons f fields ih =>
    cases items with
    | nil =>
      obtain ⟨absent, others⟩ := List.forall_mem_cons.mp leftOff
      have rest : D.items fields [] = D.fields members fields := ih .nil others
      rw [derived.left_off, rest, fields_cons, absent]
      rfl
    | cons v items =>
      rw [List.length_cons, List.take_succ_cons, List.forall₂_cons] at listed
      obtain ⟨here, rest⟩ := listed
      rw [derived.item, ih rest leftOff, fields_cons, derived.field_listed? once here]

theorem listed_alike (form : Form) (v w : Json) (listed : Listed form v w) (whole : v.Whole) :
    D.Alike Eq form v w := by
  obtain ⟨order⟩ := listed
  rw [Json.object_whole_iff] at whole
  refine ⟨(Json.array_whole_iff _).mpr (order.whole whole), by simp, ?_⟩
  have leftOff := fun f left => (order.leftOff f left).2
  rw [derived.object_eq _ whole, derived.array, derived.items_eq order.once order.listed leftOff]

/-- With any structures in it written as arrays, a dump is decoded exactly if it was before, and as
the same program. By induction on the number of structures. -/
theorem flattened_reads_same {v w : Json} (whole : v.Whole) (flattens : D.Flattens v w) :
    w.Whole ∧ D.value (.struct .program) w = D.value (.struct .program) v ∧
      D.load w = D.load v := by
  have flattened : w.Whole ∧ D.value (.struct .program) w = D.value (.struct .program) v := by
    induction flattens with
    | refl => exact ⟨whole, rfl⟩
    | tail _ step ih =>
      have alike := derived.within lifts_eq derived.listed_alike step ih.1
      exact ⟨alike.whole, alike.reads.symm.trans ih.2⟩
  exact ⟨flattened.1, flattened.2, by rw [load, load, flattened.2]⟩

end Derived

end Decoder

def tabled : Json :=
  .object [
    ("kind", .string "record"),
    ("properties", .array [.array [
      .string "x",
      .object [("kind", .string "number")] none] none] none)] none

def pairOf (first second : Json) : Json :=
  .object [
    ("symbols", .array [first, second] none),
    ("exports", .array [.string "p.A"] none)] none

def recordSymbol (type : Json) : Json := .object [("type", type), ("name", .string "p.A")] none

def untypedSymbol : Json := .object [("name", .string "p.B")] none

/-- The two symbols by position, where the second spells out that it has no type. -/
def pairByPosition : Json :=
  .array [
    .array [.string "p.A"] none,
    .array [.array [.string "p.A", tabled] none, .array [.string "p.B", .null] none] none] none

theorem spelledOut_listed : reader.Within Listed (.type false) spelledOut tabled := by
  have property : reader.Within Listed (.struct .property)
      (.object [("name", .string "x"), ("type", .object [("kind", .string "number")] none)] none)
      (.array [.string "x", .object [("kind", .string "number")] none] none) :=
    .here (.fields ⟨by decide, by decide, .cons rfl (.cons rfl .nil), by simp [Struct.fields]⟩)
  exact @Decoder.Within.member reader _ (.type false) _ [("kind", .string "record")] []
    { key := "properties", form := .list (.struct .property), optional := true } _ _ rfl
    (by decide) (@Decoder.Within.item _ _ _ [] [] _ _ property)

theorem pairOf_listed {first second w : Json} :
    (reader.Within Listed (.struct .symbol) first w →
      reader.Within Listed (.struct .program) (pairOf first second) (pairOf w second)) ∧
    (reader.Within Listed (.struct .symbol) second w →
      reader.Within Listed (.struct .program) (pairOf first second) (pairOf first w)) := by
  have symbols (u v : Json) (inner : reader.Within Listed (.list (.struct .symbol)) u v) :
      reader.Within Listed (.struct .program)
        (.object [("symbols", u), ("exports", .array [.string "p.A"] none)] none)
        (.object [("symbols", v), ("exports", .array [.string "p.A"] none)] none) :=
    @Decoder.Within.member reader _ (.struct .program) _ []
      [("exports", .array [.string "p.A"] none)]
      { key := "symbols", form := .list (.struct .symbol), optional := true } _ _ rfl (by decide)
      inner
  exact ⟨fun step => symbols _ _ (@Decoder.Within.item _ _ _ [] [second] _ _ step),
    fun step => symbols _ _ (@Decoder.Within.item _ _ _ [first] [] _ _ step)⟩

theorem pair_flattens :
    reader.Flattens (pairOf (recordSymbol spelledOut) untypedSymbol) pairByPosition := by
  have type : reader.Within Listed (.struct .symbol) (recordSymbol spelledOut)
      (recordSymbol tabled) :=
    @Decoder.Within.member reader _ (.struct .symbol) _ [] [("name", .string "p.A")]
      { key := "type", form := .nullable (.type false), optional := true } _ _ rfl (by decide)
      (.present spelledOut_listed)
  have record : reader.Within Listed (.struct .symbol) (recordSymbol tabled)
      (.array [.string "p.A", tabled] none) :=
    .here (.fields ⟨by decide, by decide, .cons rfl (.cons rfl .nil), by simp [Struct.fields]⟩)
  have untyped : reader.Within Listed (.struct .symbol) untypedSymbol
      (.array [.string "p.B", .null] none) :=
    .here (.fields ⟨by decide, by decide, .cons rfl (.cons rfl .nil), by simp [Struct.fields]⟩)
  have program : reader.Within Listed (.struct .program)
      (pairOf (.array [.string "p.A", tabled] none) (.array [.string "p.B", .null] none))
      pairByPosition :=
    .here (.fields ⟨by decide, by decide, .cons rfl (.cons rfl .nil),
      by simp [Struct.fields, given]⟩)
  exact .tail (.tail (.tail (.single (pairOf_listed.1 type)) (pairOf_listed.1 record))
    (pairOf_listed.2 untyped)) program

def pair : ProgramSpec where
  exports := ["p.A"]
  symbols := [
    { name := "p.A", type? := some (.record [("x", .primitive .number)]) },
    { name := "p.B" }]

theorem pair_reads_same :
    reader.Flattens (pairOf (recordSymbol spelledOut) untypedSymbol) pairByPosition ∧
      reader.value (.struct .program) (pairOf (recordSymbol spelledOut) untypedSymbol) = some pair ∧
      reader.value (.struct .program) pairByPosition = some pair ∧
      reader.load pairByPosition = some pair.toGraph := by
  have whole : (pairOf (recordSymbol spelledOut) untypedSymbol).Whole := rfl
  have decodes : reader.value (.struct .program) (pairOf (recordSymbol spelledOut) untypedSymbol) =
    some pair := rfl
  obtain ⟨-, reads, loads⟩ := reader_derived.flattened_reads_same whole pair_flattens
  refine ⟨pair_flattens, decodes, reads.trans decodes, loads.trans ?_⟩
  rw [Decoder.load, decodes, Option.map_some]

end Ambient.Dump
