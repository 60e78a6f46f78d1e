import Ambient.Proofs.Places
import Ambient.Proofs.Reader
import Mathlib.Logic.Relation

namespace Ambient.Dump

open Entries (given given_append given_cons_self given_cons_of_ne)

def Keeps {α : Type} (before after : Option α) : Prop := ∀ a, before = some a → after = some a

theorem lifts_keeps : Lifts Keeps where
  refl _ _ same := same
  bind first next b done := by
    obtain ⟨a, here, later⟩ := Option.bind_eq_some_iff.mp done
    exact Option.bind_eq_some_iff.mpr ⟨a, first a here, next a b later⟩
  decided kept := kept _ rfl

/-- A change to the members of an object that has some fields: another order, one more member of a
name that is unknown there, or one less that is written as its default. -/
inductive Edit (fields : List Field) : List (String × Json) → List (String × Json) → Prop where
  | reorder {members members' : List (String × Json)} (same : members.Perm members') :
      Edit fields members members'
  | add {before after : List (String × Json)} {key : String} {value : Json}
      (unknown : ∀ f ∈ fields, f.key ≠ key) (whole : value.Whole) :
      Edit fields (before ++ after) (before ++ (key, value) :: after)
  | drop {before after : List (String × Json)} {f : Field} {value : Json}
      (known : f ∈ fields) (default : f.written? = some value) :
      Edit fields (before ++ (f.key, value) :: after) (before ++ after)

theorem Edit.whole {fields : List Field} {members members' : List (String × Json)}
    (edit : Edit fields members members') (wholes : ∀ m ∈ members, m.2.Whole) :
    ∀ m ∈ members', m.2.Whole := by
  cases edit with
  | reorder same => exact fun m member => wholes m (same.mem_iff.mpr member)
  | add unknown whole =>
    rw [List.forall_mem_append] at wholes
    rw [List.forall_mem_append, List.forall_mem_cons]
    exact ⟨wholes.1, whole, wholes.2⟩
  | drop known default =>
    rw [List.forall_mem_append, List.forall_mem_cons] at wholes
    exact List.forall_mem_append.mpr ⟨wholes.1, wholes.2.2⟩

namespace Decoder

inductive Edited (D : Decoder) : Form → Json → Json → Prop where
  | members {form : Form} {fields : List Field} {members members' : List (String × Json)}
      (laid : D.layout? form (.object members none) = some fields)
      (edit : Edit fields members members') :
      Edited D form (.object members none) (.object members' none)

def Respells (D : Decoder) : Json → Json → Prop :=
  Relation.ReflTransGen (D.Within D.Edited (.struct .program))

variable {D : Decoder} {form : Form} {fields : List Field}

theorem field_perm (f : Field) {vs us : List Json} (same : vs.Perm us) :
    D.field f vs = D.field f us := by
  match vs, us, same.length_eq with
  | [], [], _ => rfl
  | [v], [u], _ => rw [List.singleton_perm_singleton.mp same]
  | _ :: _ :: _, _ :: _ :: _, _ => rfl

namespace Derived

variable (derived : D.Derived)

include derived

theorem default?_of_written? {f : Field} {written : Json} (spelled : f.written? = some written) :
    f.default? = D.value f.form written := by
  unfold Field.written? at spelled
  unfold Field.default?
  split at spelled
  · next optional => rw [if_pos optional, derived.value_written spelled]
  · contradiction

/-- An edit is not noticed by any field: it moves what the field is given, is of no concern to it,
or takes away what is its default. -/
theorem edit_keeps (distinct : (fields.map (·.key)).Nodup) {members members' : List (String × Json)}
    (edit : Edit fields members members') (f : Field) (known : f ∈ fields) :
    Keeps (D.field f (given members f.key)) (D.field f (given members' f.key)) := by
  cases edit with
  | reorder same =>
    rw [field_perm f (Entries.given_perm same f.key)]
    exact lifts_keeps.refl _
  | add unknown whole =>
    rw [given_append, given_append, given_cons_of_ne (unknown f known).symm]
    exact lifts_keeps.refl _
  | @drop before after g value known' default =>
    rw [given_append, given_append]
    by_cases same : g.key = f.key
    · obtain rfl := List.inj_on_of_nodup_map distinct known' known same
      rw [given_cons_self]
      match given before g.key, given after g.key with
      | [], [] =>
        intro x read
        exact (derived.default?_of_written? default).trans read
      | [], _ :: _ | [_], _ | _ :: _ :: _, _ => exact nofun
    · rw [given_cons_of_ne same]
      exact lifts_keeps.refl _

theorem edited_alike (form : Form) (v w : Json) (edited : D.Edited form v w) (whole : v.Whole) :
    D.Alike Keeps form v w := by
  obtain ⟨laid, edit⟩ := edited
  rw [Json.object_whole_iff] at whole
  have whole' := edit.whole whole
  have kept := derived.edit_keeps (layout?_keys_nodup laid) edit
  exact ⟨(Json.object_whole_iff _).mpr whole', by simp,
    derived.object_related lifts_keeps laid whole whole' kept⟩

/-- How a dump is spelled does not matter: what is decoded from one spelling is decoded from the
other, and loads to the same program or has the same problem. By induction on the number of
edits. -/
theorem respelled_reads_same {v w : Json} {p : ProgramSpec} (whole : v.Whole)
    (respells : D.Respells v w) (decodes : D.value (.struct .program) v = some p) :
    w.Whole ∧ D.value (.struct .program) w = some p ∧
      D.load v = some p.toGraph ∧ D.load w = some p.toGraph := by
  have respelled : w.Whole ∧ D.value (.struct .program) w = some p := by
    induction respells with
    | refl => exact ⟨whole, decodes⟩
    | tail _ step ih =>
      have alike := derived.within lifts_keeps derived.edited_alike step ih.1
      exact ⟨alike.whole, alike.reads p ih.2⟩
  refine ⟨respelled.1, respelled.2, ?_, ?_⟩
  · rw [load, decodes, Option.map_some]
  · rw [load, respelled.2, Option.map_some]

end Derived

end Decoder

def dumpOf (type : Json) : Json :=
  .object [
    ("exports", .array [.string "p.A"] none),
    ("symbols", .array [.object [("name", .string "p.A"), ("type", type)] none] none),
    ("aliases", .object [] none)] none

def spelledOut : Json :=
  .object [
    ("kind", .string "record"),
    ("properties", .array [.object [
      ("name", .string "x"),
      ("type", .object [("kind", .string "number")] none)] none] none)] none

/-- The same with a remark on the number, and with the tag of the record at its end. -/
def remarked : Json :=
  .object [
    ("properties", .array [.object [
      ("name", .string "x"),
      ("type", .object [("since", .array [.null] none), ("kind", .string "number")] none)]
      none] none),
    ("kind", .string "record")] none

def terse : Json :=
  .object [
    ("exports", .array [.string "p.A"] none),
    ("symbols", .array [.object [("name", .string "p.A"), ("type", remarked)] none] none)] none

theorem spelledOut_respelled :
    Relation.ReflTransGen (reader.Within reader.Edited (.type false)) spelledOut remarked := by
  have number : reader.Within reader.Edited (.type true)
      (.object [("kind", .string "number")] none)
      (.object [("since", .array [.null] none), ("kind", .string "number")] none) :=
    .here (.members rfl (@Edit.add _ [] _ "since" _ (by decide) rfl))
  have property := @Decoder.Within.member reader _ (.struct .property) _ [("name", .string "x")] []
    { key := "type", form := .type true } _ _ rfl (by decide) number
  have properties := @Decoder.Within.member reader _ (.type false) _ [("kind", .string "record")] []
    { key := "properties", form := .list (.struct .property), optional := true } _ _ rfl
    (by decide) (@Decoder.Within.item _ _ _ [] [] _ _ property)
  exact .tail (.single properties) (.here (.members rfl (.reorder (.swap _ _ _))))

theorem dumpOf_respelled {v w : Json} (step : reader.Within reader.Edited (.type false) v w) :
    reader.Within reader.Edited (.struct .program) (dumpOf v) (dumpOf w) := by
  have symbol := @Decoder.Within.member reader _ (.struct .symbol) _ [("name", .string "p.A")] []
    { key := "type", form := .nullable (.type false), optional := true } _ _ rfl (by decide)
    (.present step)
  exact @Decoder.Within.member reader _ (.struct .program) _
    [("exports", .array [.string "p.A"] none)] [("aliases", .object [] none)]
    { key := "symbols", form := .list (.struct .symbol), optional := true } _ _ rfl (by decide)
    (@Decoder.Within.item _ _ _ [] [] _ _ symbol)

def numbered : ProgramSpec where
  exports := ["p.A"]
  symbols := [{ name := "p.A", type? := some (.record [("x", .primitive .number)]) }]

theorem terse_reads_same :
    reader.Respells (dumpOf spelledOut) terse ∧
      reader.value (.struct .program) (dumpOf spelledOut) = some numbered ∧
      reader.value (.struct .program) terse = some numbered ∧
      reader.load terse = some numbered.toGraph := by
  have remark : reader.Respells (dumpOf spelledOut) (dumpOf remarked) :=
    spelledOut_respelled.lift dumpOf fun _ _ => dumpOf_respelled
  have drop : reader.Within reader.Edited (.struct .program) (dumpOf remarked) terse :=
    .here (.members rfl (@Edit.drop _ [_, _] []
      { key := "aliases", form := .table (.type false), optional := true } _ (by decide) rfl))
  have respells := remark.tail drop
  have whole : (dumpOf spelledOut).Whole := rfl
  have decodes : reader.value (.struct .program) (dumpOf spelledOut) = some numbered := rfl
  obtain ⟨-, reads, -, loads⟩ := reader_derived.respelled_reads_same whole respells decodes
  exact ⟨respells, decodes, reads, loads⟩

end Ambient.Dump
