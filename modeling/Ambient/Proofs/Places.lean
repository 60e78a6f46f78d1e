import Ambient.Proofs.Decoding

/-!
Changes somewhere in a dump. A change to what stands in a place is one to every structure around it,
and how its result compares goes on from the inside out: through the field or position it stands in,
the list, the table, or the place that might be empty.
-/
namespace Ambient.Dump

open Entries (given given_append given_cons_self given_cons_of_ne)

theorem forall_mem_replace {α : Type} (P : α → Prop) {before after : List α} {v w : α}
    (step : P v → P w) (all : ∀ u ∈ before ++ v :: after, P u) :
    ∀ u ∈ before ++ w :: after, P u := by
  rw [List.forall_mem_append, List.forall_mem_cons] at all ⊢
  exact ⟨all.1, step all.2.1, all.2.2⟩

namespace Decoder

/-- The fields of what stands in a place. Those of a type come from its tag. -/
def layout? (D : Decoder) : Form → Json → Option (List Field)
  | .struct s, _ => some s.fields
  | .type buffered, .object members _ =>
    (D.field (.kind buffered) (given members "kind")).map fun kind => .kind buffered :: kind.fields
  | .type buffered, .array (tag :: _) _ =>
    (D.value (.tag buffered) tag).map fun kind => .kind buffered :: kind.fields
  | _, _ => none

/-- One change in what stands in a place, there or further down. -/
inductive Within (D : Decoder) (Change : Form → Json → Json → Prop) :
    Form → Json → Json → Prop where
  | here {form : Form} {v w : Json} (change : Change form v w) : Within D Change form v w
  | member {form : Form} {fields : List Field} {before after : List (String × Json)} {f : Field}
      {v w : Json}
      (laid : D.layout? form (.object (before ++ (f.key, v) :: after) none) = some fields)
      (known : f ∈ fields) (inner : Within D Change f.form v w) :
      Within D Change form (.object (before ++ (f.key, v) :: after) none)
        (.object (before ++ (f.key, w) :: after) none)
  | position {form : Form} {earlier later : List Field} {before after : List Json} {f : Field}
      {v w : Json} (laid : D.layout? form (.array (before ++ v :: after) none) =
        some (earlier ++ f :: later))
      (level : before.length = earlier.length) (inner : Within D Change f.form v w) :
      Within D Change form (.array (before ++ v :: after) none) (.array (before ++ w :: after) none)
  | item {form : Form} {before after : List Json} {v w : Json}
      (inner : Within D Change form v w) :
      Within D Change (.list form) (.array (before ++ v :: after) none)
        (.array (before ++ w :: after) none)
  | target {form : Form} {before after : List (String × Json)} {name : Name} {v w : Json}
      (inner : Within D Change form v w) :
      Within D Change (.table form) (.object (before ++ (name, v) :: after) none)
        (.object (before ++ (name, w) :: after) none)
  | present {form : Form} {v w : Json} (inner : Within D Change form v w) :
      Within D Change (.nullable form) v w

/-- What is known of a change to a value: it leaves JSON, not null, and the results compare. -/
structure Alike (D : Decoder) (R : {α : Type} → Option α → Option α → Prop) (form : Form)
    (v w : Json) : Prop where
  whole : w.Whole
  filled : v ≠ .null ∧ w ≠ .null
  reads : R (D.value form v) (D.value form w)

variable {D : Decoder} {R : {α : Type} → Option α → Option α → Prop} {form : Form}
  {fields : List Field}

theorem layout?_keys_nodup {v : Json} (laid : D.layout? form v = some fields) :
    (fields.map (·.key)).Nodup := by
  have typed (buffered : Bool) (kind : Kind) :
      ((Field.kind buffered :: kind.fields).map (·.key)).Nodup := by
    rw [List.map_cons, List.nodup_cons]
    refine ⟨fun among => ?_, (Struct.variant kind).keys_nodup⟩
    obtain ⟨f, known, same⟩ := List.mem_map.mp among
    exact kind.key_ne f known same
  unfold layout? at laid
  split at laid
  · cases laid
    exact Struct.keys_nodup _
  · obtain ⟨kind, -, rfl⟩ := Option.map_eq_some_iff.mp laid
    exact typed _ kind
  · obtain ⟨kind, -, rfl⟩ := Option.map_eq_some_iff.mp laid
    exact typed _ kind
  · contradiction

theorem field_replace (lifts : Lifts R) {f : Field} {vs us : List Json} {v w : Json}
    (reads : R (D.value f.form v) (D.value f.form w)) :
    R (D.field f (vs ++ v :: us)) (D.field f (vs ++ w :: us)) := by
  match vs, us with
  | [], [] => exact reads
  | [], _ :: _ | [_], _ | _ :: _ :: _, _ => exact lifts.refl none

theorem given_replace_of_ne {before after : List (String × Json)} {key key' : String} {v w : Json}
    (other : key ≠ key') :
    given (before ++ (key, v) :: after) key' = given (before ++ (key, w) :: after) key' := by
  rw [given_append, given_append, given_cons_of_ne other, given_cons_of_ne other]

namespace Derived

variable (derived : D.Derived) (lifts : Lifts R)

include derived lifts

theorem object_related {members members' : List (String × Json)}
    (laid : D.layout? form (.object members none) = some fields)
    (whole : ∀ m ∈ members, m.2.Whole) (whole' : ∀ m ∈ members', m.2.Whole)
    (related : ∀ f ∈ fields,
      R (D.field f (given members f.key)) (D.field f (given members' f.key))) :
    R (D.value form (.object members none)) (D.value form (.object members' none)) := by
  cases form with
  | struct s =>
    cases laid
    rw [derived.object_eq s whole, derived.object_eq s whole']
    exact lifts.map _ (lifts.collect related)
  | type buffered =>
    obtain ⟨kind, tag, rfl⟩ := Option.map_eq_some_iff.mp laid
    obtain ⟨first, rest⟩ := List.forall_mem_cons.mp related
    have tag' : D.field (.kind buffered) (given members' "kind") = some kind :=
      lifts.decided (tag ▸ first)
    rw [derived.tagged_object_eq buffered whole, derived.tagged_object_eq buffered whole', tag,
      tag']
    exact lifts.map _ (lifts.collect rest)
  | _ => contradiction

theorem items_related {earlier later : List Field} {f : Field} {before after : List Json}
    {v w : Json} (laid : fields = earlier ++ f :: later) (level : before.length = earlier.length)
    (reads : R (D.value f.form v) (D.value f.form w)) :
    R (D.items fields (before ++ v :: after)) (D.items fields (before ++ w :: after)) := by
  subst laid
  induction earlier generalizing before with
  | nil =>
    obtain rfl := List.eq_nil_of_length_eq_zero level
    rw [List.nil_append, List.nil_append, List.nil_append, derived.item, derived.item]
    exact lifts.bind reads fun _ => lifts.refl _
  | cons g earlier ih =>
    obtain ⟨u, before, rfl⟩ := List.exists_cons_of_length_eq_add_one level
    rw [List.cons_append, List.cons_append, List.cons_append, derived.item, derived.item]
    exact lifts.bind (lifts.refl _) fun _ => lifts.map _ (ih (Nat.succ.inj level))

theorem array_related {earlier later : List Field} {f : Field} {before after : List Json}
    {v w : Json} (laid : D.layout? form (.array (before ++ v :: after) none) =
      some (earlier ++ f :: later))
    (level : before.length = earlier.length) (whole : ∀ u ∈ before ++ v :: after, u.Whole)
    (whole' : ∀ u ∈ before ++ w :: after, u.Whole)
    (reads : R (D.value f.form v) (D.value f.form w)) :
    R (D.value form (.array (before ++ v :: after) none))
      (D.value form (.array (before ++ w :: after) none)) := by
  cases form with
  | struct s =>
    rw [derived.array, derived.array]
    exact lifts.map _ (derived.items_related lifts (Option.some.inj laid) level reads)
  | type buffered =>
    cases before with
    | nil =>
      -- a change to the tag itself
      obtain rfl := List.eq_nil_of_length_eq_zero level.symm
      obtain ⟨kind, -, same⟩ := Option.map_eq_some_iff.mp laid
      obtain ⟨rfl, -⟩ := List.cons.inj same
      rw [List.nil_append, List.forall_mem_cons] at whole
      rw [List.nil_append, List.nil_append, derived.tagged_array buffered v whole.2,
        derived.tagged_array buffered w whole.2]
      exact lifts.bind reads fun _ => lifts.refl _
    | cons tag before =>
      obtain ⟨kind, told, same⟩ := Option.map_eq_some_iff.mp laid
      cases earlier with
      | nil => contradiction
      | cons g earlier =>
      obtain ⟨-, fields⟩ := List.cons.inj same
      rw [List.cons_append, List.forall_mem_cons] at whole whole'
      rw [List.cons_append, List.cons_append, derived.tagged_array buffered tag whole.2,
        derived.tagged_array buffered tag whole'.2, told]
      exact lifts.map _ (derived.items_related lifts fields (Nat.succ.inj level) reads)
  | _ => contradiction

/-- What holds of a change where it is made holds in all places around it, by induction on where it
is made. -/
theorem within {Change : Form → Json → Json → Prop}
    (made : ∀ form v w, Change form v w → v.Whole → D.Alike R form v w) {v w : Json}
    (step : D.Within Change form v w) (whole : v.Whole) : D.Alike R form v w := by
  induction step with
  | here change => exact made _ _ _ change whole
  | @member form fields before after f v w laid known inner ih =>
    rw [Json.object_whole_iff] at whole
    have alike := ih (whole _ (List.mem_append_right before List.mem_cons_self))
    have whole' := forall_mem_replace (fun m : String × Json => m.2.Whole)
      (w := (f.key, w)) (fun _ => alike.whole) whole
    refine ⟨(Json.object_whole_iff _).mpr whole', by simp, ?_⟩
    refine derived.object_related lifts laid whole whole' fun g known' => ?_
    by_cases same : f.key = g.key
    · obtain rfl := List.inj_on_of_nodup_map (layout?_keys_nodup laid) known known' same
      rw [given_append, given_append, given_cons_self, given_cons_self]
      exact field_replace lifts alike.reads
    · rw [given_replace_of_ne same]
      exact lifts.refl _
  | @position form earlier later before after f v w laid level inner ih =>
    rw [Json.array_whole_iff] at whole
    have alike := ih (whole _ (List.mem_append_right before List.mem_cons_self))
    have whole' := forall_mem_replace Json.Whole (fun _ => alike.whole) whole
    exact ⟨(Json.array_whole_iff _).mpr whole', by simp,
      derived.array_related lifts laid level whole whole' alike.reads⟩
  | @item form before after v w inner ih =>
    rw [Json.array_whole_iff] at whole
    have alike := ih (whole _ (List.mem_append_right before List.mem_cons_self))
    have whole' := forall_mem_replace Json.Whole (fun _ => alike.whole) whole
    refine ⟨(Json.array_whole_iff _).mpr whole', by simp, ?_⟩
    rw [derived.list, derived.list]
    exact lifts.mapM alike.reads
  | @target form before after name v w inner ih =>
    rw [Json.object_whole_iff] at whole
    have alike := ih (whole _ (List.mem_append_right before List.mem_cons_self))
    have whole' := forall_mem_replace (fun m : String × Json => m.2.Whole)
      (w := (name, w)) (fun _ => alike.whole) whole
    refine ⟨(Json.object_whole_iff _).mpr whole', by simp, ?_⟩
    rw [derived.table, derived.table]
    exact lifts.map _ (lifts.mapM (lifts.map _ alike.reads))
  | present inner ih =>
    have alike := ih whole
    refine ⟨alike.whole, alike.filled, ?_⟩
    rw [derived.present alike.filled.1, derived.present alike.filled.2]
    exact lifts.map _ alike.reads

end Derived

end Decoder

end Ambient.Dump
