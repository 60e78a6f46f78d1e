import Ambient.Dump.Decoder
import Mathlib.Data.List.Nodup

/-!
What a derived decoder makes of a structure. Going through the members of an object, it gives each
field what its key is given, wherever that stands, or the default; and a type has the fields of the
kind that its tag tells.
-/
namespace Ambient

namespace Json

theorem object_whole_iff (members : List (String × Json)) :
    (object members none).Whole ↔ ∀ m ∈ members, m.2.Whole := by
  rw [Whole, readFault?]
  induction members with
  | nil => simp [membersReadFault?]
  | cons m members ih =>
    simp only [Option.map_none, Option.or_none] at ih ⊢
    rw [membersReadFault?, memberReadFault?, Option.or_eq_none_iff, ih, List.forall_mem_cons, Whole]

theorem array_whole_iff (items : List Json) :
    (array items none).Whole ↔ ∀ v ∈ items, v.Whole := by
  rw [Whole, readFault?]
  induction items with
  | nil => simp [itemsReadFault?]
  | cons v items ih =>
    simp only [Option.map_none, Option.or_none] at ih ⊢
    rw [itemsReadFault?, Option.or_eq_none_iff, ih, List.forall_mem_cons, Whole]

end Json

namespace Entries

variable {α : Type}

def given (entries : List (String × α)) (key : String) : List α :=
  (entries.filter (·.1 = key)).map (·.2)

theorem given_append (entries more : List (String × α)) (key : String) :
    given (entries ++ more) key = given entries key ++ given more key := by
  unfold given
  rw [List.filter_append, List.map_append]

theorem given_cons_self (key : String) (value : α) (entries : List (String × α)) :
    given ((key, value) :: entries) key = value :: given entries key := by
  simp [given]

theorem given_cons_of_ne {key key' : String} (other : key ≠ key') (value : α)
    (entries : List (String × α)) : given ((key, value) :: entries) key' = given entries key' := by
  simp [given, other]

theorem mem_given_iff (entries : List (String × α)) (key : String) (value : α) :
    value ∈ given entries key ↔ (key, value) ∈ entries := by
  simp [given]

theorem given_perm {entries entries' : List (String × α)} (same : entries.Perm entries')
    (key : String) : (given entries key).Perm (given entries' key) :=
  (same.filter _).map _

end Entries

namespace Dump

open Entries (given given_cons_self given_cons_of_ne)

/-- A comparison of results that also holds of what is made of them. -/
structure Lifts (R : {α : Type} → Option α → Option α → Prop) : Prop where
  refl {α : Type} (result : Option α) : R result result
  bind {α β : Type} {result result' : Option α} {next next' : α → Option β} :
    R result result' → (∀ a, R (next a) (next' a)) → R (result.bind next) (result'.bind next')
  decided {α : Type} {a : α} {result : Option α} : R (some a) result → result = some a

namespace Lifts

variable {R : {α : Type} → Option α → Option α → Prop} (lifts : Lifts R) {α β : Type}

include lifts

theorem map {result result' : Option α} (f : α → β) (related : R result result') :
    R (result.map f) (result'.map f) := by
  rw [Option.map_eq_bind, Option.map_eq_bind]
  exact lifts.bind related fun _ => lifts.refl _

theorem mapM {f : α → Option β} {before after : List α} {v w : α} (related : R (f v) (f w)) :
    R ((before ++ v :: after).mapM f) ((before ++ w :: after).mapM f) := by
  rw [List.mapM_append, List.mapM_append, List.mapM_cons, List.mapM_cons]
  refine lifts.bind (lifts.refl _) fun _ => lifts.bind ?_ fun _ => lifts.refl _
  exact lifts.bind related fun _ => lifts.refl _

theorem collect {get get' : (f : Field) → Option f.form.Value} {fields : List Field}
    (related : ∀ f ∈ fields, R (get f) (get' f)) :
    R (collect get fields) (collect get' fields) := by
  induction fields with
  | nil => exact lifts.refl _
  | cons f fields ih =>
    obtain ⟨first, rest⟩ := List.forall_mem_cons.mp related
    exact lifts.bind first fun _ => lifts.bind (ih rest) fun _ => lifts.refl _

end Lifts

theorem lifts_eq : Lifts Eq where
  refl _ := rfl
  bind same next := by
    rw [same]
    exact Option.bind_congr fun a _ => next a
  decided same := same.symm

theorem collect_eq_none {get : (f : Field) → Option f.form.Value} {fields : List Field} {f : Field}
    (known : f ∈ fields) (missing : get f = none) : collect get fields = none := by
  induction fields with
  | nil => contradiction
  | cons g fields ih =>
    rw [collect]
    rcases List.mem_cons.mp known with rfl | known
    · rw [missing]
      rfl
    · rw [ih known]
      cases get g <;> rfl

namespace Slots

variable {slots : Slots} {f g : Field} {value : f.form.Value}

theorem set_self : slots.set f value f = some value := by
  simp [set]

theorem set_of_ne (other : f ≠ g) : slots.set f value g = slots g := by
  simp [set, other]

end Slots

theorem Struct.keys_nodup (s : Struct) : (s.fields.map (·.key)).Nodup := by
  cases s with
  | variant kind => cases kind <;> simp [fields, Kind.fields]
  | _ => simp [fields]

theorem Struct.eq_of_key_eq {s : Struct} {f g : Field} (known : f ∈ s.fields)
    (known' : g ∈ s.fields) (same : f.key = g.key) : f = g :=
  List.inj_on_of_nodup_map s.keys_nodup known known' same

theorem Kind.key_ne (kind : Kind) : ∀ f ∈ kind.fields, f.key ≠ "kind" := by
  cases kind <;> simp [fields]

namespace Decoder

/-- What a field gets from the values that its key is given. -/
def field (D : Decoder) (f : Field) : List Json → Option f.form.Value
  | [] => f.default?
  | [v] => D.value f.form v
  | _ => none

def left (D : Decoder) (slots : Slots) (members : List (String × Json)) (f : Field) :
    Option f.form.Value :=
  match slots f with
  | none => D.field f (given members f.key)
  | some value => if given members f.key = [] then some value else none

def fields (D : Decoder) (members : List (String × Json)) (fields : List Field) :
    Option (Values fields) :=
  collect (fun f => D.field f (given members f.key)) fields

theorem fields_cons (D : Decoder) (members : List (String × Json)) (f : Field)
    (fields : List Field) :
    D.fields members (f :: fields) = (D.field f (given members f.key)).bind fun x =>
      (D.fields members fields).map (x, ·) :=
  Option.bind_congr fun _ _ => Option.map_eq_bind.symm

theorem left_member {D : Decoder} {s : Struct} {f g : Field} {slots : Slots}
    {x : f.form.Value} {v : Json} {rest : List (String × Json)} (known : f ∈ s.fields)
    (unread : slots f = none) (value : D.value f.form v = some x) (known' : g ∈ s.fields) :
    D.left (slots.set f x) rest g = D.left slots ((f.key, v) :: rest) g := by
  by_cases same : f = g
  · subst same
    rw [left, left, Slots.set_self, unread, given_cons_self]
    cases given rest f.key with
    | nil => exact value.symm
    | cons u us => rfl
  · have other : f.key ≠ g.key := fun key => same (Struct.eq_of_key_eq known known' key)
    rw [left, left, Slots.set_of_ne same, given_cons_of_ne other]

namespace Derived

variable {D : Decoder} (derived : D.Derived)

include derived

/-- Going through the members, by induction on what is left of them. -/
theorem members_eq (s : Struct) (slots : Slots) {members : List (String × Json)}
    (whole : ∀ m ∈ members, m.2.Whole) :
    D.members s slots members = (collect (D.left slots members) s.fields).map s.make := by
  induction members generalizing slots with
  | nil =>
    rw [derived.members_end]
    refine congrArg _ (lifts_eq.collect fun f _ => ?_)
    rw [Slots.filled, left]
    cases slots f <;> rfl
  | cons m rest ih =>
    obtain ⟨key, v⟩ := m
    obtain ⟨whole, wholes⟩ := List.forall_mem_cons.mp whole
    by_cases known : ∃ f ∈ s.fields, f.key = key
    · obtain ⟨f, known, rfl⟩ := known
      cases read : slots f with
      | some x =>
        rw [derived.repeated known (by simp [read]), collect_eq_none known, Option.map_none]
        rw [left, read, given_cons_self]
        rfl
      | none =>
        rw [derived.member known read]
        cases value : D.value f.form v with
        | none =>
          rw [collect_eq_none known, Option.map_none, Option.bind_none]
          rw [left, read, given_cons_self]
          cases given rest f.key with
          | nil => exact value
          | cons u us => rfl
        | some x =>
          rw [Option.bind_some, ih _ wholes]
          refine congrArg _ (lifts_eq.collect fun g known' => ?_)
          exact left_member known read value known'
    · have unknown : ∀ f ∈ s.fields, f.key ≠ key := fun f member same => known ⟨f, member, same⟩
      rw [derived.unknown unknown whole, ih _ wholes]
      refine congrArg _ (lifts_eq.collect fun f member => ?_)
      rw [left, left, given_cons_of_ne (unknown f member).symm]

theorem object_eq (s : Struct) {members : List (String × Json)}
    (whole : ∀ m ∈ members, m.2.Whole) :
    D.value (.struct s) (.object members none) = (D.fields members s.fields).map s.make :=
  (derived.object s members).trans (derived.members_eq s .empty whole)

theorem content_tagged (buffered : Bool) (kind : Kind) {content members : List (String × Json)}
    (whole : ∀ m ∈ members, m.2.Whole) :
    D.content buffered (some kind) content members =
      if given members "kind" = [] then D.members (.variant kind) .empty (content ++ members)
      else none := by
  induction members generalizing content with
  | nil =>
    rw [derived.content_end, List.append_nil]
    rfl
  | cons m rest ih =>
    obtain ⟨key, v⟩ := m
    obtain ⟨whole, wholes⟩ := List.forall_mem_cons.mp whole
    by_cases tag : key = "kind"
    · rw [tag, derived.tag_repeated, given_cons_self]
      rfl
    · rw [derived.buffered tag whole, ih wholes, given_cons_of_ne tag, List.append_assoc]
      rfl

theorem content_untagged (buffered : Bool) {content members : List (String × Json)}
    (whole : ∀ m ∈ members, m.2.Whole) :
    D.content buffered none content members =
      (D.field (.kind buffered) (given members "kind")).bind fun kind =>
        D.members (.variant kind) .empty (content ++ members.filter (·.1 ≠ "kind")) := by
  induction members generalizing content with
  | nil => exact derived.untagged buffered content
  | cons m rest ih =>
    obtain ⟨key, v⟩ := m
    obtain ⟨whole, wholes⟩ := List.forall_mem_cons.mp whole
    by_cases tag : key = "kind"
    · subst tag
      rw [derived.tag, given_cons_self, List.filter_cons_of_neg (by simp)]
      simp only [derived.content_tagged _ _ wholes]
      cases others : given rest "kind" with
      | nil =>
        have kept : rest.filter (·.1 ≠ "kind") = rest := by
          refine List.filter_eq_self.mpr fun m member => ?_
          rw [decide_eq_true_eq]
          rintro tag
          have among := (Entries.mem_given_iff rest "kind" m.2).mpr (tag ▸ member)
          simp [others] at among
        rw [kept]
        rfl
      | cons u us => cases D.value (.tag buffered) v <;> rfl
    · rw [derived.buffered tag whole, ih wholes, given_cons_of_ne tag,
        List.filter_cons_of_pos (by simpa using tag), List.append_assoc]
      rfl

theorem tagged_object_eq (buffered : Bool) {members : List (String × Json)}
    (whole : ∀ m ∈ members, m.2.Whole) :
    D.value (.type buffered) (.object members none) =
      (D.field (.kind buffered) (given members "kind")).bind fun kind =>
        (D.fields members kind.fields).map kind.make := by
  rw [derived.tagged_object, derived.content_untagged buffered whole]
  refine lifts_eq.bind rfl fun kind => ?_
  have wholes : ∀ m ∈ members.filter (·.1 ≠ "kind"), m.2.Whole :=
    fun m member => whole m (List.mem_filter.mp member).1
  rw [List.nil_append, derived.members_eq _ _ wholes]
  refine congrArg _ (lifts_eq.collect fun f known => ?_)
  have same : given (members.filter (·.1 ≠ "kind")) f.key = given members f.key := by
    unfold given
    rw [List.filter_filter]
    refine congrArg _ (List.filter_congr fun m _ => ?_)
    have := kind.key_ne f known
    grind
  exact congrArg (D.field f) same

theorem value_written {form : Form} {written : Json} (spelled : form.written? = some written) :
    D.value form written = form.default? := by
  cases form with
  | flag =>
    cases spelled
    exact derived.flag false
  | nullable form =>
    cases spelled
    exact derived.absent form
  | list form =>
    cases spelled
    rw [derived.list]
    rfl
  | table form =>
    cases spelled
    rw [derived.table]
    rfl
  | _ => contradiction

end Derived

end Decoder

end Dump

end Ambient
