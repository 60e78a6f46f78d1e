import Ambient.Proofs.ParameterNames
import Ambient.Proofs.Survivors

/-!
Types that may be absent. A union of a present type with null and void is written as the type alone,
and this holds at every depth. What is written of a type hangs on its parts by their texts, but for
two places where the part itself is inspected: the key of an index signature and the element of a
rest parameter. Absence shows only if it is added right there.
-/
namespace Ambient.Ty

/-- A place directly below a type, with all that is around it. What stood there is written over. -/
inductive Position where
  | alternate (before after : List Ty)
  | argument (base : Name) (before after : List Ty)
  | property (before : Properties) (key : String) (after : Properties)
  | parameter (f : FunctionType Ty) (before : List (Param Ty)) (p : Param Ty)
    (after : List (Param Ty))
  | result (f : FunctionType Ty)
  | receiver (f : FunctionType Ty)
  | enumElement (e : EnumType Ty)
  | superclass (c : ClassType Ty)
  | parent (c : ClassType Ty) (before after : List Ty)
  | constructorParameter (c : ClassType Ty) (before : List (Param Ty)) (p : Param Ty)
    (after : List (Param Ty))
  | instances (c : ClassType Ty)
  | method (c : ClassType Ty) (before : Properties) (key : String) (after : Properties)
  | static (c : ClassType Ty) (before : Properties) (key : String) (after : Properties)

namespace Position

def fill : Position → Ty → Ty
  | alternate before after, t => .union (before ++ t :: after)
  | argument base before after, t => .templatized base (before ++ t :: after)
  | property before key after, t => .record (before ++ (key, t) :: after)
  | parameter f before p after, t =>
    .function { f with params := before ++ { p with type := t } :: after }
  | result f, t => .function { f with returns? := some t }
  | receiver f, t => .function { f with receiver? := some t }
  | enumElement e, t => .enumeration { e with element := t }
  | superclass c, t => .classlike { c with superclass? := some t }
  | parent c before after, t => .classlike { c with interfaces := before ++ t :: after }
  | constructorParameter c before p after, t =>
    .classlike { c with params := before ++ { p with type := t } :: after }
  | instances c, t => .classlike { c with instanceType := t }
  | method c before key after, t => .classlike { c with prototype := before ++ (key, t) :: after }
  | static c before key after, t => .classlike { c with statics := before ++ (key, t) :: after }

/-- The places where a type is not only written: the key of an index signature and the element of a
rest parameter. -/
inductive Inspects : Position → Prop
  | key (value : Ty) : Inspects (.argument objectBase [] [value])
  | rest {f : FunctionType Ty} {before after : List (Param Ty)} {p : Param Ty}
    (variadic : p.variadic = true) : Inspects (.parameter f before p after)

end Position

/-- A type in the innermost of some positions, this in the next one, and so on. -/
def plug : List Position → Ty → Ty
  | [], t => t
  | position :: path, t => plug path (position.fill t)

/-- Types that cannot be told apart where they are only written. -/
structure Alike (t t' : Ty) : Prop where
  text : ∀ ns, render ns t = render ns t'
  absence : t.isAbsence = t'.isAbsence
  arrow : t.isArrow = t'.isArrow

/-- Types that cannot be told apart where they are inspected either. -/
structure Interchangeable (t t' : Ty) : Prop extends Alike t t' where
  anyLike : t.isAnyLike = t'.isAnyLike
  parenthesized : t.isParenthesized = t'.isParenthesized
  key : indexKey t = indexKey t'

theorem kept_of_padding {t : Ty} (present : t.isAbsence = false) {before after : List Ty}
    (absent : ∀ s ∈ before ++ after, s.isAbsence = true) : kept (before ++ t :: after) = [t] := by
  obtain ⟨first, last⟩ := List.forall_mem_append.mp absent
  have none_before : kept before = [] := by simpa [kept] using first
  have none_after : kept after = [] := by simpa [kept] using last
  simp [kept_cons, present, none_before, none_after]

theorem alike_padded {t : Ty} (present : t.isAbsence = false) {before after : List Ty}
    (absent : ∀ s ∈ before ++ after, s.isAbsence = true) :
    Alike (.union (before ++ t :: after)) t := by
  have sole := kept_of_padding present absent
  exact { text := fun ns => render_of_sole ns sole
          absence := present.symm
          arrow := isArrow_of_sole sole }

section Fill

variable {t t' : Ty}

theorem Alike.kept_eq (alike : Alike t t') (before after : List Ty) :
    (kept (before ++ t :: after)).map isArrow = (kept (before ++ t' :: after)).map isArrow ∧
      ∀ ns, (kept (before ++ t :: after)).map (render ns) =
        (kept (before ++ t' :: after)).map (render ns) := by
  cases absent : t'.isAbsence <;>
    simp [kept_cons, alike.absence, absent, alike.arrow, alike.text]

theorem isSoleArrow_congr {ts ts' : List Ty}
    (same : (kept ts).map isArrow = (kept ts').map isArrow) : isSoleArrow ts = isSoleArrow ts' := by
  have told (ts : List Ty) : isSoleArrow ts = true ↔ (kept ts).map isArrow = [true] := by
    rw [isSoleArrow_iff]
    simp [List.map_eq_singleton_iff]
  rw [Bool.eq_iff_iff, told, told, same]

theorem fill_alternate (alike : Alike t t') (before after : List Ty) :
    Interchangeable (.union (before ++ t :: after)) (.union (before ++ t' :: after)) := by
  obtain ⟨arrows, texts⟩ := alike.kept_eq before after
  have count : (kept (before ++ t :: after)).length = (kept (before ++ t' :: after)).length := by
    simpa using congrArg List.length arrows
  exact { text := fun ns => by rw [render_union, render_union, texts]
          absence := rfl
          arrow := isSoleArrow_congr arrows
          anyLike := rfl
          parenthesized := by simp only [isParenthesized, count]
          key := rfl }

theorem render_argument (alike : Alike t t') (ns base : Name) (before after : List Ty)
    (inspected : base = objectBase → before = [] → after.length = 1 → indexKey t = indexKey t') :
    render ns (.templatized base (before ++ t :: after)) =
      render ns (.templatized base (before ++ t' :: after)) := by
  simp only [render, renderList_eq, List.map_append, List.map_cons, alike.text]
  -- the part is inspected as a single argument, for an arrow, and as the first of two, for a key
  cases before with
  | nil =>
    cases after with
    | nil => simp [templatizedText, alike.arrow]
    | cons value after =>
      cases after with
      | nil =>
        by_cases object : base = objectBase
        · simp [templatizedText, inspected object rfl rfl]
        · simp [templatizedText, object]
      | cons => rfl
  | cons _ before =>
    cases before with
    | nil => cases after <;> rfl
    | cons _ before => cases before <;> rfl

theorem renderParams_append (ns : Name) (index : Nat) (params others : List (Param Ty)) :
    renderParams ns index (params ++ others) =
      renderParams ns index params ++ renderParams ns (index + params.length) others := by
  simp [renderParams_eq, List.mapIdx_append, Nat.add_comm, Nat.add_left_comm]

theorem render_parameter (alike : Alike t t') (ns : Name) (f : FunctionType Ty)
    (before : List (Param Ty)) (p : Param Ty) (after : List (Param Ty))
    (inspected : p.variadic = true → Interchangeable t t') :
    render ns (.function { f with params := before ++ { p with type := t } :: after }) =
      render ns (.function { f with params := before ++ { p with type := t' } :: after }) := by
  have same (index : Nat) :
      renderParam ns index { p with type := t } = renderParam ns index { p with type := t' } := by
    simp only [renderParam, paramText, alike.text]
    cases variadic : p.variadic with
    | true => simp [(inspected variadic).anyLike, (inspected variadic).parenthesized]
    | false => rfl
  simp only [render, renderArrow, renderParams_append, renderParams, same]

/-- A part that is not inspected may give way to one that is alike, and what it is part of is
written and inspected as before. -/
theorem Position.fill_interchangeable (position : Position) (alike : Alike t t')
    (inspected : position.Inspects → Interchangeable t t') :
    Interchangeable (position.fill t) (position.fill t') := by
  cases position with
  | alternate before after => exact fill_alternate alike before after
  | argument base before after =>
    have key : base = objectBase → before = [] → after.length = 1 → indexKey t = indexKey t' := by
      rintro rfl rfl single
      obtain ⟨value, rfl⟩ := List.length_eq_one_iff.mp single
      exact (inspected (.key value)).key
    exact ⟨⟨fun ns => render_argument alike ns base before after key, rfl, rfl⟩, rfl, rfl, rfl⟩
  | property before key after =>
    have text (ns : Name) : render ns (fill (property before key after) t) =
        render ns (fill (property before key after) t') := by
      simp [fill, render, renderFields_eq, renderField, alike.text]
    exact ⟨⟨text, rfl, rfl⟩, rfl, rfl, rfl⟩
  | parameter f before p after =>
    have rest := fun variadic => inspected (.rest variadic)
    exact ⟨⟨fun ns => render_parameter alike ns f before p after rest, rfl, rfl⟩, rfl, rfl, rfl⟩
  | result f =>
    have text (ns : Name) : render ns (fill (result f) t) = render ns (fill (result f) t') := by
      simp [fill, render, renderArrow, renderReturn, alike.text]
    exact ⟨⟨text, rfl, rfl⟩, rfl, rfl, rfl⟩
  -- the other parts are not written
  | _ => exact ⟨⟨fun _ => rfl, rfl, rfl⟩, rfl, rfl, rfl⟩

theorem plug_interchangeable (same : Interchangeable t t') (path : List Position) :
    Interchangeable (plug path t) (plug path t') := by
  induction path generalizing t t' with
  | nil => exact same
  | cons position path ih =>
    exact ih (position.fill_interchangeable same.toAlike fun _ => same)

theorem plug_alike (alike : Alike t t') (path : List Position)
    (written : ∀ position ∈ path.head?, ¬ position.Inspects) :
    Alike (plug path t) (plug path t') := by
  cases path with
  | nil => exact alike
  | cons position path =>
    have direct : ¬ position.Inspects := written position rfl
    have same := position.fill_interchangeable alike fun inspects => absurd inspects direct
    exact (plug_interchangeable same path).toAlike

end Fill

/-- A present type at any place below a type may be put into a union with any number of null and
void alternates around it, and the text of the whole is the same, unless the place is the key of an
index signature or the type of a rest parameter. -/
theorem nullability_invisible (ns : Name) (path : List Position)
    (written : ∀ position ∈ path.head?, ¬ position.Inspects) {t : Ty}
    (present : t ≠ .primitive .null ∧ t ≠ .primitive .void) {before after : List Ty}
    (absent : ∀ s ∈ before ++ after, s = .primitive .null ∨ s = .primitive .void) :
    render ns (plug path (.union (before ++ t :: after))) = render ns (plug path t) := by
  have filled : t.isAbsence = false := by
    rw [← Bool.not_eq_true, isAbsence_iff]
    exact not_or.mpr present
  have padding : ∀ s ∈ before ++ after, s.isAbsence = true :=
    fun s member => s.isAbsence_iff.mpr (absent s member)
  exact (plug_alike (alike_padded filled padding) path written).text ns

-- Right at a rest parameter absence shows.
example : render "" (plug [.parameter {} [] ⟨some "rest", .primitive .all, false, true⟩ []]
      (.union [.primitive .all, .primitive .null])) ≠
    render "" (plug [.parameter {} [] ⟨some "rest", .primitive .all, false, true⟩ []]
      (.primitive .all)) := by
  decide

/-- In a union that is the element of an array, which is the type of a rest parameter of a function
that is returned. -/
def keyed : List Position :=
  [.alternate [] [.primitive .number], .argument arrayBase [] [],
    .parameter {} [] ⟨some "keys", .primitive .all, false, true⟩ [], .result {}]

theorem keyed_nullability_invisible :
    (∀ position ∈ keyed.head?, ¬ position.Inspects) ∧
      (Ty.named "ui.Key" ≠ .primitive .null ∧ Ty.named "ui.Key" ≠ .primitive .void) ∧
      render "ui" (plug keyed (.named "ui.Key")) =
        "() => (...keys: ((Key | number)[])[]) => void" ∧
      render "ui" (plug keyed (.union ([.primitive .null, .primitive .null] ++
        .named "ui.Key" :: [.primitive .void]))) =
        "() => (...keys: ((Key | number)[])[]) => void" := by
  have written : ∀ position ∈ keyed.head?, ¬ position.Inspects := by
    rintro _ ⟨⟩ ⟨⟩
  have present : Ty.named "ui.Key" ≠ .primitive .null ∧ Ty.named "ui.Key" ≠ .primitive .void := by
    simp
  have absent : ∀ s ∈ [Ty.primitive .null, .primitive .null] ++ [.primitive .void],
      s = .primitive .null ∨ s = .primitive .void := by
    simp
  have text : render "ui" (plug keyed (.named "ui.Key")) =
      "() => (...keys: ((Key | number)[])[]) => void" := by
    decide
  exact ⟨written, present, text,
    (nullability_invisible "ui" keyed written present absent).trans text⟩

end Ambient.Ty
