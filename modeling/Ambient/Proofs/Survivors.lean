import Ambient.Ty.Render

/-!
What a union is written as. Its absent alternates are left out; a union of one survivor degenerates
to the survivor, through any number of levels, and a union of several is written in parentheses of
its own. The tests that rendering makes on a type are told by what it degenerates to.
-/
namespace Ambient.Ty

theorem length_enclosed (text : String) : ("(" ++ text ++ ")").length = text.length + 2 := by
  have parenthesis : "(".length = 1 := rfl
  have closing : ")".length = 1 := rfl
  simp only [String.length_append]
  omega

theorem enclosed_ne_self (text : String) : "(" ++ text ++ ")" ≠ text := by
  intro same
  have lengths := length_enclosed text
  rw [same] at lengths
  omega

theorem isAbsence_iff (t : Ty) :
    t.isAbsence = true ↔ t = .primitive .null ∨ t = .primitive .void := by
  cases t with
  | primitive p => cases p <;> simp [isAbsence, Primitive.isAbsence]
  | _ => simp [isAbsence]

@[simp] theorem kept_append (ts us : List Ty) : kept (ts ++ us) = kept ts ++ kept us :=
  List.filter_append ..

theorem kept_cons (t : Ty) (ts : List Ty) :
    kept (t :: ts) = if t.isAbsence then kept ts else t :: kept ts := by
  cases absent : t.isAbsence <;> simp [kept, absent]

/-- A type and what is left of it when unions of one survivor give way to the survivor. -/
inductive Degenerates : Ty → Ty → Prop
  | refl (t : Ty) : Degenerates t t
  | union {ts : List Ty} {t core : Ty} (sole : kept ts = [t]) (rest : Degenerates t core) :
    Degenerates (.union ts) core

section Texts

variable (ns : Name)

theorem renderList_eq (ts : List Ty) : renderList ns ts = ts.map (render ns) := by
  induction ts with
  | nil => rfl
  | cons t ts ih => simp [renderList, ih]

theorem renderFields_eq (ps : Properties) : renderFields ns ps = ps.map (renderField ns) := by
  induction ps with
  | nil => rfl
  | cons p ps ih => simp [renderFields, ih]

theorem renderKept_eq (ts : List Ty) : renderKept ns ts = (kept ts).map (render ns) := by
  induction ts with
  | nil => rfl
  | cons t ts ih => cases absent : t.isAbsence <;> simp [renderKept, kept_cons, absent, ih]

theorem render_union (ts : List Ty) :
    render ns (.union ts) = unionText ((kept ts).map (render ns)) := by
  rw [render, renderKept_eq]

theorem render_of_sole {ts : List Ty} {t : Ty} (sole : kept ts = [t]) :
    render ns (.union ts) = render ns t := by
  simp [render_union, sole, unionText]

theorem unionText_of_several {texts : List String} (several : 1 < texts.length) :
    unionText texts = "(" ++ " | ".intercalate texts ++ ")" := by
  match texts with
  | [] => simp at several
  | [_] => simp at several
  | _ :: _ :: _ => rfl

theorem render_of_several {ts : List Ty} (several : 1 < (kept ts).length) :
    render ns (.union ts) = "(" ++ " | ".intercalate ((kept ts).map (render ns)) ++ ")" := by
  rw [render_union]
  exact unionText_of_several (by simpa using several)

theorem Degenerates.render_eq {t core : Ty} (d : Degenerates t core) :
    render ns t = render ns core := by
  induction d with
  | refl => rfl
  | union sole _ ih => rw [render_of_sole ns sole, ih]

end Texts

theorem isSoleArrow_iff (ts : List Ty) :
    isSoleArrow ts = true ↔ ∃ t, kept ts = [t] ∧ t.isArrow = true := by
  induction ts with
  | nil => simp [isSoleArrow, kept]
  | cons t ts ih =>
    cases absent : t.isAbsence with
    | true => simpa [isSoleArrow, kept_cons, absent] using ih
    | false =>
      simp only [isSoleArrow, kept_cons, absent]
      constructor
      · intro arrow
        exact ⟨t, by simp_all⟩
      · rintro ⟨_, sole, arrow⟩
        simp_all

theorem isArrow_of_sole {ts : List Ty} {t : Ty} (sole : kept ts = [t]) :
    (Ty.union ts).isArrow = t.isArrow := by
  rw [Bool.eq_iff_iff, isArrow, isSoleArrow_iff]
  simp [sole]

mutual

theorem exists_arrow (t : Ty) (arrow : t.isArrow = true) : ∃ f, Degenerates t (.function f) := by
  match t with
  | .function f => exact ⟨f, .refl _⟩
  | .union ts =>
    obtain ⟨s, f, sole, d⟩ := exists_sole_arrow ts arrow
    exact ⟨f, .union sole d⟩
  | .primitive _ | .named _ | .templateVar _ | .templatized .. | .record _ | .enumeration _
  | .enumElement _ | .classlike _ | .prototype _ => contradiction

theorem exists_sole_arrow (ts : List Ty) (arrow : isSoleArrow ts = true) :
    ∃ t f, kept ts = [t] ∧ Degenerates t (.function f) := by
  match ts with
  | [] => contradiction
  | t :: ts =>
    cases absent : t.isAbsence with
    | true =>
      obtain ⟨s, f, sole, d⟩ := exists_sole_arrow ts (by simpa [isSoleArrow, absent] using arrow)
      exact ⟨s, f, by simp [kept_cons, absent, sole], d⟩
    | false =>
      have alone : t.isArrow = true ∧ kept ts = [] := by simpa [isSoleArrow, absent] using arrow
      obtain ⟨f, d⟩ := exists_arrow t alone.1
      exact ⟨t, f, by simp [kept_cons, absent, alone.2], d⟩

end

theorem isArrow_iff (t : Ty) : t.isArrow = true ↔ ∃ f, Degenerates t (.function f) := by
  constructor
  · exact exists_arrow t
  · rintro ⟨f, d⟩
    generalize arrow : Ty.function f = core at d
    induction d with
    | refl => simp [← arrow, isArrow]
    | union sole _ ih => simp [isArrow_of_sole sole, ih arrow]

end Ambient.Ty
