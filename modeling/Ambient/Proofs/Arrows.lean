import Ambient.Dump.Convert
import Ambient.Proofs.Survivors
import Mathlib.Data.List.Forall2

/-!
Arrows beside brackets and bars. What follows an arrow goes to its return type, so an arrow that is
followed by brackets or stands in a union needs parentheses of its own. The element of an array and
of a rest parameter has them, however many unions of one survivor are around the arrow. An alternate
has not: a union of several survivors is as it should be exactly if none of them is an arrow.
-/
namespace Ambient

namespace Ty

/-- The text of a type beside brackets or a bar: an arrow in parentheses of its own, any other type
as it is. -/
inductive Operand (ns : Name) : Ty → String → Prop
  | arrow {t : Ty} {f : FunctionType Ty} (d : Degenerates t (.function f)) :
    Operand ns t ("(" ++ renderArrow ns f ++ ")")
  | plain {t : Ty} (other : ∀ f, ¬ Degenerates t (.function f)) : Operand ns t (render ns t)

section Operands

variable {ns : Name} {t : Ty} {text : String} {ts : List Ty} {texts : List String}

theorem operand_text (ns : Name) (t : Ty) :
    Operand ns t (if t.isArrow then "(" ++ render ns t ++ ")" else render ns t) := by
  cases arrow : t.isArrow with
  | true =>
    obtain ⟨f, d⟩ := t.isArrow_iff.mp arrow
    simpa [d.render_eq, render] using @Operand.arrow ns t f d
  | false =>
    refine .plain fun f d => ?_
    simp [t.isArrow_iff.mpr ⟨f, d⟩] at arrow

theorem Operand.length_le (operand : Operand ns t text) : (render ns t).length ≤ text.length := by
  cases operand with
  | arrow d =>
    rw [length_enclosed, d.render_eq, render]
    omega
  | plain => exact Nat.le_refl _

theorem Operand.length_lt (operand : Operand ns t text) {f : FunctionType Ty}
    (arrow : Degenerates t (.function f)) : (render ns t).length < text.length := by
  cases operand with
  | arrow d =>
    rw [length_enclosed, d.render_eq, render]
    omega
  | plain other => exact absurd arrow (other f)

theorem operands_length_le (separator : String) (operands : ts.Forall₂ (Operand ns) texts) :
    (separator.intercalate (ts.map (render ns))).length ≤
      (separator.intercalate texts).length := by
  induction operands with
  | nil => exact Nat.le_refl _
  | cons first others ih =>
    have head := first.length_le
    cases others with
    | nil => simpa using head
    | cons =>
      simp only [List.map_cons, String.intercalate_cons_cons, String.length_append] at ih ⊢
      omega

/-- Operands take more room than their types as soon as one of them is an arrow. -/
theorem not_arrow_of_length_le (separator : String) (operands : ts.Forall₂ (Operand ns) texts)
    (room : (separator.intercalate texts).length ≤
      (separator.intercalate (ts.map (render ns))).length) :
    ∀ t ∈ ts, ∀ f, ¬ Degenerates t (.function f) := by
  induction operands with
  | nil => simp
  | cons first others ih =>
    have head := first.length_le
    have tail := operands_length_le separator others
    rw [List.forall_mem_cons]
    cases others with
    | nil =>
      simp only [List.map_cons, List.map_nil, String.intercalate_singleton] at room
      refine ⟨fun f arrow => ?_, by simp⟩
      have longer := first.length_lt arrow
      omega
    | cons =>
      simp only [List.map_cons, String.intercalate_cons_cons, String.length_append]
        at room tail ih
      refine ⟨fun f arrow => ?_, ih (by omega)⟩
      have longer := first.length_lt arrow
      omega

theorem operands_of_plain (plain : ∀ t ∈ ts, ∀ f, ¬ Degenerates t (.function f)) :
    ts.Forall₂ (Operand ns) (ts.map (render ns)) := by
  induction ts with
  | nil => exact .nil
  | cons t ts ih =>
    obtain ⟨first, others⟩ := List.forall_mem_cons.mp plain
    exact .cons (.plain first) (ih others)

theorem union_operands_iff (ns : Name) (several : 1 < (kept ts).length) :
    (∃ texts, (kept ts).Forall₂ (Operand ns) texts ∧
      render ns (.union ts) = "(" ++ " | ".intercalate texts ++ ")") ↔
      ∀ t ∈ kept ts, ∀ f, ¬ Degenerates t (.function f) := by
  constructor
  · rintro ⟨texts, operands, written⟩
    have room := congrArg String.length written
    rw [render_of_several ns several, length_enclosed, length_enclosed] at room
    apply not_arrow_of_length_le " | " operands
    omega
  · intro plain
    exact ⟨_, operands_of_plain plain, render_of_several ns several⟩

end Operands

theorem not_isAnyLike_of_arrow {t : Ty} {f : FunctionType Ty} (d : Degenerates t (.function f)) :
    t.isAnyLike = false := by
  cases d <;> rfl

theorem not_isParenthesized_of_arrow {t : Ty} {f : FunctionType Ty}
    (d : Degenerates t (.function f)) : t.isParenthesized = false := by
  cases d with
  | refl => rfl
  | union sole => simp [isParenthesized, sole]

theorem render_rest_arrow (ns : Name) (index : Nat) (name? : Option String) (optional : Bool)
    {t : Ty} {f : FunctionType Ty} (d : Degenerates t (.function f)) :
    renderParam ns index ⟨name?, t, optional, true⟩ =
      "..." ++ name?.getD (positionalName index) ++ ": " ++ ("(" ++ renderArrow ns f ++ ")") ++
        "[]" := by
  simp [renderParam, paramText, not_isAnyLike_of_arrow d, not_isParenthesized_of_arrow d,
    d.render_eq, render]

theorem render_array (ns : Name) (t : Ty) :
    render ns (.templatized arrayBase [t]) =
      (if t.isArrow then "(" ++ render ns t ++ ")" else render ns t) ++ "[]" := by
  have closing : ")" ++ "[]" = ")[]" := rfl
  cases arrow : t.isArrow
  · simp [render, renderList_eq, templatizedText, arrow]
  · simp [render, renderList_eq, templatizedText, arrow, String.append_assoc, closing]

/-- An arrow is in parentheses of its own where it is the element of an array or of a rest
parameter. A union of several survivors has none around an arrow, so it is written of operands
exactly if no survivor is one. -/
theorem arrows_enclosed (ns : Name) :
    (∀ t, ∃ text, Operand ns t text ∧ render ns (.templatized arrayBase [t]) = text ++ "[]") ∧
    (∀ index name? t optional f, Degenerates t (.function f) →
      renderParam ns index ⟨name?, t, optional, true⟩ =
        "..." ++ name?.getD (positionalName index) ++ ": " ++ ("(" ++ renderArrow ns f ++ ")") ++
          "[]") ∧
    ∀ ts, 1 < (kept ts).length →
      ((∃ texts, (kept ts).Forall₂ (Operand ns) texts ∧
        render ns (.union ts) = "(" ++ " | ".intercalate texts ++ ")") ↔
        ∀ t ∈ kept ts, ∀ f, ¬ Degenerates t (.function f)) := by
  refine ⟨fun t => ?_, fun index name? t optional f d => ?_, fun ts several => ?_⟩
  · exact ⟨_, operand_text ns t, render_array ns t⟩
  · exact render_rest_arrow ns index name? optional d
  · exact union_operands_iff ns several

def callback : Ty := .union [.primitive .void, .union [.function {}, .primitive .null]]

def place : List Ty := [.named "ui.Key", .primitive .null, .primitive .number]

theorem callback_arrows_enclosed :
    Degenerates callback (.function {}) ∧
      renderParam "ui" 0 ⟨some "then", callback, false, true⟩ = "...then: (() => void)[]" ∧
      1 < (kept place).length ∧ (∀ t ∈ kept place, ∀ f, ¬ Degenerates t (.function f)) ∧
      ∃ texts, (kept place).Forall₂ (Operand "ui") texts ∧
        render "ui" (.union place) = "(" ++ " | ".intercalate texts ++ ")" := by
  have d : Degenerates callback (.function {}) := .union rfl (.union rfl (.refl _))
  have plain : ∀ t ∈ kept place, ∀ f, ¬ Degenerates t (.function f) := by
    have other : ∀ t ∈ kept place, t.isArrow = false := by decide
    intro t member f arrow
    have found := t.isArrow_iff.mpr ⟨f, arrow⟩
    simp [other t member] at found
  obtain ⟨-, rest, union⟩ := arrows_enclosed "ui"
  exact ⟨d, rest 0 (some "then") callback false {} d, by decide, plain,
    (union place (by decide)).mpr plain⟩

theorem alternate_arrow_bare :
    ∃ ts, (Dump.TypeSpec.union [.function {}, .primitive .string]).toTy "ui.pick" =
        .ok (.union ts) ∧
      kept ts = [.function {}, .primitive .string] ∧
      render "ui" (.union ts) = "(() => void | string)" ∧
      ¬ ∃ texts, (kept ts).Forall₂ (Operand "ui") texts ∧
        render "ui" (.union ts) = "(" ++ " | ".intercalate texts ++ ")" := by
  refine ⟨[.function {}, .primitive .string], rfl, rfl, by decide, ?_⟩
  rw [union_operands_iff "ui" (by decide)]
  intro plain
  exact plain (.function {}) (by simp [kept, isAbsence]) {} (.refl _)

end Ty

end Ambient
