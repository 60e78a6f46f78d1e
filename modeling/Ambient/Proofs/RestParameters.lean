import Ambient.Dump.Convert
import Ambient.Proofs.Survivors

/-!
The element types of rest parameters. An element is to be a bare any or to stand in one pair of
parentheses, its own if it is written as a union of several. The two tests for that look at the
element itself and not at what it degenerates to, so they hold back no parentheses where a union of
one survivor is around such an element.
-/
namespace Ambient.Ty

/-- Whether a type is written as a union of several, which unions of one survivor may be around. -/
def WrittenAsUnion (t : Ty) : Prop := ∃ ts, Degenerates t (.union ts) ∧ 1 < (kept ts).length

inductive RestElement (ns : Name) (t : Ty) : String → Prop
  | any (bare : render ns t = "any") : RestElement ns t "any"
  | union (own : t.WrittenAsUnion) : RestElement ns t (render ns t)
  | enclosed (filled : render ns t ≠ "any") (other : ¬ t.WrittenAsUnion) :
    RestElement ns t ("(" ++ render ns t ++ ")")

section Elements

variable {ns : Name} {t : Ty}

theorem isParenthesized_iff (t : Ty) :
    t.isParenthesized = true ↔ ∃ ts, t = .union ts ∧ 1 < (kept ts).length := by
  cases t with
  | union ts => simp [isParenthesized]
  | _ => simp [isParenthesized]

theorem writtenAsUnion_of_isParenthesized (own : t.isParenthesized = true) :
    t.WrittenAsUnion := by
  obtain ⟨ts, rfl, several⟩ := t.isParenthesized_iff.mp own
  exact ⟨ts, .refl _, several⟩

theorem WrittenAsUnion.render_eq (written : t.WrittenAsUnion) (ns : Name) :
    ∃ texts, 1 < texts.length ∧ render ns t = "(" ++ " | ".intercalate texts ++ ")" := by
  obtain ⟨ts, d, several⟩ := written
  refine ⟨(kept ts).map (render ns), by simpa using several, ?_⟩
  rw [d.render_eq ns, render_of_several ns several]

theorem writtenAsUnion_of_sole {ts : List Ty} (sole : kept ts = [t]) :
    (Ty.union ts).WrittenAsUnion ↔ t.WrittenAsUnion := by
  constructor
  · rintro ⟨us, d, several⟩
    cases d with
    | refl => simp [sole] at several
    | union sole' rest =>
      rw [sole, List.singleton_inj] at sole'
      exact ⟨us, sole' ▸ rest, several⟩
  · rintro ⟨us, d, several⟩
    exact ⟨us, .union sole d, several⟩

theorem render_of_isAnyLike (bare : t.isAnyLike = true) : render ns t = "any" := by
  cases t with
  | primitive p => cases p <;> simp_all [isAnyLike, Primitive.isAnyLike, render, Primitive.keyword]
  | _ => contradiction

def restText (ns : Name) (t : Ty) : String :=
  if t.isAnyLike || t.isParenthesized then render ns t else "(" ++ render ns t ++ ")"

theorem render_rest (ns : Name) (index : Nat) (name? : Option String) (t : Ty) (optional : Bool) :
    renderParam ns index ⟨name?, t, optional, true⟩ =
      "..." ++ name?.getD (positionalName index) ++ ": " ++ restText ns t ++ "[]" := rfl

theorem WrittenAsUnion.render_ne_any (written : t.WrittenAsUnion) : render ns t ≠ "any" := by
  obtain ⟨texts, -, shown⟩ := written.render_eq ns
  intro bare
  have start := congrArg (fun s : String => s.toList.head?) (shown.symm.trans bare)
  simp at start

theorem restElement_restText_iff (ns : Name) (t : Ty) :
    RestElement ns t (restText ns t) ↔
      (render ns t = "any" → t.isAnyLike = true) ∧
        (t.WrittenAsUnion → t.isParenthesized = true) := by
  cases bare : t.isAnyLike with
  | true =>
    have shown : render ns t = "any" := render_of_isAnyLike bare
    have other : ¬ t.WrittenAsUnion := fun written => written.render_ne_any shown
    simpa [restText, bare, shown, other] using RestElement.any shown
  | false =>
    cases own : t.isParenthesized with
    | true =>
      have written := writtenAsUnion_of_isParenthesized own
      have filled : render ns t ≠ "any" := written.render_ne_any
      have element : RestElement ns t (render ns t) := .union written
      simpa [restText, own, filled] using element
    | false =>
      simp only [restText, bare, own]
      constructor
      · intro element
        generalize shown : "(" ++ render ns t ++ ")" = text at element
        cases element with
        | any bare =>
          rw [bare] at shown
          exact absurd shown (by decide)
        | union => exact absurd shown (enclosed_ne_self _)
        | enclosed filled other =>
          exact ⟨fun bare => absurd bare filled, fun written => absurd written other⟩
      · rintro ⟨filled, other⟩
        exact .enclosed (fun bare => Bool.false_ne_true (filled bare))
          (fun written => Bool.false_ne_true (other written))

theorem exists_restElement_iff (ns : Name) (index : Nat) (name? : Option String) (t : Ty)
    (optional : Bool) :
    (∃ text, RestElement ns t text ∧ renderParam ns index ⟨name?, t, optional, true⟩ =
      "..." ++ name?.getD (positionalName index) ++ ": " ++ text ++ "[]") ↔
      (render ns t = "any" → t.isAnyLike = true) ∧
        (t.WrittenAsUnion → t.isParenthesized = true) := by
  rw [← restElement_restText_iff, render_rest]
  constructor
  · rintro ⟨text, element, same⟩
    rw [String.append_left_inj, String.append_right_inj] at same
    exact same ▸ element
  · intro element
    exact ⟨_, element, rfl⟩

/-- The test for own parentheses misses the unions that are around a union of several. -/
theorem not_isParenthesized_iff (t : Ty) :
    t.isParenthesized = false ∧ t.WrittenAsUnion ↔
      ∃ ts s, t = .union ts ∧ kept ts = [s] ∧ s.WrittenAsUnion := by
  constructor
  · rintro ⟨missed, us, d, several⟩
    cases d with
    | refl =>
      have own := (isParenthesized_iff (.union us)).mpr ⟨us, rfl, several⟩
      exact absurd own (by simp [missed])
    | union sole rest => exact ⟨_, _, rfl, sole, us, rest, several⟩
  · rintro ⟨ts, s, rfl, sole, written⟩
    exact ⟨by simp [isParenthesized, sole], (writtenAsUnion_of_sole sole).mpr written⟩

theorem restText_of_sole (ns : Name) {ts : List Ty} {t core : Ty} (sole : kept ts = [t])
    (d : Degenerates t core) : restText ns (.union ts) = "(" ++ render ns core ++ ")" := by
  have shown : render ns (.union ts) = render ns core := (Degenerates.union sole d).render_eq ns
  simp [restText, isAnyLike, isParenthesized, sole, shown]

theorem render_rest_sole_iff (ns : Name) (index : Nat) (name? : Option String) (optional : Bool)
    {ts : List Ty} {t core : Ty} (sole : kept ts = [t]) (d : Degenerates t core) :
    renderParam ns index ⟨name?, .union ts, optional, true⟩ =
        renderParam ns index ⟨name?, core, optional, true⟩ ↔
      core.isAnyLike = false ∧ core.isParenthesized = false := by
  rw [render_rest, render_rest, String.append_left_inj, String.append_right_inj,
    restText_of_sole ns sole d, ← Bool.or_eq_false_iff, restText]
  cases own : core.isAnyLike || core.isParenthesized with
  | true => simpa using enclosed_ne_self (render ns core)
  | false => simp

end Elements

/-- The element of a rest parameter is written as it is to be exactly if the test for a marker finds
it when it is written as any, and the test for own parentheses when it is written in them. That test
finds nothing but unions of several and misses those that are under unions of one survivor. So a
type and a union that it alone is left of are written alike exactly if no test finds the type. -/
theorem rest_parentheses (ns : Name) :
    (∀ index name? t optional,
      (∃ text, RestElement ns t text ∧ renderParam ns index ⟨name?, t, optional, true⟩ =
        "..." ++ name?.getD (positionalName index) ++ ": " ++ text ++ "[]") ↔
        (render ns t = "any" → t.isAnyLike = true) ∧
          (t.WrittenAsUnion → t.isParenthesized = true)) ∧
    (∀ t, t.WrittenAsUnion →
      ∃ texts, 1 < texts.length ∧ render ns t = "(" ++ " | ".intercalate texts ++ ")") ∧
    (∀ t : Ty, t.isParenthesized = true → t.WrittenAsUnion) ∧
    (∀ t : Ty, t.isParenthesized = false ∧ t.WrittenAsUnion ↔
      ∃ ts s, t = .union ts ∧ kept ts = [s] ∧ s.WrittenAsUnion) ∧
    ∀ index name? optional ts t core, kept ts = [t] → Degenerates t core →
      (renderParam ns index ⟨name?, .union ts, optional, true⟩ =
          renderParam ns index ⟨name?, core, optional, true⟩ ↔
        core.isAnyLike = false ∧ core.isParenthesized = false) := by
  refine ⟨exists_restElement_iff ns, ?_, ?_, not_isParenthesized_iff, ?_⟩
  · exact fun t written => written.render_eq ns
  · exact fun t own => writtenAsUnion_of_isParenthesized own
  · exact fun index name? optional ts t core sole d =>
      render_rest_sole_iff ns index name? optional sole d

def perhapsKey : List Ty :=
  [.primitive .null, .union [.named "ui.Key", .primitive .void], .primitive .null]

theorem key_rest_parentheses :
    ∃ t, kept perhapsKey = [t] ∧ Degenerates t (.named "ui.Key") ∧
      renderParam "ui" 1 ⟨none, .union perhapsKey, false, true⟩ = "...b: (Key)[]" ∧
      renderParam "ui" 1 ⟨none, .named "ui.Key", false, true⟩ = "...b: (Key)[]" := by
  have sole : kept perhapsKey = [.union [.named "ui.Key", .primitive .void]] := rfl
  have d : Degenerates (.union [.named "ui.Key", .primitive .void]) (.named "ui.Key") :=
    .union rfl (.refl _)
  obtain ⟨-, -, -, -, alike⟩ := rest_parentheses "ui"
  have bare : renderParam "ui" 1 ⟨none, .named "ui.Key", false, true⟩ = "...b: (Key)[]" := by decide
  exact ⟨_, sole, d, ((alike 1 none false _ _ _ sole d).mpr ⟨rfl, rfl⟩).trans bare, bare⟩

def parts : Ty := .union [.union [.primitive .string, .primitive .number], .primitive .null]

/-- A dump may give a rest parameter such a type. It is written in parentheses, and these once more
in parentheses. -/
theorem inner_union_doubled :
    (Dump.TypeSpec.union [.union [.primitive .string, .primitive .number],
        .primitive .null]).toTy "ui.log" = .ok parts ∧
      render "ui" parts = "(string | number)" ∧ parts.WrittenAsUnion ∧
      parts.isParenthesized = false ∧
      renderParam "ui" 0 ⟨some "parts", parts, false, true⟩ = "...parts: ((string | number))[]" ∧
      ¬ ∃ text, RestElement "ui" parts text ∧
        renderParam "ui" 0 ⟨some "parts", parts, false, true⟩ =
          "..." ++ "parts" ++ ": " ++ text ++ "[]" := by
  have written : parts.WrittenAsUnion := ⟨_, .union rfl (.refl _), by decide⟩
  have missed : parts.isParenthesized = false := rfl
  refine ⟨rfl, by decide, written, missed, by decide, ?_⟩
  intro proper
  have found := (exists_restElement_iff "ui" 0 (some "parts") parts false).mp proper
  exact absurd (found.2 written) (by simp [missed])

end Ambient.Ty
