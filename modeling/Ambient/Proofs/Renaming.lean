import Ambient.Proofs.Heritage
import Ambient.Proofs.References

/-!
Types with their names replaced. A namespace shows in the text of a type through names alone: a type
is written inside a namespace as the type with its names cut is written globally. The built-in forms
go by the full name of a generic type, so the two differ where a generic type is called like a
built-in one only once its name is cut.
-/
namespace Ambient.Ty

mutual

/-- A type with another name for each qualified name in it, at every depth. Type variables and the
names of parameters, properties and enum members are no qualified names. -/
def renamed (rename : Name → Name) : Ty → Ty
  | .primitive p => .primitive p
  | .named name => .named (rename name)
  | .union ts => .union (renamedAll rename ts)
  | .templateVar name => .templateVar name
  | .templatized base args => .templatized (rename base) (renamedAll rename args)
  | .record ps => .record (renamedTable rename ps)
  | .enumeration e => .enumeration (renamedEnum rename e)
  | .enumElement name => .enumElement (rename name)
  | .function f => .function (renamedFunction rename f)
  | .classlike c => .classlike (renamedClass rename c)
  | .prototype owner => .prototype (rename owner)

def renamedAll (rename : Name → Name) : List Ty → List Ty
  | [] => []
  | t :: ts => renamed rename t :: renamedAll rename ts

def renamedTable (rename : Name → Name) : List (String × Ty) → List (String × Ty)
  | [] => []
  | (key, t) :: ps => (key, renamed rename t) :: renamedTable rename ps

def renamedParams (rename : Name → Name) : List (Param Ty) → List (Param Ty)
  | [] => []
  | ⟨name?, t, optional, variadic⟩ :: ps =>
    ⟨name?, renamed rename t, optional, variadic⟩ :: renamedParams rename ps

def renamed? (rename : Name → Name) : Option Ty → Option Ty
  | none => none
  | some t => some (renamed rename t)

def renamedFunction (rename : Name → Name) : FunctionType Ty → FunctionType Ty
  | ⟨typeParams, params, returns?, receiver?⟩ =>
    ⟨typeParams, renamedParams rename params, renamed? rename returns?, renamed? rename receiver?⟩

def renamedClass (rename : Name → Name) : ClassType Ty → ClassType Ty
  | ⟨name, kind, typeParams, superclass?, interfaces, params, instanceType, methods, statics⟩ =>
    ⟨rename name, kind, typeParams, renamed? rename superclass?, renamedAll rename interfaces,
      renamedParams rename params, renamed rename instanceType, renamedTable rename methods,
      renamedTable rename statics⟩

def renamedEnum (rename : Name → Name) : EnumType Ty → EnumType Ty
  | ⟨name, element, members⟩ => ⟨rename name, renamed rename element, members⟩

end

mutual

/-- The bases of the generic types that a type is written with. The parts of a class, the element
type of an enum and the receiver of a function are not written. -/
def bases : Ty → List Name
  | .templatized base args => base :: listBases args
  | .union ts => listBases ts
  | .record ps => tableBases ps
  | .function f => functionBases f
  | .primitive _ | .named _ | .templateVar _ | .enumeration _ | .enumElement _ | .classlike _
  | .prototype _ => []

def listBases : List Ty → List Name
  | [] => []
  | t :: ts => bases t ++ listBases ts

def tableBases : List (String × Ty) → List Name
  | [] => []
  | (_, t) :: ps => bases t ++ tableBases ps

def paramBases : List (Param Ty) → List Name
  | [] => []
  | ⟨_, t, _, _⟩ :: ps => bases t ++ paramBases ps

def optionBases : Option Ty → List Name
  | none => []
  | some t => bases t

def functionBases : FunctionType Ty → List Name
  | ⟨_, params, returns?, _⟩ => paramBases params ++ optionBases returns?

end

def Distinct (ns base : Name) : Prop :=
  ns ≠ "" → base ≠ ns.child arrayBase ∧ base ≠ ns.child objectBase

/-- None of the bases is a generic type of the namespace that is called like a built-in one. -/
def NoLookalike (ns : Name) (bases : List Name) : Prop := ∀ base ∈ bases, Distinct ns base

section Forms

variable (rename : Name → Name)

theorem isAbsence_renamed (t : Ty) : (t.renamed rename).isAbsence = t.isAbsence := by
  cases t <;> rfl

theorem isAnyLike_renamed (t : Ty) : (t.renamed rename).isAnyLike = t.isAnyLike := by
  cases t <;> rfl

theorem indexKey_renamed (key : Ty) : indexKey (key.renamed rename) = indexKey key := by
  cases key <;> rfl

theorem kept_renamedAll (ts : List Ty) :
    kept (renamedAll rename ts) = renamedAll rename (kept ts) := by
  induction ts with
  | nil => rfl
  | cons t ts ih =>
    cases absent : t.isAbsence <;>
      simp [renamedAll, kept_cons, isAbsence_renamed, absent, ih]

theorem length_renamedAll (ts : List Ty) : (renamedAll rename ts).length = ts.length := by
  induction ts with
  | nil => rfl
  | cons t ts ih => rw [renamedAll, List.length_cons, ih, List.length_cons]

theorem isEmpty_renamedAll (ts : List Ty) : (renamedAll rename ts).isEmpty = ts.isEmpty := by
  cases ts <;> rfl

theorem isParenthesized_renamed (t : Ty) :
    (t.renamed rename).isParenthesized = t.isParenthesized := by
  cases t with
  | union ts => simp [renamed, isParenthesized, kept_renamedAll, length_renamedAll]
  | _ => rfl

mutual

theorem isArrow_renamed (t : Ty) : (t.renamed rename).isArrow = t.isArrow := by
  match t with
  | .union ts => rw [renamed, isArrow, isArrow, isSoleArrow_renamed ts]
  | .function _ => rfl
  | .primitive _ | .named _ | .templateVar _ | .templatized .. | .record _ | .enumeration _
  | .enumElement _ | .classlike _ | .prototype _ => rfl

theorem isSoleArrow_renamed (ts : List Ty) :
    isSoleArrow (renamedAll rename ts) = isSoleArrow ts := by
  match ts with
  | [] => rfl
  | t :: ts =>
    rw [renamedAll, isSoleArrow, isSoleArrow, isAbsence_renamed, isArrow_renamed t,
      isSoleArrow_renamed ts, kept_renamedAll, isEmpty_renamedAll]

end

theorem paramText_renamed (index : Nat) (name? : Option String) (t : Ty) (optional variadic : Bool)
    (text : String) :
    paramText index name? (t.renamed rename) optional variadic text =
      paramText index name? t optional variadic text := by
  unfold paramText
  rw [isAnyLike_renamed, isParenthesized_renamed]

end Forms

section Texts

variable {ns : Name}

/-- A built-in name is met by itself alone, unless the namespace has a name like it. -/
theorem relative_eq_plain_iff {name base : Name} (plain : '.' ∉ name.toList)
    (distinct : ns ≠ "" → base ≠ ns.child name) : base.relative ns = name ↔ base = name := by
  rw [Name.relative_eq_outside_iff (Name.not_liesUnder_of_plain plain ns)]
  exact or_iff_left fun ⟨nonglobal, lookalike⟩ => distinct nonglobal lookalike

theorem appliedText_relative (ns base : Name) (texts : List String) :
    appliedText "" (base.relative ns) texts = appliedText ns base texts := by
  cases texts <;> rfl

theorem templatizedText_relative {base : Name} (distinct : Distinct ns base) (args : List Ty)
    {texts : List String} (level : texts.length = args.length) :
    templatizedText "" (base.relative ns) (renamedAll (·.relative ns) args) texts =
      templatizedText ns base args texts := by
  have array := relative_eq_plain_iff (by decide : '.' ∉ arrayBase.toList) fun nonglobal =>
    (distinct nonglobal).1
  have object := relative_eq_plain_iff (by decide : '.' ∉ objectBase.toList) fun nonglobal =>
    (distinct nonglobal).2
  match args, texts with
  | [], [] => exact appliedText_relative ns base []
  | [element], [text] =>
    simp only [renamedAll, templatizedText, array, isArrow_renamed,
      appliedText_relative]
  | [key, value], [keyText, valueText] =>
    simp only [renamedAll, templatizedText, object, indexKey_renamed,
      appliedText_relative]
  | _ :: _ :: _ :: _, a :: b :: c :: texts =>
    exact appliedText_relative ns base (a :: b :: c :: texts)

theorem NoLookalike.append {bases more : List Name} (clear : NoLookalike ns (bases ++ more)) :
    NoLookalike ns bases ∧ NoLookalike ns more := List.forall_mem_append.mp clear

mutual

theorem render_relative (t : Ty) (clear : NoLookalike ns t.bases) :
    render "" (t.renamed (·.relative ns)) = render ns t := by
  match t with
  | .primitive _ | .named _ | .templateVar _ | .enumElement _ | .prototype _ => rfl
  | .enumeration ⟨_, _, _⟩ => rfl
  | .classlike ⟨_, kind, _, _, _, _, _, _, _⟩ => cases kind <;> rfl
  | .union ts => rw [renamed, render, render, renderKept_relative ts clear]
  | .templatized base args =>
    obtain ⟨distinct, rest⟩ := List.forall_mem_cons.mp clear
    have level : (renderList ns args).length = args.length := by simp [renderList_eq]
    rw [renamed, render, render, renderList_relative args rest,
      templatizedText_relative distinct args level]
  | .record ps => rw [renamed, render, render, renderFields_relative ps clear]
  | .function f => exact renderArrow_relative f clear

theorem renderList_relative (ts : List Ty) (clear : NoLookalike ns (listBases ts)) :
    renderList "" (renamedAll (·.relative ns) ts) = renderList ns ts := by
  match ts with
  | [] => rfl
  | t :: ts =>
    obtain ⟨first, rest⟩ := clear.append
    rw [renamedAll, renderList, renderList, render_relative t first, renderList_relative ts rest]

theorem renderKept_relative (ts : List Ty) (clear : NoLookalike ns (listBases ts)) :
    renderKept "" (renamedAll (·.relative ns) ts) = renderKept ns ts := by
  match ts with
  | [] => rfl
  | t :: ts =>
    obtain ⟨first, rest⟩ := clear.append
    rw [renamedAll, renderKept, renderKept, isAbsence_renamed, render_relative t first,
      renderKept_relative ts rest]

theorem renderFields_relative (ps : List (String × Ty)) (clear : NoLookalike ns (tableBases ps)) :
    renderFields "" (renamedTable (·.relative ns) ps) = renderFields ns ps := by
  match ps with
  | [] => rfl
  | (key, t) :: ps =>
    obtain ⟨first, rest⟩ := clear.append
    rw [renamedTable, renderFields, renderFields, renderField, renderField,
      render_relative t first, renderFields_relative ps rest]

theorem renderParams_relative (index : Nat) (ps : List (Param Ty))
    (clear : NoLookalike ns (paramBases ps)) :
    renderParams "" index (renamedParams (·.relative ns) ps) = renderParams ns index ps := by
  match ps with
  | [] => rfl
  | ⟨name?, t, optional, variadic⟩ :: ps =>
    obtain ⟨first, rest⟩ := clear.append
    rw [renamedParams, renderParams, renderParams, renderParam, renderParam, paramText_renamed,
      render_relative t first, renderParams_relative (index + 1) ps rest]

theorem renderReturn_relative (t? : Option Ty) (clear : NoLookalike ns (optionBases t?)) :
    renderReturn "" (renamed? (·.relative ns) t?) = renderReturn ns t? := by
  match t? with
  | none => rfl
  | some t => rw [renamed?, renderReturn, renderReturn, render_relative t clear]

theorem renderArrow_relative (f : FunctionType Ty) (clear : NoLookalike ns (functionBases f)) :
    renderArrow "" (renamedFunction (·.relative ns) f) = renderArrow ns f := by
  match f with
  | ⟨typeParams, params, returns?, receiver?⟩ =>
    obtain ⟨inputs, output⟩ := clear.append
    rw [renamedFunction, renderArrow, renderArrow, renderParams_relative 0 params inputs,
      renderReturn_relative returns? output]

end

theorem renderSignature_relative (f : FunctionType Ty) (clear : NoLookalike ns (functionBases f)) :
    renderSignature "" (renamedFunction (·.relative ns) f) = renderSignature ns f := by
  match f with
  | ⟨typeParams, params, returns?, receiver?⟩ =>
    obtain ⟨inputs, output⟩ := clear.append
    simp only [renamedFunction, renderSignature, parameterList,
      renderParams_relative 0 params inputs, renderReturn_relative returns? output]

theorem renderHeritage_relative (t : Ty) (clear : NoLookalike ns t.bases) :
    renderHeritage "" (t.renamed (·.relative ns)) = renderHeritage ns t := by
  match t with
  | .classlike ⟨_, _, _, _, _, _, _, _, _⟩ => rfl
  | .primitive _ | .named _ | .templateVar _ | .enumElement _ | .prototype _ | .enumeration _
  | .union _ | .templatized .. | .record _ | .function _ => exact render_relative _ clear

end Texts

/-- A type is written inside a namespace as the type with its names cut is written globally, if no
generic type in it is one of the namespace that is called like a built-in one. This holds of
signatures, parameter lists and entries of heritage clauses, too. -/
theorem rendering_renames (ns : Name) :
    (∀ t : Ty, NoLookalike ns t.bases →
      render ns t = render "" (t.renamed (·.relative ns))) ∧
    (∀ f : FunctionType Ty, NoLookalike ns (functionBases f) →
      renderArrow ns f = renderArrow "" (renamedFunction (·.relative ns) f) ∧
        renderSignature ns f = renderSignature "" (renamedFunction (·.relative ns) f)) ∧
    (∀ ps : List (Param Ty), NoLookalike ns (paramBases ps) →
      parameterList ns ps = parameterList "" (renamedParams (·.relative ns) ps)) ∧
    ∀ t : Ty, NoLookalike ns t.bases →
      renderHeritage ns t = renderHeritage "" (t.renamed (·.relative ns)) := by
  refine ⟨fun t clear => ?_, fun f clear => ⟨?_, ?_⟩, fun ps clear => ?_, fun t clear => ?_⟩
  · exact (render_relative t clear).symm
  · exact (renderArrow_relative f clear).symm
  · exact (renderSignature_relative f clear).symm
  · exact congrArg (", ".intercalate ·) (renderParams_relative 0 ps clear).symm
  · exact (renderHeritage_relative t clear).symm

def lookup : FunctionType Ty where
  typeParams := ["ui.T"]
  params := [
    ⟨some "ui.at", .templatized "Object" [.named "ui.Key", .named "uix.Key"], false, false⟩]
  returns? := some (.templatized "Array" [.templatized "ui.Map" [.templateVar "ui.T"]])

theorem lookup_rendering_renames :
    NoLookalike "ui" (functionBases lookup) ∧
      renderSignature "ui" lookup =
        renderSignature "" (renamedFunction (Name.relative · "ui") lookup) ∧
      renderSignature "ui" lookup =
        "<ui.T>(ui.at: \x7b [/* warning: coerced from Key */ key: string]: uix.Key \x7d): " ++
          "Map<ui.T>[]" := by
  have clear : NoLookalike "ui" (functionBases lookup) := by
    unfold NoLookalike Distinct
    decide
  obtain ⟨-, functions, -, -⟩ := rendering_renames "ui"
  exact ⟨clear, (functions lookup clear).2, by decide +kernel⟩

theorem BuiltIn.plain {name : Name} {args : List Ty} (builtIn : BuiltIn name args) :
    '.' ∉ name.toList := by
  cases builtIn <;> decide

/-- The built-in forms end with a bracket or a brace of their own. -/
theorem getLast?_builtIn (ns : Name) {name : Name} {args : List Ty} (builtIn : BuiltIn name args) :
    (render ns (.templatized name args)).toList.getLast? ≠ some '>' := by
  cases builtIn with
  | array element =>
    rw [show ("Array" : Name) = arrayBase from rfl, render_array, getLast?_append _ (by decide)]
    decide
  | index key value =>
    have form : render ns (.templatized "Object" [key, value]) =
        "\x7b " ++ indexKey key (render ns key) ++ ": " ++ render ns value ++ " \x7d" := rfl
    rw [form, getLast?_append _ (by decide)]
    decide

/-- A generic type of the namespace that is called like a built-in one is written in full there,
while the one with its names cut is written in the built-in form. -/
theorem lookalike_told_apart {ns name : Name} (nonglobal : ns ≠ "") {args : List Ty}
    (builtIn : BuiltIn name args) :
    render ns (.templatized (ns.child name) args) ≠
      render "" ((Ty.templatized (ns.child name) args).renamed (·.relative ns)) := by
  have plain : ¬ BuiltIn (ns.child name) args := by
    intro builtIn'
    exact Name.not_liesUnder_of_plain builtIn'.plain ns ⟨name, rfl⟩
  have filled : args ≠ [] := by
    rintro rfl
    exact not_builtIn_nil name builtIn
  have written : BuiltIn name (renamedAll (·.relative ns) args) := by
    cases builtIn with
    | array element => exact .array _
    | index key value => exact .index _ _
  intro same
  have last := getLast?_referenceText ns (ns.child name) filled
  rw [← render_templatized plain, same, renamed, Name.relative_child nonglobal] at last
  exact getLast?_builtIn "" written last

end Ambient.Ty
