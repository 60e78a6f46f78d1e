import Ambient.Dump.Convert
import Ambient.Ty.Render
import Mathlib.Data.List.Forall2
import Mathlib.Data.List.Nodup

namespace Ambient

theorem toString_nat_injective {m n : Nat} (same : toString m = toString n) : m = n := by
  have digits := congrArg (fun s : String => Nat.ofDigitChars 10 s.toList 0) same
  simpa [Nat.toString_eq_ofList_toDigits] using digits

theorem positionalName_of_letter {index : Nat} {letter : Char}
    (found : parameterLetters[index]? = some letter) :
    positionalName index = String.singleton letter := by
  simp [positionalName, found]

theorem positionalName_of_none {index : Nat} (past : parameterLetters[index]? = none) :
    positionalName index = "p" ++ toString index := by
  simp [positionalName, past]

/-- A letter is shorter than the name of a position after the alphabet. -/
theorem singleton_ne_numbered (letter : Char) (index : Nat) :
    String.singleton letter ≠ "p" ++ toString index := by
  intro same
  have long : 0 < (toString index).length := by simpa using Nat.length_repr_pos
  have lengths := congrArg String.length same
  have lead : "p".length = 1 := rfl
  simp only [String.length_append, String.length_singleton] at lengths
  omega

theorem positionalName_injective : Function.Injective positionalName := by
  intro i j same
  cases first : parameterLetters[i]? with
  | some a =>
    rw [positionalName_of_letter first] at same
    cases second : parameterLetters[j]? with
    | some b =>
      rw [positionalName_of_letter second, String.singleton_inj] at same
      obtain ⟨low, at_i⟩ := List.getElem?_eq_some_iff.mp first
      obtain ⟨low', at_j⟩ := List.getElem?_eq_some_iff.mp second
      have letters : parameterLetters.Nodup := by decide
      exact letters.getElem_inj_iff.mp (at_i.trans (same.trans at_j.symm))
    | none =>
      rw [positionalName_of_none second] at same
      exact absurd same (singleton_ne_numbered a j)
  | none =>
    rw [positionalName_of_none first] at same
    cases second : parameterLetters[j]? with
    | some b =>
      rw [positionalName_of_letter second] at same
      exact absurd same.symm (singleton_ne_numbered b i)
    | none =>
      rw [positionalName_of_none second, String.append_right_inj] at same
      exact toString_nat_injective same

namespace Ty

def writtenName (index : Nat) (p : Param Ty) : String := p.name?.getD (positionalName index)

def writtenNames (params : List (Param Ty)) : List String := params.mapIdx writtenName

@[simp] theorem length_writtenNames (params : List (Param Ty)) :
    (writtenNames params).length = params.length :=
  List.length_mapIdx

/-- The text of a parameter with a name, which stands between the dots of a rest parameter and the
mark of an optional one. -/
inductive Introduces (name : String) : String → Prop
  | required (type : String) : Introduces name (name ++ ": " ++ type)
  | optional (type : String) : Introduces name (name ++ "?: " ++ type)
  | rest (type : String) : Introduces name ("..." ++ name ++ ": " ++ type)

theorem renderParam_introduces (ns : Name) (index : Nat) (p : Param Ty) :
    Introduces (writtenName index p) (renderParam ns index p) := by
  obtain ⟨name?, type, optional, variadic⟩ := p
  cases variadic with
  | true =>
    have rest := @Introduces.rest (name?.getD (positionalName index))
      ((if type.isAnyLike || type.isParenthesized then render ns type
        else "(" ++ render ns type ++ ")") ++ "[]")
    simpa [writtenName, renderParam, paramText, String.append_assoc] using rest
  | false =>
    cases optional with
    | true =>
      have marked := @Introduces.optional (name?.getD (positionalName index)) (render ns type)
      simpa [writtenName, renderParam, paramText, String.append_assoc] using marked
    | false =>
      have bare := @Introduces.required (name?.getD (positionalName index)) (render ns type)
      simpa [writtenName, renderParam, paramText, String.append_assoc] using bare

theorem renderParams_eq (ns : Name) (index : Nat) (params : List (Param Ty)) :
    renderParams ns index params = params.mapIdx fun i p => renderParam ns (index + i) p := by
  induction params generalizing index with
  | nil => rfl
  | cons p params ih =>
    simp only [renderParams, ih, List.mapIdx_cons, Nat.add_zero, Nat.add_assoc, Nat.add_comm 1]

theorem writtenNames_introduce (ns : Name) (params : List (Param Ty)) :
    (writtenNames params).Forall₂ Introduces (renderParams ns 0 params) := by
  rw [List.forall₂_iff_get]
  simp [renderParams_eq, writtenNames, renderParam_introduces]

def givenNames (params : List (Param Ty)) : List String := params.filterMap (·.name?)

/-- No position without a name has its name given to another parameter. -/
def Unclaimed (params : List (Param Ty)) : Prop :=
  ∀ index (_ : index < params.length), params[index].name? = none →
    positionalName index ∉ givenNames params

instance (params : List (Param Ty)) : Decidable (Unclaimed params) :=
  inferInstanceAs (Decidable (∀ index (_ : index < params.length), _))

section Names

variable {params : List (Param Ty)}

theorem mem_givenNames {index : Nat} (inside : index < params.length) {name : String}
    (named : params[index].name? = some name) : name ∈ givenNames params :=
  List.mem_filterMap.mpr ⟨_, List.getElem_mem inside, named⟩

theorem unclaimed_of_nodup (distinct : (writtenNames params).Nodup) : Unclaimed params := by
  intro i low unnamed claimed
  obtain ⟨q, member, named⟩ := List.mem_filterMap.mp claimed
  obtain ⟨j, low', at_j⟩ := List.getElem_of_mem member
  -- both places are written with one name, so they are one place, with and without a name
  have inside : i < (writtenNames params).length := by simpa using low
  have inside' : j < (writtenNames params).length := by simpa using low'
  have same : (writtenNames params)[i] = (writtenNames params)[j] := by
    simp [writtenNames, writtenName, unnamed, at_j, named]
  obtain rfl := (List.Nodup.getElem_inj_iff distinct).mp same
  rw [at_j, named] at unnamed
  contradiction

theorem nodup_of_unclaimed (given : (givenNames params).Nodup) (unclaimed : Unclaimed params) :
    (writtenNames params).Nodup := by
  rw [givenNames, List.Nodup, List.pairwise_filterMap, List.pairwise_iff_getElem] at given
  rw [List.Nodup, List.pairwise_iff_getElem]
  intro i j low low' less
  rw [length_writtenNames] at low low'
  simp only [writtenNames, List.getElem_mapIdx, writtenName]
  intro same
  cases first : params[i].name? with
  | some name =>
    have known := mem_givenNames low first
    cases second : params[j].name? with
    | some other =>
      have differ := given i j low low' less name first other second
      simp [first, second, differ] at same
    | none =>
      simp only [first, second, Option.getD_some, Option.getD_none] at same
      exact unclaimed j low' second (same ▸ known)
  | none =>
    have unknown := unclaimed i low first
    cases second : params[j].name? with
    | some other =>
      simp only [first, second, Option.getD_some, Option.getD_none] at same
      exact unknown (same ▸ mem_givenNames low' second)
    | none =>
      simp only [first, second, Option.getD_none] at same
      exact Nat.ne_of_lt less (positionalName_injective same)

/-- If the given names are distinct, so are the written ones exactly if no position without a name
has its name given to another parameter. -/
theorem written_names_nodup_iff (ns : Name) (given : (givenNames params).Nodup) :
    parameterList ns params = ", ".intercalate (renderParams ns 0 params) ∧
      (writtenNames params).Forall₂ Introduces (renderParams ns 0 params) ∧
      ((writtenNames params).Nodup ↔ Unclaimed params) :=
  ⟨rfl, writtenNames_introduce ns params, unclaimed_of_nodup, nodup_of_unclaimed given⟩

end Names

def wide : List (Param Ty) :=
  List.replicate 26 ⟨none, .primitive .number, false, false⟩ ++
    [⟨some "last", .primitive .string, true, false⟩, ⟨none, .named "ui.Key", false, true⟩]

theorem wide_names_nodup :
    (givenNames wide).Nodup ∧ Unclaimed wide ∧ (writtenNames wide).Nodup ∧
      (writtenNames wide).drop 25 = ["z", "last", "p27"] := by
  have given : (givenNames wide).Nodup := by decide
  have unclaimed : Unclaimed wide := by decide
  obtain ⟨-, -, distinct⟩ := written_names_nodup_iff "ui" given
  exact ⟨given, unclaimed, distinct.mpr unclaimed, by decide⟩

/-- A dump may name its first parameter after the second position, and then both have one name. -/
theorem second_name_repeated :
    ∃ f, (Dump.TypeSpec.function
          { params := [⟨some "b", .primitive .number, false, false⟩,
              ⟨none, .primitive .string, false, false⟩] }).toTy "ui.swap" = .ok (.function f) ∧
      (givenNames f.params).Nodup ∧ parameterList "ui" f.params = "b: number, b: string" ∧
      writtenNames f.params = ["b", "b"] ∧ ¬ (writtenNames f.params).Nodup := by
  refine ⟨_, rfl, ?_⟩
  decide

end Ty

end Ambient
