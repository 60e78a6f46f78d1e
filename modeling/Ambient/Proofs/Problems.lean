import Ambient.Dump.Convert
import Ambient.Proofs.Tables

namespace Ambient.Dump

def firstRepeat? (earlier : List String) : List String → Option String
  | [] => none
  | n :: ns => if n ∈ earlier then some n else firstRepeat? (n :: earlier) ns

def repeatProblem (problem : String → ModelError) (earlier : List String) (name : String) :
    List ModelError :=
  if name ∈ earlier then [problem name] else []

namespace TypeSpec

mutual

def problems (owner : Name) : TypeSpec → List ModelError
  | .primitive _ | .named _ | .templateVar _ | .enumElement _ | .prototype _ => []
  | .union alternates => problemsOfAll owner alternates
  | .templatized _ args => problemsOfAll owner args
  | .record properties => tableProblems owner [] properties
  | .enumeration name element members =>
    problems owner element ++
      ((firstRepeat? [] (members.map (·.name))).map (.duplicateProperty name)).toList
  | .function f => functionProblems owner f

def problemsOfAll (owner : Name) : List TypeSpec → List ModelError
  | [] => []
  | t :: ts => problems owner t ++ problemsOfAll owner ts

/-- The problems of a table: each property has those of its type and, after them, that of its
name. -/
def tableProblems (owner : Name) (earlier : List String) :
    List (String × TypeSpec) → List ModelError
  | [] => []
  | (name, t) :: ps =>
    problems owner t ++ repeatProblem (.duplicateProperty owner) earlier name ++
      tableProblems owner (name :: earlier) ps

def paramProblems (owner : Name) : List (Param TypeSpec) → List ModelError
  | [] => []
  | ⟨_, t, _, _⟩ :: ps => problems owner t ++ paramProblems owner ps

def problems? (owner : Name) : Option TypeSpec → List ModelError
  | none => []
  | some t => problems owner t

/-- The problems of a function. One of two flavours has no other, and a part that its flavour does
not use has none. The tables of a class come under the name of the class. -/
def functionProblems (owner : Name) : FunctionSpec TypeSpec → List ModelError
  | ⟨name?, isConstructor, isInterface, _, params, returns?, this?, superclass?, implements,
      prototypeTable, staticTable⟩ =>
    if isConstructor ∧ isInterface then [.ambiguousFunctionKind owner]
    else if isConstructor ∨ isInterface then
      problems? owner superclass? ++ problemsOfAll owner implements ++
        (if isConstructor then paramProblems owner params else []) ++ problems? owner this? ++
        tableProblems (name?.getD owner) [] prototypeTable ++
        tableProblems (name?.getD owner) [] staticTable
    else paramProblems owner params ++ problems? owner returns? ++ problems? owner this?

end

end TypeSpec

/-- The result of a computation that has these problems: it fails with the first of them. -/
def Reports {α : Type} (result : Except ModelError α) (problems : List ModelError) : Prop :=
  match result with
  | .ok _ => problems = []
  | .error error => problems.head? = some error

namespace Reports

variable {α β : Type} {result : Except ModelError α} {problems more : List ModelError}

theorem ok (a : α) : Reports (.ok a) [] := rfl

theorem error (e : ModelError) (more : List ModelError) :
    Reports (.error e : Except ModelError α) (e :: more) := rfl

theorem bind {f : α → Except ModelError β} (first : Reports result problems)
    (rest : ∀ a, result = .ok a → Reports (f a) more) :
    Reports (result >>= f) (problems ++ more) := by
  cases result with
  | error e =>
    have head : problems.head? = some e := first
    change (problems ++ more).head? = some e
    rw [List.head?_append, head, Option.some_or]
  | ok a =>
    have none : problems = [] := first
    rw [none]
    exact rest a rfl

theorem guard {c : Prop} [Decidable c] {e : ModelError} (rest : Reports result problems) :
    Reports (if c then .error e else result) ((if c then [e] else []) ++ problems) := by
  by_cases h : c
  · rw [if_pos h, if_pos h]
    exact error e problems
  · rw [if_neg h, if_neg h]
    exact rest

theorem map (f : α → β) (first : Reports result problems) :
    Reports (result >>= fun a => .ok (f a)) problems := by
  have last := first.bind fun a _ => ok (f a)
  rwa [List.append_nil] at last

theorem error_iff (reports : Reports result problems) (e : ModelError) :
    result = .error e ↔ problems.head? = some e := by
  cases result with
  | ok a =>
    have none : problems = [] := reports
    simp [none]
  | error first =>
    have head : problems.head? = some first := reports
    simp [head]

theorem ok_iff (reports : Reports result problems) : (∃ a, result = .ok a) ↔ problems = [] := by
  cases result with
  | ok a => exact ⟨fun _ => reports, fun _ => ⟨a, rfl⟩⟩
  | error first =>
    have head : problems.head? = some first := reports
    constructor
    · rintro ⟨a, same⟩
      contradiction
    · intro none
      simp [none] at head

end Reports

namespace TypeSpec

theorem enumMembers_reports (name : Name) (seen : List String) (members : List EnumMemberSpec) :
    Reports (enumMembers name seen members)
      ((firstRepeat? seen (members.map (·.name))).map (.duplicateProperty name)).toList := by
  induction members generalizing seen with
  | nil => exact Reports.ok []
  | cons m members ih =>
    rw [enumMembers, List.map_cons, firstRepeat?]
    split
    · exact Reports.error _ []
    · exact (ih (m.name :: seen)).map _

theorem toProperties_cons (owner : Name) (seen : List String) (name : String) (t : TypeSpec)
    (ps : List (String × TypeSpec)) :
    toProperties owner seen ((name, t) :: ps) =
      (toTy owner t >>= fun type =>
        if name ∈ seen then .error (.duplicateProperty owner name)
        else toProperties owner (name :: seen) ps >>= fun rest => .ok ((name, type) :: rest)) := by
  rw [toProperties, toProperty, bind_assoc]
  rfl

theorem toParams_cons (owner : Name) (name? : Option String) (t : TypeSpec)
    (optional variadic : Bool) (ps : List (Param TypeSpec)) :
    toParams owner (⟨name?, t, optional, variadic⟩ :: ps) =
      (toTy owner t >>= fun type =>
        toParams owner ps >>= fun rest => .ok (⟨name?, type, optional, variadic⟩ :: rest)) := by
  rw [toParams, toParam, bind_assoc]
  rfl

def toClass (owner : Name) (kind : ClassKind) (given : Except ModelError (List (Param Ty)))
    (f : FunctionSpec TypeSpec) : Except ModelError Ty := do
  let superclass? ← toTy? owner f.superclass?
  let interfaces ← toTys owner f.implements
  let params ← given
  let this? ← toTy? owner f.this?
  let prototype ← toProperties (f.name?.getD owner) [] f.prototype
  let statics ← toProperties (f.name?.getD owner) [] f.statics
  .ok (.classlike { name := f.name?.getD owner, kind, typeParams := f.typeParams, superclass?,
                    interfaces, params, instanceType := this?.getD (.record []), prototype,
                    statics })

def toOrdinary (owner : Name) (f : FunctionSpec TypeSpec) : Except ModelError Ty := do
  let params ← toParams owner f.params
  let returns? ← toTy? owner f.returns?
  let receiver? ← toTy? owner f.this?
  .ok (.function { typeParams := f.typeParams, params, returns?, receiver? })

theorem toFunction_eq (owner : Name) (f : FunctionSpec TypeSpec) :
    toFunction owner f =
      match f.constructor, f.interface with
      | true, true => .error (.ambiguousFunctionKind owner)
      | true, false => toClass owner .constructor (toParams owner f.params) f
      | false, true => toClass owner .interface (.ok []) f
      | false, false => toOrdinary owner f := by
  obtain ⟨name?, isConstructor, isInterface, typeParams, params, returns?, this?, superclass?,
    implements, prototypeTable, staticTable⟩ := f
  cases isConstructor with
  | true => cases isInterface <;> rfl
  | false => cases isInterface <;> rfl

mutual

theorem toTy_reports (owner : Name) (t : TypeSpec) : Reports (toTy owner t) (problems owner t) := by
  match t with
  | .primitive _ => exact Reports.ok _
  | .named _ => exact Reports.ok _
  | .templateVar _ => exact Reports.ok _
  | .enumElement _ => exact Reports.ok _
  | .prototype _ => exact Reports.ok _
  | .union alternates => exact (toTys_reports owner alternates).map _
  | .templatized base args => exact (toTys_reports owner args).map _
  | .record properties => exact (toProperties_reports owner [] properties).map _
  | .enumeration name element members =>
    exact (toTy_reports owner element).bind fun _ _ => (enumMembers_reports name [] members).map _
  | .function f => exact toFunction_reports owner f

theorem toTys_reports (owner : Name) (ts : List TypeSpec) :
    Reports (toTys owner ts) (problemsOfAll owner ts) := by
  match ts with
  | [] => exact Reports.ok []
  | t :: ts => exact (toTy_reports owner t).bind fun _ _ => (toTys_reports owner ts).map _

theorem toProperties_reports (owner : Name) (seen : List String) (ps : List (String × TypeSpec)) :
    Reports (toProperties owner seen ps) (tableProblems owner seen ps) := by
  match ps with
  | [] => exact Reports.ok []
  | (name, t) :: ps =>
    rw [toProperties_cons, tableProblems, List.append_assoc]
    exact (toTy_reports owner t).bind fun _ _ =>
      ((toProperties_reports owner (name :: seen) ps).map _).guard

theorem toParams_reports (owner : Name) (ps : List (Param TypeSpec)) :
    Reports (toParams owner ps) (paramProblems owner ps) := by
  match ps with
  | [] => exact Reports.ok []
  | ⟨name?, t, optional, variadic⟩ :: ps =>
    rw [toParams_cons]
    exact (toTy_reports owner t).bind fun _ _ => (toParams_reports owner ps).map _

theorem toTy?_reports (owner : Name) (t? : Option TypeSpec) :
    Reports (toTy? owner t?) (problems? owner t?) := by
  match t? with
  | none => exact Reports.ok none
  | some t => exact (toTy_reports owner t).map _

theorem toFunction_reports (owner : Name) (f : FunctionSpec TypeSpec) :
    Reports (toFunction owner f) (functionProblems owner f) := by
  match f with
  | ⟨name?, isConstructor, isInterface, typeParams, params, returns?, this?, superclass?,
      implements, prototypeTable, staticTable⟩ =>
    have classlike {given : Except ModelError (List (Param Ty))} {found : List ModelError}
        (kind : ClassKind) (own : Reports given found) :
        Reports
          (toClass owner kind given
            ⟨name?, isConstructor, isInterface, typeParams, params, returns?, this?, superclass?,
              implements, prototypeTable, staticTable⟩)
          (problems? owner superclass? ++ problemsOfAll owner implements ++ found ++
            problems? owner this? ++ tableProblems (name?.getD owner) [] prototypeTable ++
            tableProblems (name?.getD owner) [] staticTable) := by
      simp only [List.append_assoc]
      exact (toTy?_reports owner superclass?).bind fun _ _ =>
        (toTys_reports owner implements).bind fun _ _ =>
        own.bind fun _ _ =>
        (toTy?_reports owner this?).bind fun _ _ =>
        (toProperties_reports _ [] prototypeTable).bind fun _ _ =>
        (toProperties_reports _ [] staticTable).map _
    rw [toFunction_eq]
    cases isConstructor with
    | true =>
      cases isInterface with
      | true => exact Reports.error _ []
      | false => exact classlike .constructor (toParams_reports owner params)
    | false =>
      cases isInterface with
      | true => exact classlike .interface (Reports.ok [])
      | false =>
        change Reports _ (paramProblems owner params ++ problems? owner returns? ++
          problems? owner this?)
        rw [List.append_assoc]
        exact (toParams_reports owner params).bind fun _ _ =>
          (toTy?_reports owner returns?).bind fun _ _ => (toTy?_reports owner this?).map _

end

end TypeSpec

def symbolProblems (earlier : List Name) : List SymbolSpec → List ModelError
  | [] => []
  | s :: ss =>
    TypeSpec.problems? s.name s.type? ++ repeatProblem .duplicateSymbol earlier s.name ++
      symbolProblems (s.name :: earlier) ss

/-- All problems of a dump in the order of the walk: symbol by symbol, then alias by alias. -/
def ProgramSpec.problems (p : ProgramSpec) : List ModelError :=
  symbolProblems [] p.symbols ++ p.aliases.flatMap fun a => a.2.problems a.1

theorem inserted_eq (g : Graph) (s : Symbol) :
    inserted g s =
      if g.symbols.contains s.name then .error (.duplicateSymbol s.name) else .ok (g.define s) := by
  rw [inserted, EStateM.run, Graph.insert]
  cases g.symbols.contains s.name <;> rfl

theorem inserted_reports (g : Graph) (s : Symbol) {earlier : List Name}
    (same : ∀ n, n ∈ earlier ↔ n ∈ g.symbols.names) :
    Reports (inserted g s) (repeatProblem .duplicateSymbol earlier s.name) := by
  have known : s.name ∈ earlier ↔ g.symbols.contains s.name = true :=
    (same s.name).trans (g.symbols.contains_iff s.name).symm
  rw [inserted_eq, repeatProblem]
  by_cases repeated : s.name ∈ earlier
  · rw [if_pos repeated, if_pos (known.mp repeated)]
    exact Reports.error _ []
  · rw [if_neg repeated, if_neg (mt known.mpr repeated)]
    exact Reports.ok _

theorem inserted_eq_ok {g g' : Graph} {s : Symbol} (done : inserted g s = .ok g') :
    g' = g.define s := by
  rw [inserted_eq] at done
  split at done
  · contradiction
  · exact (Except.ok.inj done).symm

/-- The names that a symbol may not repeat are those in the table of the symbols so far. -/
theorem addSymbols_reports (symbols : List SymbolSpec) (g : Graph) {earlier : List Name}
    (same : ∀ n, n ∈ earlier ↔ n ∈ g.symbols.names) :
    Reports (symbols.foldlM addSymbol g) (symbolProblems earlier symbols) := by
  induction symbols generalizing g earlier with
  | nil => exact Reports.ok g
  | cons s symbols ih =>
    rw [List.foldlM_cons, addSymbol, bind_assoc, symbolProblems, List.append_assoc]
    refine (TypeSpec.toTy?_reports s.name s.type?).bind fun type? _ => ?_
    refine (inserted_reports g ⟨s.name, type?⟩ same).bind fun g' done => ?_
    obtain rfl := inserted_eq_ok done
    refine ih _ fun n => ?_
    rw [Graph.define, SymbolTable.add, Table.mem_names_insert, List.mem_cons, same]

theorem addAliases_reports (aliases : List (Name × TypeSpec)) (g : Graph) :
    Reports (aliases.foldlM addAlias g) (aliases.flatMap fun a => a.2.problems a.1) := by
  induction aliases generalizing g with
  | nil => exact Reports.ok g
  | cons a aliases ih =>
    rw [List.foldlM_cons, addAlias, List.flatMap_cons]
    exact ((TypeSpec.toTy_reports a.1 a.2).map _).bind fun g' _ => ih g'

namespace ProgramSpec

variable (p : ProgramSpec)

theorem toGraph_reports : Reports p.toGraph p.problems :=
  (addSymbols_reports p.symbols {} fun _ => Iff.rfl).bind fun g _ =>
    (addAliases_reports p.aliases g).map _

/-- A conversion fails with the first problem of the dump, and succeeds if there is none. -/
theorem conversion_first_problem :
    (∀ error, p.toGraph = .error error ↔ p.problems.head? = some error) ∧
      ((∃ g, p.toGraph = .ok g) ↔ p.problems = []) :=
  ⟨p.toGraph_reports.error_iff, p.toGraph_reports.ok_iff⟩

/-- The type of a property comes before its name, and a function of both flavours is not looked
into. -/
example :
    problems
      { symbols := [
          ⟨"lib.C", some (.record [
            ("a", .primitive .string),
            ("a", .function
              { constructor := true
                interface := true
                statics := [("b", .primitive .string), ("b", .primitive .string)] })])⟩,
          ⟨"lib.C", none⟩] } =
      [.ambiguousFunctionKind "lib.C", .duplicateProperty "lib.C" "a",
        .duplicateSymbol "lib.C"] := by
  decide

end ProgramSpec

end Ambient.Dump
