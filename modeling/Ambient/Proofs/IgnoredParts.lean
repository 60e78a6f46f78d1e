import Ambient.Proofs.Problems

namespace Ambient.Dump

namespace TypeSpec

mutual

/-- A type without the parts that its functions have no use for. -/
def stripped : TypeSpec → TypeSpec
  | .primitive p => .primitive p
  | .named name => .named name
  | .union alternates => .union (strippedAll alternates)
  | .templateVar name => .templateVar name
  | .templatized base args => .templatized base (strippedAll args)
  | .record properties => .record (strippedTable properties)
  | .enumeration name element members => .enumeration name (stripped element) members
  | .enumElement name => .enumElement name
  | .function f => .function (strippedFunction f)
  | .prototype owner => .prototype owner

def strippedAll : List TypeSpec → List TypeSpec
  | [] => []
  | t :: ts => stripped t :: strippedAll ts

def strippedTable : List (String × TypeSpec) → List (String × TypeSpec)
  | [] => []
  | (name, t) :: ps => (name, stripped t) :: strippedTable ps

def strippedParams : List (Param TypeSpec) → List (Param TypeSpec)
  | [] => []
  | ⟨name?, t, optional, variadic⟩ :: ps =>
    ⟨name?, stripped t, optional, variadic⟩ :: strippedParams ps

def stripped? : Option TypeSpec → Option TypeSpec
  | none => none
  | some t => some (stripped t)

/-- What a flavour of function has a use for; one of two flavours is refused for its flags alone. -/
def strippedFunction : FunctionSpec TypeSpec → FunctionSpec TypeSpec
  | ⟨name?, isConstructor, isInterface, typeParams, params, returns?, this?, superclass?,
      implements, prototypeTable, staticTable⟩ =>
    match isConstructor, isInterface with
    | true, true => { constructor := true, interface := true }
    | true, false => {
        name?, constructor := true, typeParams, params := strippedParams params,
        this? := stripped? this?, superclass? := stripped? superclass?,
        implements := strippedAll implements, prototype := strippedTable prototypeTable,
        statics := strippedTable staticTable }
    | false, true => {
        name?, interface := true, typeParams, this? := stripped? this?,
        superclass? := stripped? superclass?, implements := strippedAll implements,
        prototype := strippedTable prototypeTable, statics := strippedTable staticTable }
    | false, false => {
        typeParams, params := strippedParams params, returns? := stripped? returns?,
        this? := stripped? this? }

end

mutual

theorem toTy_stripped (owner : Name) (t : TypeSpec) : toTy owner (stripped t) = toTy owner t := by
  match t with
  | .primitive _ | .named _ | .templateVar _ | .enumElement _ | .prototype _ => rfl
  | .union alternates => rw [stripped, toTy, toTy, toTys_stripped owner alternates]
  | .templatized base args => rw [stripped, toTy, toTy, toTys_stripped owner args]
  | .record properties => rw [stripped, toTy, toTy, toProperties_stripped owner [] properties]
  | .enumeration name element members => rw [stripped, toTy, toTy, toTy_stripped owner element]
  | .function f => rw [stripped, toTy, toTy, toFunction_stripped owner f]

theorem toTys_stripped (owner : Name) (ts : List TypeSpec) :
    toTys owner (strippedAll ts) = toTys owner ts := by
  match ts with
  | [] => rfl
  | t :: ts => rw [strippedAll, toTys, toTys, toTy_stripped owner t, toTys_stripped owner ts]

theorem toProperties_stripped (owner : Name) (seen : List String)
    (ps : List (String × TypeSpec)) :
    toProperties owner seen (strippedTable ps) = toProperties owner seen ps := by
  match ps with
  | [] => rfl
  | (name, t) :: ps =>
    rw [strippedTable, toProperties_cons, toProperties_cons, toTy_stripped owner t,
      toProperties_stripped owner (name :: seen) ps]

theorem toParams_stripped (owner : Name) (ps : List (Param TypeSpec)) :
    toParams owner (strippedParams ps) = toParams owner ps := by
  match ps with
  | [] => rfl
  | ⟨name?, t, optional, variadic⟩ :: ps =>
    rw [strippedParams, toParams_cons, toParams_cons, toTy_stripped owner t,
      toParams_stripped owner ps]

theorem toTy?_stripped (owner : Name) (t? : Option TypeSpec) :
    toTy? owner (stripped? t?) = toTy? owner t? := by
  match t? with
  | none => rfl
  | some t => rw [stripped?, toTy?, toTy?, toTy_stripped owner t]

theorem toFunction_stripped (owner : Name) (f : FunctionSpec TypeSpec) :
    toFunction owner (strippedFunction f) = toFunction owner f := by
  match f with
  | ⟨name?, isConstructor, isInterface, typeParams, params, returns?, this?, superclass?,
      implements, prototypeTable, staticTable⟩ =>
    have own := toParams_stripped owner params
    have this := toTy?_stripped owner this?
    have parent := toTy?_stripped owner superclass?
    have parents := toTys_stripped owner implements
    have methods := toProperties_stripped (name?.getD owner) [] prototypeTable
    have statics := toProperties_stripped (name?.getD owner) [] staticTable
    rw [toFunction_eq, toFunction_eq]
    cases isConstructor with
    | true =>
      cases isInterface with
      | true => rfl
      | false => simp only [strippedFunction, toClass, own, this, parent, parents, methods, statics]
    | false =>
      cases isInterface with
      | true => simp only [strippedFunction, toClass, this, parent, parents, methods, statics]
      | false =>
        simp only [strippedFunction, toOrdinary, own, toTy?_stripped owner returns?, this]

end

/-- Types that differ only in parts their functions have no use for convert alike, whatever stands
in these parts: to the same type or with the same problem. -/
theorem ignored_parts_unread (t t' : TypeSpec) (same : t.stripped = t'.stripped) (owner : Name) :
    toTy owner t = toTy owner t' := by
  rw [← toTy_stripped owner t, same, toTy_stripped]

/-- An interface below a union, with a method that has parents and a table. -/
def cluttered : TypeSpec :=
  .union [.primitive .null, .function
    { name? := some "lib.Shape", interface := true
      params := [⟨some "x", .function { constructor := true, interface := true }, false, false⟩]
      returns? := some (.record [("a", .primitive .string), ("a", .primitive .string)])
      prototype := [("scale", .function
        { name? := some "lib.Scale", params := [⟨none, .primitive .number, false, false⟩]
          superclass? := some (.named "lib.Base"), implements := [.function
            { constructor := true, interface := true }]
          statics := [("b", .primitive .void), ("b", .primitive .void)] })] }]

def tidy : TypeSpec :=
  .union [.primitive .null, .function
    { name? := some "lib.Shape", interface := true
      prototype := [("scale", .function
        { params := [⟨none, .primitive .number, false, false⟩] })] }]

theorem cluttered_ignored_parts_unread :
    cluttered.stripped = tidy.stripped ∧ toTy "lib" cluttered = toTy "lib" tidy ∧
      problems "lib" cluttered = [] :=
  ⟨rfl, ignored_parts_unread cluttered tidy rfl "lib", rfl⟩

end TypeSpec

end Ambient.Dump
