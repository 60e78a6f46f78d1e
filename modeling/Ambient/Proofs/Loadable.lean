import Ambient.Proofs.Problems
import Ambient.Proofs.Results

namespace Ambient

def EnumValue.IsWritable : EnumValue → Prop
  | .number x => ∃ n : Json.Number, n.toFloat? = some x
  | .string _ | .boolean _ | .computed => True

theorem EnumValue.isWritable_iff (value : EnumValue) :
    value.IsWritable ↔ ∃ v, EnumValue.ofJson v = value := by
  constructor
  · intro writable
    cases value with
    | number x =>
      obtain ⟨n, read⟩ := writable
      refine ⟨.number n, ?_⟩
      rw [ofJson, read]
      rfl
    | string s => exact ⟨.string s, rfl⟩
    | boolean b => exact ⟨.bool b, rfl⟩
    | computed => exact ⟨.null, rfl⟩
  · rintro ⟨v, rfl⟩
    cases v with
    | number n =>
      rw [ofJson]
      cases read : n.toFloat? with
      | none => exact trivial
      | some x => exact ⟨n, read⟩
    | _ => exact trivial

/-- The types that a dump can write, at every depth. -/
inductive Ty.Loadable : Ty → Prop where
  | primitive (p : Primitive) : Loadable (.primitive p)
  | named (name : Name) : Loadable (.named name)
  | templateVar (name : String) : Loadable (.templateVar name)
  | enumElement (name : Name) : Loadable (.enumElement name)
  | prototype (owner : Name) : Loadable (.prototype owner)
  | union {alternates : List Ty} (types : ∀ t ∈ alternates, Loadable t) :
      Loadable (.union alternates)
  | templatized {base : Name} {args : List Ty} (types : ∀ t ∈ args, Loadable t) :
      Loadable (.templatized base args)
  | record {fields : Properties} (distinct : (fields.map (·.1)).Nodup)
      (types : ∀ p ∈ fields, Loadable p.2) : Loadable (.record fields)
  | enumeration {e : EnumType Ty} (element : Loadable e.element)
      (distinct : (e.members.map (·.1)).Nodup) (values : ∀ m ∈ e.members, m.2.IsWritable) :
      Loadable (.enumeration e)
  | function {f : FunctionType Ty} (params : ∀ p ∈ f.params, Loadable p.type)
      (returns : ∀ t ∈ f.returns?, Loadable t) (receiver : ∀ t ∈ f.receiver?, Loadable t) :
      Loadable (.function f)
  | classlike {c : ClassType Ty} (bare : c.kind = .interface → c.params = [])
      (superclass : ∀ t ∈ c.superclass?, Loadable t) (interfaces : ∀ t ∈ c.interfaces, Loadable t)
      (params : ∀ p ∈ c.params, Loadable p.type) (instances : Loadable c.instanceType)
      (methods : (c.prototype.map (·.1)).Nodup) (prototype : ∀ p ∈ c.prototype, Loadable p.2)
      (own : (c.statics.map (·.1)).Nodup) (statics : ∀ p ∈ c.statics, Loadable p.2) :
      Loadable (.classlike c)

namespace Dump

def Writes (t : TypeSpec) (type : Ty) : Prop := ∀ owner, t.toTy owner = .ok type

namespace TypeSpec

theorem exists_types {types : List Ty} (each : ∀ type ∈ types, ∃ t, Writes t type) :
    ∃ ts, ∀ owner, toTys owner ts = .ok types := by
  induction types with
  | nil => exact ⟨[], fun _ => rfl⟩
  | cons type types ih =>
    obtain ⟨first, rest⟩ := List.forall_mem_cons.mp each
    obtain ⟨t, here⟩ := first
    obtain ⟨ts, later⟩ := ih rest
    refine ⟨t :: ts, fun owner => ?_⟩
    exact bind_eq_ok_iff.mpr ⟨type, here owner, bind_eq_ok_iff.mpr ⟨types, later owner, rfl⟩⟩

theorem apart_of_nodup {name : String} {keys seen : List String} (distinct : (name :: keys).Nodup)
    (new : ∀ key ∈ name :: keys, key ∉ seen) :
    name ∉ seen ∧ ∀ key ∈ keys, key ∉ name :: seen := by
  obtain ⟨first, -⟩ := List.nodup_cons.mp distinct
  obtain ⟨here, later⟩ := List.forall_mem_cons.mp new
  refine ⟨here, fun key member => ?_⟩
  rw [List.mem_cons, not_or]
  exact ⟨fun same => first (same ▸ member), later key member⟩

theorem exists_table {fields : Properties} (each : ∀ p ∈ fields, ∃ t, Writes t p.2)
    (distinct : (fields.map (·.1)).Nodup) :
    ∃ specs, ∀ owner seen, (∀ key ∈ fields.map (·.1), key ∉ seen) →
      toProperties owner seen specs = .ok fields := by
  induction fields with
  | nil => exact ⟨[], fun _ _ _ => rfl⟩
  | cons p fields ih =>
    obtain ⟨name, type⟩ := p
    obtain ⟨⟨t, here⟩, rest⟩ := List.forall_mem_cons.mp each
    obtain ⟨specs, later⟩ := ih rest (List.nodup_cons.mp distinct).2
    refine ⟨(name, t) :: specs, fun owner seen new => ?_⟩
    obtain ⟨newName, newRest⟩ := apart_of_nodup distinct new
    rw [toProperties_cons]
    refine bind_eq_ok_iff.mpr ⟨type, here owner, ?_⟩
    rw [if_neg newName]
    exact bind_eq_ok_iff.mpr ⟨fields, later owner (name :: seen) newRest, rfl⟩

theorem exists_members {members : List (String × EnumValue)}
    (values : ∀ m ∈ members, m.2.IsWritable) (distinct : (members.map (·.1)).Nodup) :
    ∃ specs, ∀ owner seen, (∀ key ∈ members.map (·.1), key ∉ seen) →
      enumMembers owner seen specs = .ok members := by
  induction members with
  | nil => exact ⟨[], fun _ _ _ => rfl⟩
  | cons m members ih =>
    obtain ⟨name, value⟩ := m
    obtain ⟨writable, rest⟩ := List.forall_mem_cons.mp values
    obtain ⟨v, rfl⟩ := value.isWritable_iff.mp writable
    obtain ⟨specs, later⟩ := ih rest (List.nodup_cons.mp distinct).2
    refine ⟨⟨name, v⟩ :: specs, fun owner seen new => ?_⟩
    obtain ⟨newName, newRest⟩ := apart_of_nodup distinct new
    rw [enumMembers, if_neg newName]
    exact bind_eq_ok_iff.mpr ⟨members, later owner (name :: seen) newRest, rfl⟩

theorem exists_params {params : List (Param Ty)}
    (each : ∀ p ∈ params, ∃ t, Writes t p.type) :
    ∃ specs, ∀ owner, toParams owner specs = .ok params := by
  induction params with
  | nil => exact ⟨[], fun _ => rfl⟩
  | cons p params ih =>
    obtain ⟨name?, type, optional, variadic⟩ := p
    obtain ⟨⟨t, here⟩, rest⟩ := List.forall_mem_cons.mp each
    obtain ⟨specs, later⟩ := ih rest
    refine ⟨⟨name?, t, optional, variadic⟩ :: specs, fun owner => ?_⟩
    rw [toParams_cons]
    exact bind_eq_ok_iff.mpr ⟨type, here owner, bind_eq_ok_iff.mpr ⟨params, later owner, rfl⟩⟩

theorem exists_type? {type? : Option Ty} (each : ∀ type ∈ type?, ∃ t, Writes t type) :
    ∃ t?, ∀ owner, toTy? owner t? = .ok type? := by
  cases type? with
  | none => exact ⟨none, fun _ => rfl⟩
  | some type =>
    obtain ⟨t, here⟩ := each type rfl
    exact ⟨some t, fun owner => bind_eq_ok_iff.mpr ⟨type, here owner, rfl⟩⟩

theorem toClass_eq_ok_iff {owner : Name} {kind : ClassKind}
    {given : Except ModelError (List (Param Ty))} {f : FunctionSpec TypeSpec} {type : Ty} :
    toClass owner kind given f = .ok type ↔
      ∃ superclass?, toTy? owner f.superclass? = .ok superclass? ∧
      ∃ interfaces, toTys owner f.implements = .ok interfaces ∧
      ∃ params, given = .ok params ∧
      ∃ this?, toTy? owner f.this? = .ok this? ∧
      ∃ prototype, toProperties (f.name?.getD owner) [] f.prototype = .ok prototype ∧
      ∃ statics, toProperties (f.name?.getD owner) [] f.statics = .ok statics ∧
        type = .classlike { name := f.name?.getD owner, kind, typeParams := f.typeParams,
                            superclass?, interfaces, params,
                            instanceType := this?.getD (.record []), prototype, statics } := by
  simp only [toClass, bind_eq_ok_iff, Except.ok.injEq, eq_comm (b := type)]

/-- A class is written with its name and its instance type, so that no default is taken. -/
theorem exists_class {c : ClassType Ty} (bare : c.kind = .interface → c.params = [])
    (superclass : ∀ type ∈ c.superclass?, ∃ t, Writes t type)
    (interfaces : ∀ type ∈ c.interfaces, ∃ t, Writes t type)
    (params : ∀ p ∈ c.params, ∃ t, Writes t p.type) (instances : ∃ t, Writes t c.instanceType)
    (prototype : ∀ p ∈ c.prototype, ∃ t, Writes t p.2) (methods : (c.prototype.map (·.1)).Nodup)
    (statics : ∀ p ∈ c.statics, ∃ t, Writes t p.2) (own : (c.statics.map (·.1)).Nodup) :
    ∃ f, ∀ owner, toFunction owner f = .ok (.classlike c) := by
  have first {keys : List String} : ∀ key ∈ keys, key ∉ ([] : List String) :=
    fun _ _ => List.not_mem_nil
  obtain ⟨superclass?, superclassOk⟩ := exists_type? superclass
  obtain ⟨implements, implementsOk⟩ := exists_types interfaces
  obtain ⟨given, paramsOk⟩ := exists_params params
  obtain ⟨t, instanceOk⟩ := instances
  obtain ⟨prototypeTable, prototypeOk⟩ := exists_table prototype methods
  obtain ⟨staticTable, staticsOk⟩ := exists_table statics own
  have thisOk (owner : Name) : toTy? owner (some t) = .ok (some c.instanceType) :=
    bind_eq_ok_iff.mpr ⟨_, instanceOk owner, rfl⟩
  let spec (isConstructor isInterface : Bool) : FunctionSpec TypeSpec :=
    ⟨some c.name, isConstructor, isInterface, c.typeParams, given, none, some t, superclass?,
      implements, prototypeTable, staticTable⟩
  have written (owner : Name) {kind : ClassKind} (same : c.kind = kind)
      {read : Except ModelError (List (Param Ty))} (own : read = .ok c.params)
      (isConstructor isInterface : Bool) :
      toClass owner kind read (spec isConstructor isInterface) = .ok (.classlike c) := by
    subst same
    exact toClass_eq_ok_iff.mpr ⟨_, superclassOk owner, _, implementsOk owner, _, own,
      _, thisOk owner, _, prototypeOk c.name [] first, _, staticsOk c.name [] first, rfl⟩
  cases same : c.kind with
  | constructor =>
    refine ⟨spec true false, fun owner => ?_⟩
    exact (toFunction_eq owner _).trans (written owner same (paramsOk owner) true false)
  | interface =>
    -- what stands in the dump as its parameters is not looked at
    refine ⟨spec false true, fun owner => ?_⟩
    have empty : (.ok [] : Except ModelError (List (Param Ty))) = .ok c.params := by rw [bare same]
    exact (toFunction_eq owner _).trans (written owner same empty false true)

theorem exists_writes {type : Ty} (loadable : type.Loadable) : ∃ t, Writes t type := by
  have first {keys : List String} : ∀ key ∈ keys, key ∉ ([] : List String) :=
    fun _ _ => List.not_mem_nil
  induction loadable with
  | primitive p => exact ⟨.primitive p, fun _ => rfl⟩
  | named name => exact ⟨.named name, fun _ => rfl⟩
  | templateVar name => exact ⟨.templateVar name, fun _ => rfl⟩
  | enumElement name => exact ⟨.enumElement name, fun _ => rfl⟩
  | prototype owner => exact ⟨.prototype owner, fun _ => rfl⟩
  | union _ alternates =>
    obtain ⟨ts, converted⟩ := exists_types alternates
    exact ⟨.union ts, fun owner => bind_eq_ok_iff.mpr ⟨_, converted owner, rfl⟩⟩
  | @templatized base _ _ args =>
    obtain ⟨ts, converted⟩ := exists_types args
    exact ⟨.templatized base ts, fun owner => bind_eq_ok_iff.mpr ⟨_, converted owner, rfl⟩⟩
  | record distinct _ types =>
    obtain ⟨specs, converted⟩ := exists_table types distinct
    exact ⟨.record specs, fun owner =>
      bind_eq_ok_iff.mpr ⟨_, converted owner [] first, rfl⟩⟩
  | @enumeration e _ distinct values element =>
    obtain ⟨t, here⟩ := element
    obtain ⟨specs, members⟩ := exists_members values distinct
    exact ⟨.enumeration e.name t specs, fun owner =>
      bind_eq_ok_iff.mpr ⟨_, here owner, bind_eq_ok_iff.mpr ⟨_, members e.name [] first, rfl⟩⟩⟩
  | @function f _ _ _ params returns receiver =>
    obtain ⟨params, paramsOk⟩ := exists_params params
    obtain ⟨returns?, returnsOk⟩ := exists_type? returns
    obtain ⟨this?, thisOk⟩ := exists_type? receiver
    exact ⟨.function { typeParams := f.typeParams, params, returns?, this? }, fun owner =>
      bind_eq_ok_iff.mpr ⟨_, paramsOk owner, bind_eq_ok_iff.mpr
        ⟨_, returnsOk owner, bind_eq_ok_iff.mpr ⟨_, thisOk owner, rfl⟩⟩⟩⟩
  | classlike bare _ _ _ _ methods _ own _ superclass interfaces params instances prototype
      statics =>
    obtain ⟨f, converted⟩ :=
      exists_class bare superclass interfaces params instances prototype methods statics own
    exact ⟨.function f, converted⟩

theorem toProperties_nodup {owner : Name} {seen : List String} {specs : List (String × TypeSpec)}
    {table : Properties} (converted : toProperties owner seen specs = .ok table) :
    (table.map (·.1)).Nodup ∧ ∀ key ∈ table.map (·.1), key ∉ seen := by
  induction specs generalizing seen table with
  | nil =>
    cases converted
    exact ⟨List.nodup_nil, fun _ member => absurd member List.not_mem_nil⟩
  | cons spec specs ih =>
    obtain ⟨name, t⟩ := spec
    rw [toProperties_cons] at converted
    obtain ⟨type, -, rest⟩ := bind_eq_ok_iff.mp converted
    split at rest
    · contradiction
    · next new =>
      obtain ⟨others, later, done⟩ := bind_eq_ok_iff.mp rest
      cases done
      obtain ⟨distinct, apart⟩ := ih later
      have fresh : name ∉ others.map (·.1) := fun member => apart name member List.mem_cons_self
      refine ⟨List.nodup_cons.mpr ⟨fresh, distinct⟩, ?_⟩
      rintro key (_ | ⟨_, member⟩)
      · exact new
      · exact fun earlier => apart key member (List.mem_cons_of_mem name earlier)

theorem enumMembers_writable {owner : Name} {seen : List String} {specs : List EnumMemberSpec}
    {members : List (String × EnumValue)} (converted : enumMembers owner seen specs = .ok members) :
    (members.map (·.1)).Nodup ∧ (∀ key ∈ members.map (·.1), key ∉ seen) ∧
      ∀ m ∈ members, m.2.IsWritable := by
  induction specs generalizing seen members with
  | nil =>
    cases converted
    exact ⟨List.nodup_nil, fun _ => nofun, fun _ => nofun⟩
  | cons spec specs ih =>
    rw [enumMembers] at converted
    split at converted
    · contradiction
    · next new =>
      obtain ⟨others, later, done⟩ := bind_eq_ok_iff.mp converted
      cases done
      obtain ⟨distinct, apart, writable⟩ := ih later
      refine ⟨List.nodup_cons.mpr ⟨fun member => apart _ member List.mem_cons_self, distinct⟩, ?_,
        List.forall_mem_cons.mpr ⟨(EnumValue.isWritable_iff _).mpr ⟨spec.value, rfl⟩, writable⟩⟩
      rintro key (_ | ⟨_, member⟩)
      · exact new
      · exact fun earlier => apart key member (List.mem_cons_of_mem _ earlier)

mutual

theorem toTy_loadable {owner : Name} {type : Ty} (t : TypeSpec)
    (converted : toTy owner t = .ok type) : type.Loadable := by
  match t with
  | .primitive p =>
    cases converted
    exact .primitive p
  | .named name =>
    cases converted
    exact .named name
  | .templateVar name =>
    cases converted
    exact .templateVar name
  | .enumElement name =>
    cases converted
    exact .enumElement name
  | .prototype name =>
    cases converted
    exact .prototype name
  | .union ts =>
    obtain ⟨types, all, done⟩ := bind_eq_ok_iff.mp converted
    cases done
    exact .union (toTys_loadable ts all)
  | .templatized base ts =>
    obtain ⟨types, all, done⟩ := bind_eq_ok_iff.mp converted
    cases done
    exact .templatized (toTys_loadable ts all)
  | .record specs =>
    obtain ⟨fields, table, done⟩ := bind_eq_ok_iff.mp converted
    cases done
    exact .record (toProperties_nodup table).1 (toProperties_loadable specs table)
  | .enumeration name t specs =>
    obtain ⟨element, here, rest⟩ := bind_eq_ok_iff.mp converted
    obtain ⟨members, values, done⟩ := bind_eq_ok_iff.mp rest
    cases done
    obtain ⟨distinct, -, writable⟩ := enumMembers_writable values
    exact .enumeration (toTy_loadable t here) distinct writable
  | .function f => exact toFunction_loadable f converted

theorem toTys_loadable {owner : Name} {types : List Ty} (ts : List TypeSpec)
    (converted : toTys owner ts = .ok types) : ∀ type ∈ types, type.Loadable := by
  match ts with
  | [] =>
    cases converted
    exact fun _ => nofun
  | t :: ts =>
    obtain ⟨type, here, rest⟩ := bind_eq_ok_iff.mp converted
    obtain ⟨types, later, done⟩ := bind_eq_ok_iff.mp rest
    cases done
    exact List.forall_mem_cons.mpr ⟨toTy_loadable t here, toTys_loadable ts later⟩

theorem toProperties_loadable {owner : Name} {seen : List String} {fields : Properties}
    (specs : List (String × TypeSpec)) (converted : toProperties owner seen specs = .ok fields) :
    ∀ p ∈ fields, p.2.Loadable := by
  match specs with
  | [] =>
    cases converted
    exact fun _ => nofun
  | (name, t) :: specs =>
    rw [toProperties_cons] at converted
    obtain ⟨type, here, rest⟩ := bind_eq_ok_iff.mp converted
    split at rest
    · contradiction
    · obtain ⟨fields, later, done⟩ := bind_eq_ok_iff.mp rest
      cases done
      exact List.forall_mem_cons.mpr ⟨toTy_loadable t here, toProperties_loadable specs later⟩

theorem toParams_loadable {owner : Name} {params : List (Param Ty)}
    (specs : List (Param TypeSpec)) (converted : toParams owner specs = .ok params) :
    ∀ p ∈ params, p.type.Loadable := by
  match specs with
  | [] =>
    cases converted
    exact fun _ => nofun
  | ⟨name?, t, optional, variadic⟩ :: specs =>
    rw [toParams_cons] at converted
    obtain ⟨type, here, rest⟩ := bind_eq_ok_iff.mp converted
    obtain ⟨params, later, done⟩ := bind_eq_ok_iff.mp rest
    cases done
    exact List.forall_mem_cons.mpr ⟨toTy_loadable t here, toParams_loadable specs later⟩

theorem toTy?_loadable {owner : Name} {type? : Option Ty} (t? : Option TypeSpec)
    (converted : toTy? owner t? = .ok type?) : ∀ type ∈ type?, type.Loadable := by
  match t? with
  | none =>
    cases converted
    exact fun _ => nofun
  | some t =>
    obtain ⟨type, here, done⟩ := bind_eq_ok_iff.mp converted
    cases done
    rintro _ ⟨⟩
    exact toTy_loadable t here

theorem toFunction_loadable {owner : Name} {type : Ty} (f : FunctionSpec TypeSpec)
    (converted : toFunction owner f = .ok type) : type.Loadable := by
  match f with
  | ⟨name?, isConstructor, isInterface, typeParams, params, returns?, this?, superclass?,
      implements, prototypeTable, staticTable⟩ =>
    have classlike {kind : ClassKind} {given : Except ModelError (List (Param Ty))}
        (bare : kind = .interface → given = .ok [])
        (each : ∀ params, given = .ok params → ∀ p ∈ params, p.type.Loadable)
        (made : toClass owner kind given
          ⟨name?, isConstructor, isInterface, typeParams, params, returns?, this?, superclass?,
            implements, prototypeTable, staticTable⟩ = .ok type) : type.Loadable := by
      obtain ⟨type?, parent, interfaces, parents, own, read, this, instances, prototype, methods,
        statics, table, rfl⟩ := toClass_eq_ok_iff.mp made
      have thisLoadable := toTy?_loadable this? instances
      refine .classlike ?_ (toTy?_loadable superclass? parent) (toTys_loadable implements parents)
        (each own read) ?_ (toProperties_nodup methods).1
        (toProperties_loadable prototypeTable methods) (toProperties_nodup table).1
        (toProperties_loadable staticTable table)
      · intro interface
        rw [bare interface] at read
        exact (Except.ok.inj read).symm
      · cases this with
        | none => exact .record List.nodup_nil fun _ => nofun
        | some type => exact thisLoadable type rfl
    rw [toFunction_eq] at converted
    cases isConstructor with
    | true =>
      cases isInterface with
      | true => contradiction
      | false =>
        exact @classlike .constructor (toParams owner params) nofun
          (fun _ read => toParams_loadable params read) converted
    | false =>
      cases isInterface with
      | true =>
        refine classlike (fun _ => rfl) ?_ converted
        rintro _ ⟨⟩
        exact fun _ => nofun
      | false =>
        obtain ⟨given, paramsOk, converted⟩ := bind_eq_ok_iff.mp converted
        obtain ⟨returns, returnsOk, converted⟩ := bind_eq_ok_iff.mp converted
        obtain ⟨receiver, receiverOk, converted⟩ := bind_eq_ok_iff.mp converted
        cases converted
        exact .function (toParams_loadable params paramsOk) (toTy?_loadable returns? returnsOk)
          (toTy?_loadable this? receiverOk)

end

end TypeSpec

/-- Under every owner the types that a dump can write are the loadable ones. -/
theorem loadable_iff (type : Ty) (owner : Name) :
    (∃ t, TypeSpec.toTy owner t = .ok type) ↔ type.Loadable := by
  constructor
  · rintro ⟨t, converted⟩
    exact TypeSpec.toTy_loadable t converted
  · intro loadable
    obtain ⟨t, writes⟩ := TypeSpec.exists_writes loadable
    exact ⟨t, writes owner⟩

end Dump

end Ambient
