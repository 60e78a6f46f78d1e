import Ambient.Dump.Convert
import Ambient.Proofs.Arrows
import Ambient.Proofs.Forms

/-!
Parents in heritage clauses. A parent is to be written as a reference, which is a name that type
arguments may follow, and the root of all classes is not to be written as a superclass. A class or
an interface is written by its name and not as a type query. But the built-in forms of arrays and
index signatures are used in a clause too, and the root is only found as a named type or as a class:
an instance of it without arguments and a union that it alone is left of are written.
-/
namespace Ambient

namespace Ty

/-- A type that refers to a declaration by its name, and the type arguments. -/
inductive Refers : Ty → Name → List Ty → Prop
  | named (name : Name) : Refers (.named name) name []
  | classlike (c : ClassType Ty) : Refers (.classlike c) c.name []
  | templatized (base : Name) (args : List Ty) : Refers (.templatized base args) base args

/-- The instances of generic types that have a form of their own. -/
inductive BuiltIn : Name → List Ty → Prop
  | array (element : Ty) : BuiltIn "Array" [element]
  | index (key value : Ty) : BuiltIn "Object" [key, value]

def referenceText (ns name : Name) : List Ty → String
  | [] => name.relative ns
  | args => name.relative ns ++ "<" ++ ", ".intercalate (args.map (render ns)) ++ ">"

inductive Parent (ns : Name) : Ty → String → Prop
  | reference {t : Ty} {name : Name} {args : List Ty} (refers : Refers t name args)
    (plain : ¬ BuiltIn name args) : Parent ns t (referenceText ns name args)
  | array {element : Ty} {text : String} (operand : Operand ns element text) :
    Parent ns (.templatized "Array" [element]) (text ++ "[]")
  | index (key value : Ty) : Parent ns (.templatized "Object" [key, value])
      ("\x7b " ++ indexKey key (render ns key) ++ ": " ++ render ns value ++ " \x7d")
  | other {t : Ty} (unnamed : ∀ name args, ¬ Refers t name args) : Parent ns t (render ns t)

section References

variable {ns : Name} {t : Ty} {name : Name} {args : List Ty}

theorem Refers.unique (refers : Refers t name args) {name' : Name} {args' : List Ty}
    (refers' : Refers t name' args') : name' = name ∧ args' = args := by
  cases refers <;> cases refers' <;> exact ⟨rfl, rfl⟩

theorem not_builtIn_nil (name : Name) : ¬ BuiltIn name [] := by
  rintro ⟨⟩

theorem appliedText_eq (ns base : Name) (args : List Ty) :
    appliedText ns base (args.map (render ns)) = referenceText ns base args := by
  cases args <;> rfl

theorem render_templatized (plain : ¬ BuiltIn name args) :
    render ns (.templatized name args) = referenceText ns name args := by
  rw [render, renderList_eq, ← appliedText_eq]
  -- the built-in forms are told by the base and the number of arguments
  match args with
  | [] => rfl
  | [element] =>
    have other : name ≠ arrayBase := by
      rintro rfl
      exact plain (.array element)
    simp [templatizedText, other]
  | [key, value] =>
    have other : name ≠ objectBase := by
      rintro rfl
      exact plain (.index key value)
    simp [templatizedText, other]
  | _ :: _ :: _ :: _ => rfl

theorem parent_renderHeritage (ns : Name) (t : Ty) : Parent ns t (renderHeritage ns t) := by
  cases t with
  | named name => exact .reference (.named name) (not_builtIn_nil name)
  | classlike c => exact .reference (.classlike c) (not_builtIn_nil c.name)
  | templatized base args =>
    have same : renderHeritage ns (.templatized base args) = render ns (.templatized base args) :=
      rfl
    rw [same]
    by_cases builtIn : BuiltIn base args
    · cases builtIn with
      | array element => exact render_array ns element ▸ .array (operand_text ns element)
      | index key value => exact .index key value
    · exact render_templatized builtIn ▸ .reference (.templatized base args) builtIn
  | _ => exact .other nofun

theorem getLast?_append (a : String) {b : String} (filled : b ≠ "") :
    (a ++ b).toList.getLast? = b.toList.getLast? := by
  rw [String.toList_append, List.getLast?_append_of_ne_nil]
  simpa using filled

theorem getLast?_referenceText (ns name : Name) (filled : args ≠ []) :
    (referenceText ns name args).toList.getLast? = some '>' := by
  cases args with
  | nil => contradiction
  | cons => exact getLast?_append _ (by decide)

theorem Parent.reference_iff {text : String} (parent : Parent ns t text)
    (refers : Refers t name args) : text = referenceText ns name args ↔ ¬ BuiltIn name args := by
  cases parent with
  | reference refers' plain =>
    obtain ⟨rfl, rfl⟩ := refers.unique refers'
    exact iff_of_true rfl plain
  | @array element text operand =>
    obtain ⟨rfl, rfl⟩ := refers.unique (.templatized "Array" [element])
    refine iff_of_false (fun same => ?_) (not_not.mpr (.array element))
    have last := getLast?_referenceText ns "Array" (List.cons_ne_nil element [])
    rw [← same, getLast?_append _ (by decide)] at last
    contradiction
  | index key value =>
    obtain ⟨rfl, rfl⟩ := refers.unique (.templatized "Object" [key, value])
    refine iff_of_false (fun same => ?_) (not_not.mpr (.index key value))
    have last := getLast?_referenceText ns "Object" (List.cons_ne_nil key [value])
    rw [← same, getLast?_append _ (by decide)] at last
    contradiction
  | other unnamed => exact absurd refers (unnamed name args)

end References

/-- A type that refers to a name, where unions of one survivor may be around it. -/
def RefersTo (t : Ty) (name : Name) (args : List Ty) : Prop :=
  ∃ core, Degenerates t core ∧ Refers core name args

theorem refers_of_refersTo {t : Ty} {name : Name} {args : List Ty} (refers : t.RefersTo name args)
    (single : ∀ ts, t ≠ .union ts) : Refers t name args := by
  obtain ⟨core, d, refers⟩ := refers
  cases d with
  | refl => exact refers
  | @union ts => exact absurd rfl (single ts)

end Ty

theorem isRootObject_iff (t : Ty) :
    isRootObject t = true ↔ t = .named "Object" ∨ ∃ c, t = .classlike c ∧ c.name = "Object" := by
  cases t with
  | named name => simp [isRootObject, objectBase]
  | classlike c => simp [isRootObject, objectBase]
  | _ => simp [isRootObject]

/-- The test misses two of the ways in which a type refers to the root. -/
theorem isRootObject_of_refersTo {t : Ty} (refers : t.RefersTo "Object" []) :
    isRootObject t = true ↔ ¬ (t = .templatized "Object" [] ∨ ∃ ts, t = .union ts) := by
  cases t with
  | union ts => simp [isRootObject]
  | named name =>
    obtain ⟨rfl, -⟩ := (Ty.Refers.named name).unique (Ty.refers_of_refersTo refers (by simp))
    simp [isRootObject, objectBase]
  | classlike c =>
    obtain ⟨root, -⟩ := (Ty.Refers.classlike c).unique (Ty.refers_of_refersTo refers (by simp))
    simp [isRootObject, objectBase, ← root]
  | templatized base args =>
    obtain ⟨rfl, rfl⟩ :=
      (Ty.Refers.templatized base args).unique (Ty.refers_of_refersTo refers (by simp))
    simp [isRootObject]
  | _ => cases Ty.refers_of_refersTo refers (by simp)

theorem isRootObject_of_other {t : Ty} {name : Name} {args : List Ty}
    (refers : t.RefersTo name args) (other : name ≠ "Object") : isRootObject t = false := by
  rw [← Bool.not_eq_true, isRootObject_iff]
  rintro (rfl | ⟨c, rfl, root⟩)
  · have direct := Ty.refers_of_refersTo refers (by simp)
    exact other (direct.unique (.named "Object")).1.symm
  · have direct := Ty.refers_of_refersTo refers (by simp)
    exact other ((direct.unique (.classlike c)).1.symm.trans root)

def clauseText (keyword : String) : List String → String
  | [] => ""
  | entries => keyword ++ ", ".intercalate entries

theorem heritageClause_eq (keyword : String) (ns : Name) (parents : List Ty) :
    heritageClause keyword ns parents =
      clauseText keyword (parents.map (Ty.renderHeritage ns)) := by
  cases parents <;> rfl

theorem forall₂_parents (ns : Name) (parents : List Ty) :
    parents.Forall₂ (Ty.Parent ns) (parents.map (Ty.renderHeritage ns)) :=
  List.forall₂_map_right_iff.mpr (List.forall₂_same.mpr fun t _ => t.parent_renderHeritage ns)

theorem extendsClause_eq (ns : Name) (s : Ty) :
    heritageClause " extends " ns ((some s).toList.filter (!isRootObject ·)) =
      if isRootObject s then "" else " extends " ++ s.renderHeritage ns := by
  cases root : isRootObject s <;> simp [root, heritageClause, heritageList]

namespace Emission

variable (em : Emission) (ns : Name) (isDefault : Bool) (owner : Name) (c : ClassType Ty)

theorem items_of_class (kind : c.kind = .constructor) :
    (em.declaration ns isDefault ⟨owner, .classlike c⟩).items =
      [.block (classHeader ns owner.lastSegment c) (em.classBody ns owner c) ""] := by
  simp only [declaration, kind, classItems]

theorem items_of_named_interface (kind : c.kind = .interface)
    (form : em.config.policy.interfaceForm isDefault = .named) :
    (em.declaration ns isDefault ⟨owner, .classlike c⟩).items =
      .block (interfaceHeader ns owner.lastSegment c) (em.instanceLines ns owner c) "" ::
        em.companionItems ns owner c := by
  simp only [declaration, kind, interfaceItems, interfaceBlock_eq, form]
  rfl

/-- The clauses of a class and of an interface by name hold one entry for each parent. An entry for
a type that refers by name is a reference exactly if the type has no form of its own. -/
theorem heritage_references :
    (c.kind = .constructor → ∃ extended implemented body,
      (em.declaration ns isDefault ⟨owner, .classlike c⟩).items =
        [.block ("class " ++ owner.lastSegment ++ typeParameterList c.typeParams ++
          clauseText " extends " extended ++ clauseText " implements " implemented) body ""] ∧
      (c.superclass?.toList.filter (!isRootObject ·)).Forall₂ (Ty.Parent ns) extended ∧
      c.interfaces.Forall₂ (Ty.Parent ns) implemented) ∧
    (c.kind = .interface → em.config.policy.interfaceForm isDefault = .named →
      ∃ extended body companion,
        (em.declaration ns isDefault ⟨owner, .classlike c⟩).items =
          .block ("interface " ++ owner.lastSegment ++ typeParameterList c.typeParams ++
            clauseText " extends " extended) body "" :: companion ∧
        c.interfaces.Forall₂ (Ty.Parent ns) extended) ∧
    ∀ t text name args, Ty.Parent ns t text → Ty.Refers t name args →
      (text = Ty.referenceText ns name args ↔ ¬ Ty.BuiltIn name args) := by
  refine ⟨fun kind => ?_, fun kind form => ?_, fun t text name args => ?_⟩
  · refine ⟨_, _, em.classBody ns owner c, ?_, forall₂_parents ns _, forall₂_parents ns _⟩
    rw [items_of_class em ns isDefault owner c kind, classHeader, heritageClause_eq,
      heritageClause_eq]
  · refine ⟨_, em.instanceLines ns owner c, em.companionItems ns owner c, ?_, forall₂_parents ns _⟩
    rw [items_of_named_interface em ns isDefault owner c kind form, interfaceHeader,
      heritageClause_eq]
  · exact fun parent refers => parent.reference_iff refers

end Emission

def trayType : ClassType Ty where
  name := "ui.Tray"
  kind := .constructor
  superclass? := some (.templatized "ui.Box" [.primitive .string, .named "ui.Key"])
  interfaces := [.classlike (.empty "lib.Part" .constructor), .named "ui.Panel"]
  instanceType := .record []

def rackType : ClassType Ty where
  name := "ui.Rack"
  kind := .interface
  interfaces := [.classlike (.empty "ui.Panel" .interface)]
  instanceType := .record []

theorem tray_heritage_references :
    trayType.kind = .constructor ∧ rackType.kind = .interface ∧
      panelEmission.config.policy.interfaceForm true = .named ∧
      (∃ extended implemented body,
        (panelEmission.declaration "ui" true ⟨"ui.Tray", .classlike trayType⟩).items =
          [.block ("class " ++ Name.lastSegment "ui.Tray" ++ typeParameterList [] ++
            clauseText " extends " extended ++ clauseText " implements " implemented) body ""] ∧
        [Ty.templatized "ui.Box" [.primitive .string, .named "ui.Key"]].Forall₂
          (Ty.Parent "ui") extended ∧
        trayType.interfaces.Forall₂ (Ty.Parent "ui") implemented) ∧
      (∃ extended body companion,
        (panelEmission.declaration "ui" true ⟨"ui.Rack", .classlike rackType⟩).items =
          .block ("interface " ++ Name.lastSegment "ui.Rack" ++ typeParameterList [] ++
            clauseText " extends " extended) body "" :: companion ∧
        rackType.interfaces.Forall₂ (Ty.Parent "ui") extended) ∧
      ∀ text, Ty.Parent "ui" (.templatized "ui.Box" [.primitive .string, .named "ui.Key"]) text →
        text = "Box<string, Key>" := by
  obtain ⟨ofClass, -, -⟩ := panelEmission.heritage_references "ui" true "ui.Tray" trayType
  obtain ⟨-, ofInterface, each⟩ := panelEmission.heritage_references "ui" true "ui.Rack" rackType
  refine ⟨rfl, rfl, rfl, ofClass rfl, ofInterface rfl rfl, fun text parent => ?_⟩
  have own : ¬ Ty.BuiltIn "ui.Box" [.primitive .string, .named "ui.Key"] := by
    generalize base : "ui.Box" = name
    rintro ⟨⟩
    contradiction
  exact ((each _ text _ _ parent (.templatized _ _)).mpr own).trans (by decide)

def Dump.roster : Dump.ProgramSpec where
  exports := ["ui.Names"]
  symbols := [⟨"ui.Names", some (.function
    { constructor := true, superclass? := some (.templatized "Array" [.primitive .string]) })⟩]

def namesType : ClassType Ty where
  name := "ui.Names"
  kind := .constructor
  superclass? := some (.templatized "Array" [.primitive .string])
  instanceType := .record []

def Graph.rosters : Graph where
  symbols := .ofAscending [⟨"ui.Names", some (.classlike namesType)⟩] (by decide)
  exports := ⟨[("ui.Names", ())], by decide⟩

def rosterDocument : String :=
  "declare namespace ಠ_ಠ.declgen.ui \x7b\n" ++
  "  class Names extends string[] \x7b\x7d\n" ++
  "\x7d\n" ++
  "declare module 'goog:ui.Names' \x7b\n" ++
  "  import alias = ಠ_ಠ.declgen.ui.Names;\n" ++
  "  export default alias;\n" ++
  "\x7d\n"

/-- The class loads, and its superclass is written as an array and not as a reference. -/
theorem array_parent_bracketed :
    Dump.roster.toGraph = .ok .rosters ∧
      Graph.rosters.emit .throughNames {} ["ui.Names"] = .ok rosterDocument ∧
      Ty.Refers (.templatized "Array" [.primitive .string]) "Array" [.primitive .string] ∧
      (panelEmission.declaration "ui" true ⟨"ui.Names", .classlike namesType⟩).items =
        [.block "class Names extends string[]" [] ""] ∧
      "class Names extends string[]" ≠
        "class Names" ++ clauseText " extends " [Ty.referenceText "ui" "Array" [.primitive .string]]
      := by
  have emitted : Graph.rosters.emit .throughNames {} ["ui.Names"] = .ok rosterDocument := by
    rw [Graph.emit_eq_document]
    decide +kernel
  exact ⟨rfl, emitted, .templatized _ _, by decide, by decide⟩

namespace Emission

variable (em : Emission) (ns : Name) (isDefault : Bool) (owner : Name) (c : ClassType Ty)

/-- A class has no extends clause if its superclass is the root, as a named type or as a class. Any
other superclass has its clause: every one that refers to another name, but an instance of the root
without arguments and a union that the root is left of too. -/
theorem root_superclass (kind : c.kind = .constructor) :
    ∃ extended body,
      (em.declaration ns isDefault ⟨owner, .classlike c⟩).items =
        [.block ("class " ++ owner.lastSegment ++ typeParameterList c.typeParams ++ extended ++
          heritageClause " implements " ns c.interfaces) body ""] ∧
      (c.superclass? = none → extended = "") ∧
      ∀ s, c.superclass? = some s →
        (extended = "" ∨ extended = " extends " ++ s.renderHeritage ns) ∧
        (extended = "" ↔ s = .named "Object" ∨ ∃ d, s = .classlike d ∧ d.name = "Object") ∧
        (s.RefersTo "Object" [] →
          (extended = "" ↔ ¬ (s = .templatized "Object" [] ∨ ∃ ts, s = .union ts))) ∧
        ∀ name args, s.RefersTo name args → name ≠ "Object" →
          extended = " extends " ++ s.renderHeritage ns := by
  refine ⟨_, em.classBody ns owner c, items_of_class em ns isDefault owner c kind, ?_, ?_⟩
  · intro absent
    rw [absent]
    rfl
  · intro s present
    rw [present, extendsClause_eq]
    have filled : " extends " ++ s.renderHeritage ns ≠ "" := by simp
    have empty_iff : (if isRootObject s then "" else " extends " ++ s.renderHeritage ns) = "" ↔
        isRootObject s = true := by
      cases isRootObject s <;> simp [filled]
    rw [empty_iff]
    refine ⟨?_, isRootObject_iff s, isRootObject_of_refersTo, fun name args refers other => ?_⟩
    · cases isRootObject s <;> simp
    · rw [isRootObject_of_other refers other]
      rfl

end Emission

def heirOf (superclass : Ty) : ClassType Ty where
  name := "ui.Heir"
  kind := .constructor
  superclass? := some superclass
  instanceType := .record []

theorem heir_root_superclass :
    (heirOf (.named "ui.Object")).kind = .constructor ∧
      (heirOf (.named "Object")).kind = .constructor ∧
      (Ty.named "ui.Object").RefersTo "ui.Object" [] ∧ "ui.Object" ≠ "Object" ∧
      (∃ body, (panelEmission.declaration "ui" true
        ⟨"ui.Heir", .classlike (heirOf (.named "ui.Object"))⟩).items =
          [.block "class Heir extends Object" body ""]) ∧
      ∃ body, (panelEmission.declaration "ui" true
        ⟨"ui.Heir", .classlike (heirOf (.named "Object"))⟩).items =
          [.block "class Heir" body ""] := by
  have refers : (Ty.named "ui.Object").RefersTo "ui.Object" [] := ⟨_, .refl _, .named _⟩
  obtain ⟨clause, body, written, -, each⟩ :=
    panelEmission.root_superclass "ui" true "ui.Heir" (heirOf (.named "ui.Object")) rfl
  obtain ⟨-, -, -, other⟩ := each _ rfl
  obtain ⟨clause', body', written', -, each'⟩ :=
    panelEmission.root_superclass "ui" true "ui.Heir" (heirOf (.named "Object")) rfl
  obtain ⟨-, root, -, -⟩ := each' _ rfl
  have present : clause = " extends Object" := other _ _ refers (by decide)
  have absent : clause' = "" := root.mpr (.inl rfl)
  subst present absent
  exact ⟨rfl, rfl, refers, by decide, ⟨body, written⟩, body', written'⟩

/-- A class whose superclass is an instance of the root without arguments. -/
def Dump.heir : Dump.ProgramSpec where
  exports := ["ui.Heir"]
  symbols := [⟨"ui.Heir", some (.function
    { constructor := true, superclass? := some (.templatized "Object" []) })⟩]

def Graph.heirs : Graph where
  symbols :=
    .ofAscending [⟨"ui.Heir", some (.classlike (heirOf (.templatized "Object" [])))⟩] (by decide)
  exports := ⟨[("ui.Heir", ())], by decide⟩

def heirDocument : String :=
  "declare namespace ಠ_ಠ.declgen.ui \x7b\n" ++
  "  class Heir extends Object \x7b\x7d\n" ++
  "\x7d\n" ++
  "declare module 'goog:ui.Heir' \x7b\n" ++
  "  import alias = ಠ_ಠ.declgen.ui.Heir;\n" ++
  "  export default alias;\n" ++
  "\x7d\n"

/-- The class loads, and its superclass is the root and written. -/
theorem bare_root_extended :
    Dump.heir.toGraph = .ok .heirs ∧
      (Ty.templatized "Object" []).RefersTo "Object" [] ∧
      Ty.render "ui" (.templatized "Object" []) = "Object" ∧
      Graph.heirs.emit .throughNames {} ["ui.Heir"] = .ok heirDocument ∧
      (panelEmission.declaration "ui" true
        ⟨"ui.Heir", .classlike (heirOf (.templatized "Object" []))⟩).items =
          [.block "class Heir extends Object" [] ""] := by
  have emitted : Graph.heirs.emit .throughNames {} ["ui.Heir"] = .ok heirDocument := by
    rw [Graph.emit_eq_document]
    decide +kernel
  exact ⟨rfl, ⟨_, .refl _, .templatized _ _⟩, by decide, emitted, by decide⟩

end Ambient
