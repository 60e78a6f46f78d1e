import Ambient.Proofs.Parents
import Ambient.Proofs.Paths

namespace Ambient

def OneLine (text : String) : Prop := '\n' ∉ text.toList

instance (text : String) : Decidable (OneLine text) := inferInstanceAs (Decidable (_ ∉ _))

@[simp] theorem oneLine_append (a b : String) : OneLine (a ++ b) ↔ OneLine a ∧ OneLine b := by
  simp [OneLine]

theorem oneLine_ofList (cs : List Char) : OneLine (String.ofList cs) ↔ '\n' ∉ cs := by
  simp [OneLine]

theorem oneLine_join {texts : List String} (each : ∀ t ∈ texts, OneLine t) :
    OneLine (String.join texts) := by
  simpa [OneLine] using each

theorem oneLine_intercalate {separator : String} (plain : OneLine separator) {texts : List String}
    (each : ∀ t ∈ texts, OneLine t) : OneLine (separator.intercalate texts) := by
  induction texts with
  | nil => simp [OneLine]
  | cons t texts ih =>
    obtain ⟨first, rest⟩ := List.forall_mem_cons.mp each
    cases texts with
    | nil => simpa using first
    | cons u texts =>
      rw [String.intercalate_cons_cons]
      simp [first, plain, ih rest]

namespace Name

theorem child_oneLine (ns : Name) (segment : String) :
    OneLine (ns.child segment) ↔ OneLine ns ∧ OneLine segment := by
  unfold child
  simp [show OneLine "." by decide]

theorem parts_oneLine {n : Name} (dotted : '.' ∈ n.toList) (plain : OneLine n) :
    OneLine n.parent ∧ OneLine n.lastSegment := by
  rwa [← child_oneLine, child_parent_lastSegment dotted]

theorem parent_oneLine {n : Name} (plain : OneLine n) : OneLine n.parent := by
  by_cases dotted : '.' ∈ n.toList
  · exact (parts_oneLine dotted plain).1
  · rw [parent_of_plain dotted]
    decide

theorem lastSegment_oneLine {n : Name} (plain : OneLine n) : OneLine n.lastSegment := by
  by_cases dotted : '.' ∈ n.toList
  · exact (parts_oneLine dotted plain).2
  · rwa [lastSegment_of_plain dotted]

theorem relative_oneLine {n : Name} (ns : Name) (plain : OneLine n) : OneLine (n.relative ns) := by
  unfold relative under?
  dsimp only
  split_ifs
  · exact plain
  · rw [Option.getD_some, oneLine_ofList]
    exact fun line => plain (List.mem_of_mem_drop line)
  · exact plain

end Name

theorem mem_escapeKey_iff (cs : List Char) : '\n' ∈ Text.escapeKey cs ↔ '\n' ∈ cs := by
  induction cs with
  | nil => simp [Text.escapeKey]
  | cons c cs ih =>
    unfold Text.escapeKey
    split <;> simp [ih]

/-- A key is quoted and its quotes are escaped, but a line feed stays in it. -/
theorem propertyKey_oneLine (key : String) : OneLine (Text.propertyKey key) ↔ OneLine key := by
  unfold Text.propertyKey
  split
  · rfl
  · simp [Text.quotedKey, OneLine, mem_escapeKey_iff]

theorem positionalName_oneLine (index : Nat) : OneLine (positionalName index) := by
  unfold positionalName
  split
  · next letter found =>
    have known : letter ∈ parameterLetters := List.mem_of_getElem? found
    have plain : '\n' ∉ parameterLetters := by decide
    have other : '\n' ≠ letter := by
      rintro rfl
      exact plain known
    simpa [OneLine] using other
  · have digits : OneLine (toString index) := by
      rw [Nat.toString_eq_repr, Nat.repr, oneLine_ofList]
      intro line
      have digit := Nat.isDigit_of_mem_toDigits (b := 10) (by decide) (by decide) line
      contradiction
    exact (oneLine_append _ _).mpr ⟨by decide, digits⟩

theorem typeParameterList_oneLine {names : List String} (plain : ∀ n ∈ names, OneLine n) :
    OneLine (typeParameterList names) := by
  cases names with
  | nil => decide
  | cons n names =>
    have inside := oneLine_intercalate (by decide : OneLine ", ") plain
    simp +decide [typeParameterList, inside]

namespace Ty

section Texts

variable {texts : List String} (plain : ∀ t ∈ texts, OneLine t)
include plain

theorem unionText_oneLine : OneLine (unionText texts) := by
  have inside := oneLine_intercalate (by decide : OneLine " | ") plain
  unfold unionText
  split
  · decide
  · simpa using plain
  · simp +decide [inside]

theorem recordText_oneLine : OneLine (recordText texts) := by
  have inside := oneLine_intercalate (by decide : OneLine ", ") plain
  unfold recordText
  split
  · decide
  · simp +decide [inside]

theorem appliedText_oneLine (ns : Name) {base : Name} (name : OneLine base) :
    OneLine (appliedText ns base texts) := by
  have inside := oneLine_intercalate (by decide : OneLine ", ") plain
  have shown := Name.relative_oneLine ns name
  unfold appliedText
  split
  · exact shown
  · simp +decide [inside, shown]

theorem templatizedText_oneLine (ns : Name) {base : Name} (name : OneLine base) (args : List Ty) :
    OneLine (templatizedText ns base args texts) := by
  have applied := appliedText_oneLine plain ns name
  unfold templatizedText
  split
  · split_ifs <;> simp_all +decide
  · unfold indexKey
    split_ifs
    · split <;> simp_all +decide
    · exact applied
  · exact applied

end Texts

theorem paramText_oneLine (index : Nat) {name? : Option String} (name : ∀ n ∈ name?, OneLine n)
    (type : Ty) (optional variadic : Bool) {text : String} (plain : OneLine text) :
    OneLine (paramText index name? type optional variadic text) := by
  have shown : OneLine (name?.getD (positionalName index)) := by
    cases name? with
    | none => exact positionalName_oneLine index
    | some n => exact name n rfl
  unfold paramText
  dsimp only
  split_ifs <;> simp +decide [shown, plain]

mutual

/-- The names and keys that can be written of a type or its declaration. -/
def texts : Ty → List String
  | .primitive _ => []
  | .named name | .templateVar name | .enumElement name | .prototype name => [name]
  | .union ts => listTexts ts
  | .templatized base args => base :: listTexts args
  | .record ps => tableTexts ps
  | .enumeration e => enumTexts e
  | .function f => functionTexts f
  | .classlike c => classTexts c

def listTexts : List Ty → List String
  | [] => []
  | t :: ts => texts t ++ listTexts ts

def tableTexts : List (String × Ty) → List String
  | [] => []
  | (key, t) :: ps => key :: texts t ++ tableTexts ps

def paramTexts : List (Param Ty) → List String
  | [] => []
  | ⟨name?, t, _, _⟩ :: ps => name?.toList ++ texts t ++ paramTexts ps

def optionTexts : Option Ty → List String
  | none => []
  | some t => texts t

def enumTexts : EnumType Ty → List String
  | ⟨name, element, members⟩ => name :: texts element ++ members.map (·.1)

def functionTexts : FunctionType Ty → List String
  | ⟨typeParams, params, returns?, _⟩ => typeParams ++ paramTexts params ++ optionTexts returns?

def classTexts : ClassType Ty → List String
  | ⟨name, _, typeParams, superclass?, interfaces, params, instanceType, methods, statics⟩ =>
    name :: typeParams ++ optionTexts superclass? ++ listTexts interfaces ++ paramTexts params
      ++ texts instanceType ++ tableTexts methods ++ tableTexts statics

end

variable (ns : Name)

mutual

theorem render_oneLine (t : Ty) (plain : ∀ s ∈ t.texts, OneLine s) : OneLine (t.render ns) := by
  match t with
  | .primitive p => cases p <;> simp +decide [render, Primitive.keyword]
  | .named name => exact Name.relative_oneLine ns (plain name (by simp [texts]))
  | .enumElement name => exact Name.relative_oneLine ns (plain name (by simp [texts]))
  | .prototype name => exact Name.relative_oneLine ns (plain name (by simp [texts]))
  | .templateVar name => exact plain name (by simp [texts])
  | .union ts => exact unionText_oneLine (renderKept_oneLine ts plain)
  | .templatized base args =>
    obtain ⟨name, rest⟩ := List.forall_mem_cons.mp plain
    exact templatizedText_oneLine (renderList_oneLine args rest) ns name args
  | .record ps => exact recordText_oneLine (renderFields_oneLine ps plain)
  | .enumeration ⟨name, element, members⟩ =>
    have shown := Name.relative_oneLine ns (plain name (by simp [texts, enumTexts]))
    simp +decide [render, shown]
  | .function f => exact renderArrow_oneLine f plain
  | .classlike ⟨name, kind, _, _, _, _, _, _, _⟩ =>
    have shown := Name.relative_oneLine ns (plain name (by simp [texts, classTexts]))
    cases kind <;> simp +decide [render, shown]

theorem renderList_oneLine (ts : List Ty) (plain : ∀ s ∈ listTexts ts, OneLine s) :
    ∀ text ∈ renderList ns ts, OneLine text := by
  match ts with
  | [] => simp [renderList]
  | t :: ts =>
    obtain ⟨first, rest⟩ := List.forall_mem_append.mp plain
    exact List.forall_mem_cons.mpr ⟨render_oneLine t first, renderList_oneLine ts rest⟩

theorem renderKept_oneLine (ts : List Ty) (plain : ∀ s ∈ listTexts ts, OneLine s) :
    ∀ text ∈ renderKept ns ts, OneLine text := by
  match ts with
  | [] => simp [renderKept]
  | t :: ts =>
    obtain ⟨first, rest⟩ := List.forall_mem_append.mp plain
    have others := renderKept_oneLine ts rest
    rw [renderKept]
    split
    · exact others
    · exact List.forall_mem_cons.mpr ⟨render_oneLine t first, others⟩

theorem renderFields_oneLine (ps : List (String × Ty)) (plain : ∀ s ∈ tableTexts ps, OneLine s) :
    ∀ text ∈ renderFields ns ps, OneLine text := by
  match ps with
  | [] => simp [renderFields]
  | (key, t) :: ps =>
    obtain ⟨first, rest⟩ := List.forall_mem_append.mp plain
    obtain ⟨name, type⟩ := List.forall_mem_cons.mp first
    have value := render_oneLine t type
    have field : OneLine (renderField ns (key, t)) := by
      simp +decide [renderField, propertyKey_oneLine, name, value]
    exact List.forall_mem_cons.mpr ⟨field, renderFields_oneLine ps rest⟩

theorem renderArrow_oneLine (f : FunctionType Ty) (plain : ∀ s ∈ functionTexts f, OneLine s) :
    OneLine (renderArrow ns f) := by
  match f with
  | ⟨typeParams, params, returns?, _⟩ =>
    simp only [functionTexts, List.forall_mem_append] at plain
    obtain ⟨⟨generic, inputs⟩, output⟩ := plain
    have first := typeParameterList_oneLine generic
    have second := oneLine_intercalate (by decide : OneLine ", ")
      (renderParams_oneLine 0 params inputs)
    have third := renderReturn_oneLine returns? output
    simp +decide [renderArrow, first, second, third]

theorem renderParams_oneLine (index : Nat) (ps : List (Param Ty))
    (plain : ∀ s ∈ paramTexts ps, OneLine s) : ∀ text ∈ renderParams ns index ps, OneLine text := by
  match ps with
  | [] => simp [renderParams]
  | ⟨name?, t, optional, variadic⟩ :: ps =>
    simp only [paramTexts, List.forall_mem_append, Option.mem_toList] at plain
    obtain ⟨⟨name, type⟩, rest⟩ := plain
    have value := render_oneLine t type
    exact List.forall_mem_cons.mpr ⟨paramText_oneLine index name t optional variadic value,
      renderParams_oneLine (index + 1) ps rest⟩

theorem renderReturn_oneLine (t? : Option Ty) (plain : ∀ s ∈ optionTexts t?, OneLine s) :
    OneLine (renderReturn ns t?) := by
  match t? with
  | none => simp +decide [renderReturn]
  | some t => exact render_oneLine t plain

end

theorem renderHeritage_oneLine {t : Ty} (plain : ∀ s ∈ t.texts, OneLine s) :
    OneLine (t.renderHeritage ns) := by
  unfold renderHeritage
  split
  · next c =>
    cases c
    exact Name.relative_oneLine ns (plain _ (by simp [texts, classTexts]))
  · exact render_oneLine ns _ plain

theorem parameterList_oneLine {params : List (Param Ty)}
    (plain : ∀ s ∈ paramTexts params, OneLine s) : OneLine (parameterList ns params) :=
  oneLine_intercalate (by decide) (renderParams_oneLine ns 0 params plain)

theorem renderSignature_oneLine {f : FunctionType Ty} (plain : ∀ s ∈ functionTexts f, OneLine s) :
    OneLine (renderSignature ns f) := by
  obtain ⟨typeParams, params, returns?, _⟩ := f
  simp only [functionTexts, List.forall_mem_append] at plain
  obtain ⟨⟨generic, inputs⟩, output⟩ := plain
  have first := typeParameterList_oneLine generic
  have second := parameterList_oneLine ns inputs
  have third := renderReturn_oneLine ns returns? output
  simp +decide [renderSignature, first, second, third]

theorem listTexts_eq (ts : List Ty) : listTexts ts = ts.flatMap texts := by
  induction ts with
  | nil => rfl
  | cons t ts ih => rw [listTexts, ih, List.flatMap_cons]

theorem tableTexts_eq (table : Properties) :
    tableTexts table = table.flatMap fun m => m.1 :: m.2.texts := by
  induction table with
  | nil => rfl
  | cons m table ih => rw [tableTexts, ih, List.flatMap_cons]

end Ty

end Ambient
