import Ambient.Dump.Convert
import Ambient.Proofs.Delimiters
import Ambient.Proofs.OneLine
import Ambient.Proofs.Survivors
import Mathlib.Data.List.Forall2

/-!
Comments about coerced keys. An index signature whose key is neither a number nor a string has a
comment with the key in it. Comments do not nest, so a comment ends too early as soon as the key in
it is written with a comment of its own. A text is told here by its comments, in the order in which
they are opened: each is at its place, and there is no delimiter but theirs.
-/
namespace Ambient

/-- A text that may stand between any two others: it has no delimiter, and none is made at its
ends. -/
def Solid (text : String) : Prop :=
  Uncommented text ∧ text.toList.head?.any isNeutral = true ∧
    text.toList.getLast?.any isNeutral = true

instance (text : String) : Decidable (Solid text) := inferInstanceAs (Decidable (_ ∧ _))

theorem Solid.apart_left {literal : String} (solid : Solid literal) (a b : List Char) :
    Apart (a ++ literal.toList) b := by
  obtain ⟨-, -, last⟩ := solid
  left
  cases ends : literal.toList.getLast? with
  | none => simp [ends] at last
  | some c => simpa [List.getLast?_append, ends] using last

theorem Solid.apart_right {literal : String} (solid : Solid literal) (a b : List Char) :
    Apart a (literal.toList ++ b) := by
  obtain ⟨-, first, -⟩ := solid
  right
  cases starts : literal.toList with
  | nil => simp [starts] at first
  | cons c cs => simpa [starts] using first

theorem apart_of_append {a b : List Char} (c : List Char) (apart : Apart a (b ++ c)) :
    Apart a b := by
  rcases apart with last | first
  · exact .inl last
  · cases b with
    | nil => exact .inr rfl
    | cons => exact .inr first

namespace Ty

/-- Whether the key of an index signature is coerced to a string, which is told in a comment. -/
def isCoerced : Ty → Bool
  | .primitive .number | .primitive .string => false
  | _ => true

def warning (ns : Name) (key : Ty) : String := " warning: coerced from " ++ render ns key ++ " "

/-- The key that is coerced where a generic type is written as an index signature. -/
def ownKeys (base : Name) : List Ty → List Ty
  | [key, _] => if base = objectBase ∧ key.isCoerced = true then [key] else []
  | _ => []

mutual

def coercedKeys : Ty → List Ty
  | .union ts => listKeys ts
  | .templatized base args => ownKeys base args ++ listKeys args
  | .record ps => tableKeys ps
  | .function f => functionKeys f
  | .primitive _ | .named _ | .templateVar _ | .enumeration _ | .enumElement _ | .classlike _
  | .prototype _ => []

def listKeys : List Ty → List Ty
  | [] => []
  | t :: ts => coercedKeys t ++ listKeys ts

def tableKeys : List (String × Ty) → List Ty
  | [] => []
  | (_, t) :: ps => coercedKeys t ++ tableKeys ps

def paramKeys : List (Param Ty) → List Ty
  | [] => []
  | ⟨_, t, _, _⟩ :: ps => coercedKeys t ++ paramKeys ps

def optionKeys : Option Ty → List Ty
  | none => []
  | some t => coercedKeys t

def functionKeys : FunctionType Ty → List Ty
  | ⟨_, params, returns?, _⟩ => paramKeys params ++ optionKeys returns?

end

/-- A text and the keys of its comments, in the order in which these are opened. -/
inductive Commented (ns : Name) : String → List Ty → Prop
  | plain {text : String} (free : Uncommented text) : Commented ns text []
  | append {a b : String} {keys more : List Ty} (first : Commented ns a keys)
    (second : Commented ns b more) (apart : Apart a.toList b.toList) :
    Commented ns (a ++ b) (keys ++ more)
  | comment {key : Ty} (inside : Commented ns (render ns key) key.coercedKeys) :
    Commented ns ("/*" ++ warning ns key ++ "*/") (key :: key.coercedKeys)

namespace Commented

variable {ns : Name} {a b text literal separator : String} {keys more : List Ty}

theorem after (solid : Solid literal) (c : Commented ns text keys) :
    Commented ns (literal ++ text) keys :=
  (plain solid.1).append c (solid.apart_left [] _)

theorem before (c : Commented ns text keys) (solid : Solid literal) :
    Commented ns (text ++ literal) keys := by
  have apart := solid.apart_right text.toList []
  rw [List.append_nil] at apart
  simpa using c.append (plain solid.1) apart

theorem join (first : Commented ns a keys) (solid : Solid literal) (second : Commented ns b more) :
    Commented ns (a ++ literal ++ b) (keys ++ more) := by
  rw [String.append_assoc]
  refine first.append (second.after solid) ?_
  rw [String.toList_append]
  exact solid.apart_right a.toList b.toList

theorem intercalate (solid : Solid separator) {texts : List String} {keys : List (List Ty)}
    (each : texts.Forall₂ (Commented ns) keys) :
    Commented ns (separator.intercalate texts) keys.flatten := by
  induction each with
  | nil => simpa using plain (by decide : Uncommented "")
  | cons first rest ih =>
    cases rest with
    | nil => simpa using first
    | cons =>
      rw [String.intercalate_cons_cons]
      exact first.join solid ih

theorem occurrences_warning (d : Delimiter) (key : Ty) :
    d.occurrences (warning ns key) = d.occurrences (render ns key) := by
  have start : Solid " warning: coerced from " := by decide
  have stop : Solid " " := by decide
  have none := (uncommented_iff _).mp start.1 d
  have none' := (uncommented_iff _).mp stop.1 d
  have apart := stop.apart_right (" warning: coerced from " ++ render ns key).toList []
  rw [List.append_nil] at apart
  have added := d.occurrences_append (start.apart_left [] (render ns key).toList)
  have whole := d.occurrences_append apart
  unfold warning
  omega

theorem occurrences_comment (d : Delimiter) (key : Ty) :
    d.occurrences ("/*" ++ warning ns key ++ "*/") = d.occurrences (render ns key) + 1 := by
  have blank : Solid " " := by decide
  have shown : warning ns key = " " ++ ("warning: coerced from " ++ render ns key) ++ " " := by
    unfold warning
    rw [← String.append_assoc]
    rfl
  have starts : Apart "/*".toList (warning ns key).toList := by
    rw [shown, String.append_assoc, String.toList_append]
    exact blank.apart_right _ _
  have stops : Apart ("/*" ++ warning ns key).toList "*/".toList := by
    rw [shown, ← String.append_assoc, String.toList_append]
    exact blank.apart_left _ _
  have ends : d.occurrences "/*" + d.occurrences "*/" = 1 := by cases d <;> decide
  have inside : d.occurrences (warning ns key) = d.occurrences (render ns key) :=
    occurrences_warning d key
  have opened := d.occurrences_append starts
  have whole := d.occurrences_append stops
  omega

theorem occurrences_eq (c : Commented ns text keys) (d : Delimiter) :
    d.occurrences text = keys.length := by
  induction c with
  | plain free => exact (uncommented_iff _).mp free d
  | append first second apart ih ih' =>
    rw [d.occurrences_append apart, ih, ih', List.length_append]
  | comment inside ih => rw [occurrences_comment, ih, List.length_cons]

/-- Each comment is at its place: as many are opened before it as there are keys before its own. -/
theorem comment_at (c : Commented ns text keys) {i : Nat} {key : Ty} (found : keys[i]? = some key) :
    ∃ before after, text = before ++ ("/*" ++ warning ns key ++ "*/") ++ after ∧
      Delimiter.opening.occurrences before = i ∧
      Commented ns (render ns key) key.coercedKeys := by
  induction c generalizing i with
  | plain => simp at found
  | @append a b keys more first second apart ih ih' =>
    by_cases early : i < keys.length
    · rw [List.getElem?_append_left early] at found
      obtain ⟨before, after, rfl, opened, inside⟩ := ih found
      exact ⟨before, after ++ b, by simp [String.append_assoc], opened, inside⟩
    · rw [List.getElem?_append_right (Nat.le_of_not_lt early)] at found
      obtain ⟨before, after, rfl, opened, inside⟩ := ih' found
      have start : Apart a.toList before.toList := by
        simp only [String.toList_append, List.append_assoc] at apart
        exact apart_of_append _ apart
      refine ⟨a ++ before, after, by simp [String.append_assoc], ?_, inside⟩
      rw [Delimiter.occurrences_append _ start, first.occurrences_eq, opened]
      omega
  | @comment outer inside ih =>
    cases i with
    | zero =>
      cases found
      exact ⟨"", "", by simp, rfl, inside⟩
    | succ i =>
      obtain ⟨before, after, shown, opened, within⟩ := ih found
      refine ⟨"/* warning: coerced from " ++ before, after ++ " */", ?_, ?_, within⟩
      · have whole : warning ns outer = " warning: coerced from " ++ render ns outer ++ " " := rfl
        rw [whole, shown, ← String.toList_inj]
        simp
      · have start : Apart "/* warning: coerced from ".toList before.toList := .inl (by decide)
        have literal : Delimiter.opening.occurrences "/* warning: coerced from " = 1 := by decide
        rw [Delimiter.occurrences_append _ start, literal, opened]
        omega

end Commented

theorem listKeys_eq (ts : List Ty) : listKeys ts = (ts.map coercedKeys).flatten := by
  induction ts with
  | nil => rfl
  | cons t ts ih => rw [listKeys, ih, List.map_cons, List.flatten_cons]

theorem tableKeys_eq (ps : Properties) :
    tableKeys ps = (ps.map fun p => p.2.coercedKeys).flatten := by
  induction ps with
  | nil => rfl
  | cons p ps ih => rw [tableKeys, ih, List.map_cons, List.flatten_cons]

theorem paramKeys_eq (ps : List (Param Ty)) :
    paramKeys ps = (ps.map fun p => p.type.coercedKeys).flatten := by
  induction ps with
  | nil => rfl
  | cons p ps ih => rw [paramKeys, ih, List.map_cons, List.flatten_cons]

theorem coercedKeys_of_isAbsence {t : Ty} (absent : t.isAbsence = true) : t.coercedKeys = [] := by
  cases t with
  | primitive p => rfl
  | _ => contradiction

theorem listKeys_kept (ts : List Ty) : listKeys (kept ts) = listKeys ts := by
  induction ts with
  | nil => rfl
  | cons t ts ih =>
    cases absent : t.isAbsence with
    | true => simp [kept_cons, absent, listKeys, ih, coercedKeys_of_isAbsence absent]
    | false => simp [kept_cons, absent, listKeys, ih]

section Texts

variable {ns : Name} {texts : List String} {keys : List (List Ty)}

theorem commented_typeParameters {names : List String} (free : ∀ n ∈ names, Uncommented n) :
    Commented ns (typeParameterList names) [] := by
  have each : names.Forall₂ (Commented ns) (names.map fun _ => []) :=
    List.forall₂_map_right_iff.mpr (List.forall₂_same.mpr fun n member => .plain (free n member))
  have inside := Commented.intercalate (by decide : Solid ", ") each
  have none : (names.map fun _ => ([] : List Ty)).flatten = [] := by simp
  rw [none] at inside
  cases names with
  | nil => exact .plain (by decide)
  | cons => exact (inside.after (by decide : Solid "<")).before (by decide : Solid ">")

theorem commented_unionText (each : texts.Forall₂ (Commented ns) keys) :
    Commented ns (unionText texts) keys.flatten := by
  have inside := Commented.intercalate (by decide : Solid " | ") each
  cases each with
  | nil => exact .plain (by decide)
  | cons first rest =>
    cases rest with
    | nil => simpa [unionText] using first
    | cons => exact (inside.after (by decide : Solid "(")).before (by decide : Solid ")")

theorem commented_recordText (each : texts.Forall₂ (Commented ns) keys) :
    Commented ns (recordText texts) keys.flatten := by
  have inside := Commented.intercalate (by decide : Solid ", ") each
  cases each with
  | nil => exact .plain (by decide)
  | cons => exact (inside.after (by decide : Solid "\x7b ")).before (by decide : Solid " \x7d")

theorem commented_appliedText {base : Name} (name : Uncommented base)
    (each : texts.Forall₂ (Commented ns) keys) :
    Commented ns (appliedText ns base texts) keys.flatten := by
  have inside := Commented.intercalate (by decide : Solid ", ") each
  have shown : Commented ns (base.relative ns) [] := .plain (Name.relative_uncommented ns name)
  cases each with
  | nil => exact shown
  | cons => exact (shown.join (by decide : Solid "<") inside).before (by decide : Solid ">")

theorem commented_indexKey {key : Ty} (inside : Commented ns (render ns key) key.coercedKeys) :
    Commented ns (indexKey key (render ns key))
      ((if key.isCoerced = true then [key] else []) ++ key.coercedKeys) := by
  unfold indexKey
  split
  · exact .plain (by decide)
  · exact .plain (by decide)
  · next number string =>
    have coerced : key.isCoerced = true := by
      unfold isCoerced
      split <;> simp_all
    have shown : "[/* warning: coerced from " ++ render ns key ++ " */ key: string]" =
        "[" ++ ("/*" ++ warning ns key ++ "*/") ++ " key: string]" := by
      have whole : warning ns key = " warning: coerced from " ++ render ns key ++ " " := rfl
      rw [whole, ← String.toList_inj]
      simp
    rw [shown, if_pos coerced]
    exact ((Commented.comment inside).after (by decide : Solid "[")).before
      (by decide : Solid " key: string]")

theorem commented_templatized {base : Name} (name : Uncommented base) {args : List Ty}
    (each : ∀ t ∈ args, Commented ns (render ns t) t.coercedKeys) :
    Commented ns (render ns (.templatized base args)) (coercedKeys (.templatized base args)) := by
  have all : (args.map (render ns)).Forall₂ (Commented ns) (args.map coercedKeys) := by
    rw [List.forall₂_map_left_iff, List.forall₂_map_right_iff, List.forall₂_same]
    exact each
  have applied := commented_appliedText name all
  rw [render, renderList_eq, coercedKeys, listKeys_eq]
  match args with
  | [] => exact applied
  | [element] =>
    have inside := each element (by simp)
    by_cases array : base = arrayBase
    · cases arrow : element.isArrow
      · simpa [templatizedText, array, arrow, ownKeys] using inside.before (by decide : Solid "[]")
      · simpa [templatizedText, array, arrow, ownKeys] using
          (inside.after (by decide : Solid "(")).before (by decide : Solid ")[]")
    · simpa [templatizedText, array, ownKeys] using applied
  | [key, value] =>
    by_cases object : base = objectBase
    · have opened := (commented_indexKey (each key (by simp))).after (by decide : Solid "\x7b ")
      have filled := opened.join (by decide : Solid ": ") (each value (by simp))
      simpa [templatizedText, object, ownKeys] using filled.before (by decide : Solid " \x7d")
    · simpa [templatizedText, object, ownKeys] using applied
  | _ :: _ :: _ :: _ => exact applied

theorem commented_fields {ps : Properties} (names : ∀ p ∈ ps, Uncommented p.1)
    (each : ∀ p ∈ ps, Commented ns (render ns p.2) p.2.coercedKeys) :
    (renderFields ns ps).Forall₂ (Commented ns) (ps.map fun p => p.2.coercedKeys) := by
  rw [renderFields_eq, List.forall₂_map_left_iff, List.forall₂_map_right_iff, List.forall₂_same]
  rintro ⟨name, t⟩ member
  have key : Commented ns (Text.propertyKey name) [] :=
    .plain (propertyKey_uncommented (names _ member))
  exact key.join (by decide : Solid ": ") (each _ member)

theorem commented_param (index : Nat) {p : Param Ty} (name : ∀ n ∈ p.name?, Uncommented n)
    (type : Commented ns (render ns p.type) p.type.coercedKeys) :
    Commented ns (renderParam ns index p) p.type.coercedKeys := by
  obtain ⟨name?, t, optional, variadic⟩ := p
  have shown : Commented ns (name?.getD (positionalName index)) [] := by
    cases name? with
    | none => exact .plain (positionalName_uncommented index)
    | some n => exact .plain (name n rfl)
  cases variadic with
  | true =>
    have element : Commented ns
        (if t.isAnyLike || t.isParenthesized then render ns t else "(" ++ render ns t ++ ")")
        t.coercedKeys := by
      split
      · exact type
      · exact (type.after (by decide : Solid "(")).before (by decide : Solid ")")
    exact ((shown.after (by decide : Solid "...")).join (by decide : Solid ": ") element).before
      (by decide : Solid "[]")
  | false =>
    cases optional with
    | true =>
      exact (shown.before (by decide : Solid "?")).join (by decide : Solid ": ") type
    | false => simpa [renderParam, paramText] using shown.join (by decide : Solid ": ") type

theorem commented_params {ps : List (Param Ty)} (names : ∀ p ∈ ps, ∀ n ∈ p.name?, Uncommented n)
    (each : ∀ p ∈ ps, Commented ns (render ns p.type) p.type.coercedKeys) (index : Nat) :
    (renderParams ns index ps).Forall₂ (Commented ns) (ps.map fun p => p.type.coercedKeys) := by
  induction ps generalizing index with
  | nil => exact .nil
  | cons p ps ih =>
    obtain ⟨name, names⟩ := List.forall_mem_cons.mp names
    obtain ⟨first, rest⟩ := List.forall_mem_cons.mp each
    exact .cons (commented_param index name first) (ih names rest (index + 1))

theorem commented_arrow {typeParams : List String} {params : List (Param Ty)} {returns? : Option Ty}
    (receiver? : Option Ty) (generic : ∀ n ∈ typeParams, Uncommented n)
    (inputs : (renderParams ns 0 params).Forall₂ (Commented ns)
      (params.map fun p => p.type.coercedKeys))
    (output : Commented ns (renderReturn ns returns?) (optionKeys returns?)) :
    Commented ns (renderArrow ns ⟨typeParams, params, returns?, receiver?⟩)
      (functionKeys ⟨typeParams, params, returns?, receiver?⟩) := by
  have list := Commented.intercalate (by decide : Solid ", ") inputs
  have opened := (commented_typeParameters generic).join (by decide : Solid "(") list
  rw [renderArrow, functionKeys, paramKeys_eq]
  exact opened.join (by decide : Solid ") => ") output

end Texts

variable (ns : Name)

mutual

theorem render_commented (t : Ty) (free : ∀ s ∈ t.texts, Uncommented s) :
    Commented ns (render ns t) t.coercedKeys := by
  match t with
  | .primitive p =>
    have shown : Uncommented p.keyword := by cases p <;> decide
    exact .plain shown
  | .named name => exact .plain (Name.relative_uncommented ns (free name (by simp [texts])))
  | .enumElement name => exact .plain (Name.relative_uncommented ns (free name (by simp [texts])))
  | .prototype name => exact .plain (Name.relative_uncommented ns (free name (by simp [texts])))
  | .templateVar name => exact .plain (free name (by simp [texts]))
  | .union ts =>
    have each : ∀ t ∈ kept ts, Commented ns (render ns t) t.coercedKeys :=
      fun t member => each_commented ts free t (List.mem_of_mem_filter member)
    rw [render_union, coercedKeys, ← listKeys_kept, listKeys_eq]
    refine commented_unionText ?_
    rw [List.forall₂_map_left_iff, List.forall₂_map_right_iff, List.forall₂_same]
    exact each
  | .templatized base args =>
    obtain ⟨name, rest⟩ := List.forall_mem_cons.mp free
    exact commented_templatized name (each_commented args rest)
  | .record ps =>
    obtain ⟨names, each⟩ := fields_commented ps free
    rw [render, coercedKeys, tableKeys_eq]
    exact commented_recordText (commented_fields names each)
  | .enumeration ⟨name, element, members⟩ =>
    have shown : Commented ns (name.relative ns) [] :=
      .plain (Name.relative_uncommented ns (free name (by simp [texts, enumTexts])))
    exact shown.after (by decide : Solid "typeof ")
  | .function ⟨typeParams, params, returns?, receiver?⟩ =>
    simp only [texts, functionTexts, List.forall_mem_append] at free
    obtain ⟨⟨generic, inputs⟩, output⟩ := free
    obtain ⟨names, each⟩ := params_commented params inputs
    exact commented_arrow receiver? generic (commented_params names each 0)
      (return_commented returns? output)
  | .classlike ⟨name, kind, _, _, _, _, _, _, _⟩ =>
    have shown : Commented ns (name.relative ns) [] :=
      .plain (Name.relative_uncommented ns (free name (by simp [texts, classTexts])))
    cases kind with
    | constructor => exact shown.after (by decide : Solid "typeof ")
    | interface => exact shown

theorem each_commented (ts : List Ty) (free : ∀ s ∈ listTexts ts, Uncommented s) :
    ∀ t ∈ ts, Commented ns (render ns t) t.coercedKeys := by
  match ts with
  | [] => simp
  | t :: ts =>
    obtain ⟨first, rest⟩ := List.forall_mem_append.mp free
    exact List.forall_mem_cons.mpr ⟨render_commented t first, each_commented ts rest⟩

theorem fields_commented (ps : List (String × Ty)) (free : ∀ s ∈ tableTexts ps, Uncommented s) :
    (∀ p ∈ ps, Uncommented p.1) ∧ ∀ p ∈ ps, Commented ns (render ns p.2) p.2.coercedKeys := by
  match ps with
  | [] => simp
  | (key, t) :: ps =>
    obtain ⟨first, rest⟩ := List.forall_mem_append.mp free
    obtain ⟨name, type⟩ := List.forall_mem_cons.mp first
    obtain ⟨names, each⟩ := fields_commented ps rest
    exact ⟨List.forall_mem_cons.mpr ⟨name, names⟩,
      List.forall_mem_cons.mpr ⟨render_commented t type, each⟩⟩

theorem params_commented (ps : List (Param Ty)) (free : ∀ s ∈ paramTexts ps, Uncommented s) :
    (∀ p ∈ ps, ∀ n ∈ p.name?, Uncommented n) ∧
      ∀ p ∈ ps, Commented ns (render ns p.type) p.type.coercedKeys := by
  match ps with
  | [] => simp
  | ⟨name?, t, optional, variadic⟩ :: ps =>
    simp only [paramTexts, List.forall_mem_append, Option.mem_toList] at free
    obtain ⟨⟨name, type⟩, rest⟩ := free
    obtain ⟨names, each⟩ := params_commented ps rest
    exact ⟨List.forall_mem_cons.mpr ⟨name, names⟩,
      List.forall_mem_cons.mpr ⟨render_commented t type, each⟩⟩

theorem return_commented (t? : Option Ty) (free : ∀ s ∈ optionTexts t?, Uncommented s) :
    Commented ns (renderReturn ns t?) (optionKeys t?) := by
  match t? with
  | none => exact .plain (by decide : Uncommented "void")
  | some t => exact render_commented t free

end

/-- A type with names that have no delimiter is written with one comment for each coerced key, at
its place, and with no delimiter but theirs. The text of a comment has the end of another one
exactly if a key is coerced inside its own key. -/
theorem comments_delimited (t : Ty) (free : ∀ s ∈ t.texts, Uncommented s) :
    (∀ d : Delimiter, d.occurrences (render ns t) = t.coercedKeys.length) ∧
      ∀ i key, t.coercedKeys[i]? = some key →
        (∃ before after, render ns t = before ++ ("/*" ++ warning ns key ++ "*/") ++ after ∧
          Delimiter.opening.occurrences before = i) ∧
        (Delimiter.closing.occurrences (warning ns key) = 0 ↔ key.coercedKeys = []) := by
  have commented := render_commented ns t free
  refine ⟨commented.occurrences_eq, fun i key found => ?_⟩
  obtain ⟨before, after, shown, opened, inside⟩ := commented.comment_at found
  refine ⟨⟨before, after, shown, opened⟩, ?_⟩
  rw [Commented.occurrences_warning, inside.occurrences_eq, List.length_eq_zero_iff]

def lookupType : Ty :=
  .record [("byKey", .templatized "Object" [.named "ui.Key", .primitive .number]),
    ("byRow", .templatized "Object" [.templatized "Array" [.named "ui.Row"], .primitive .string])]

theorem lookup_comments_delimited :
    (∀ s ∈ lookupType.texts, Uncommented s) ∧
      Delimiter.opening.occurrences (render "ui" lookupType) = 2 ∧
      (∃ before after,
        render "ui" lookupType = before ++ "/* warning: coerced from Row[] */" ++ after ∧
          Delimiter.opening.occurrences before = 1) ∧
      Delimiter.closing.occurrences " warning: coerced from Row[] " = 0 := by
  have free : ∀ s ∈ lookupType.texts, Uncommented s := by decide
  obtain ⟨total, each⟩ := comments_delimited "ui" lookupType free
  obtain ⟨place, delimited⟩ := each 1 (.templatized "Array" [.named "ui.Row"]) rfl
  exact ⟨free, total .opening, place, delimited.mpr rfl⟩

end Ty

/-- A function that returns an index signature, whose key is an index signature with a coerced
key. -/
def Dump.ledger : Dump.ProgramSpec where
  exports := ["ui.totals"]
  symbols := [⟨"ui.totals", some (.function
    { returns? := some (.templatized "Object"
        [.templatized "Object" [.named "ui.Key", .primitive .number], .primitive .string]) })⟩]

def Ty.counts : Ty := .templatized "Object" [.named "ui.Key", .primitive .number]

def Ty.totals : Ty :=
  .function { returns? := some (.templatized "Object" [counts, .primitive .string]) }

def Graph.ledgers : Graph where
  symbols := .ofAscending [⟨"ui.totals", some Ty.totals⟩] (by decide)
  exports := ⟨[("ui.totals", ())], by decide⟩

def ledgerDocument : String :=
  "declare namespace ಠ_ಠ.declgen.ui \x7b\n" ++
  "  function totals(): \x7b [/* warning: coerced from " ++
  "\x7b [/* warning: coerced from Key */ key: string]: number \x7d */ key: string]: string \x7d;\n" ++
  "\x7d\n" ++
  "declare module 'goog:ui.totals' \x7b\n" ++
  "  import alias = ಠ_ಠ.declgen.ui.totals;\n" ++
  "  export default alias;\n" ++
  "\x7d\n"

/-- The function loads and its names have no delimiter, and the end of the comment about the inner
key stands in the text of the outer comment. -/
theorem Ty.inner_comment_closes :
    Dump.ledger.toGraph = .ok .ledgers ∧
      Graph.ledgers.emit .throughNames {} ["ui.totals"] = .ok ledgerDocument ∧
      (∀ s ∈ totals.texts, Uncommented s) ∧
      render "ui" totals =
        "() => \x7b [" ++ ("/*" ++ warning "ui" counts ++ "*/") ++ " key: string]: string \x7d" ∧
      warning "ui" counts = " warning: coerced from \x7b [/* warning: coerced from Key " ++ "*/" ++
        " key: string]: number \x7d " := by
  have emitted : Graph.ledgers.emit .throughNames {} ["ui.totals"] = .ok ledgerDocument := by
    rw [Graph.emit_eq_document]
    decide +kernel
  exact ⟨rfl, emitted, by decide, by decide, by decide⟩

end Ambient
