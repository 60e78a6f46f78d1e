import Ambient.Proofs.Comparison

namespace Ambient

/-- Whether a text starts with a sign that is no blank. -/
def Begins (text : String) : Prop := text.toList.head?.any (· ≠ ' ') = true

instance (text : String) : Decidable (Begins text) := inferInstanceAs (Decidable (_ = true))

theorem begins_append {text : String} (begins : Begins text) (more : String) :
    Begins (text ++ more) := by
  unfold Begins at begins ⊢
  cases chars : text.toList with
  | nil => simp [chars] at begins
  | cons c cs => simpa [chars] using begins

theorem begins_propertyKey (key : String) : Begins (Text.propertyKey key) := by
  unfold Text.propertyKey
  split
  · next identifier =>
    unfold Text.isIdentifier at identifier
    unfold Begins
    cases chars : key.toList with
    | nil => simp [chars] at identifier
    | cons c cs =>
      have blank : Text.startsIdentifier ' ' = false := by decide +kernel
      have other : c ≠ ' ' := by
        rintro rfl
        simp [chars, blank] at identifier
      simpa using other
  · exact begins_append (begins_append (by decide) _) _

theorem begins_memberSignature (ns : Name) (key : String) (type : Ty) :
    Begins (memberSignature ns key type) := by
  have quoted := begins_propertyKey key
  unfold memberSignature
  split <;> simp only [String.append_assoc] <;> exact begins_append quoted _

theorem begins_staticSignature (ns : Name) (key : String) (type : Ty) :
    Begins (staticSignature ns key type) := by
  unfold staticSignature staticEnumComment
  split <;> exact begins_append (by decide) _

theorem begins_companionEntry (ns : Name) (key : String) (type : Ty) :
    Begins (companionEntry ns key type) := by
  have quoted := begins_propertyKey key
  unfold companionEntry staticEnumComment
  split
  · exact begins_append (by decide) _
  · simp only [String.append_assoc]
    exact begins_append quoted _

def Item.starts : Item → List String
  | line text => [text]
  | block header body _ => header :: body

namespace Emission

variable (em : Emission) (ns owner : Name) (c : ClassType Ty)

theorem begins_instanceLines : ∀ text ∈ em.instanceLines ns owner c, Begins text := by
  rw [instanceLines, List.forall_mem_map]
  exact fun m _ => begins_memberSignature ns m.1 m.2

theorem begins_staticLines {write : String → Ty → String}
    (each : ∀ key type, Begins (write key type)) :
    ∀ text ∈ em.staticLines write owner c, Begins text := by
  rw [staticLines, List.forall_mem_map]
  exact fun m _ => each m.1 m.2

theorem begins_constructorLines (params : List (Param Ty)) :
    ∀ text ∈ constructorLines ns params, Begins text := by
  unfold constructorLines
  split
  · simp
  · simp only [List.forall_mem_singleton, String.append_assoc]
    exact begins_append (by decide) _

theorem begins_classItems :
    ∀ item ∈ em.classItems ns owner c, ∀ text ∈ item.starts, Begins text := by
  simp only [classItems, List.forall_mem_singleton, Item.starts, List.forall_mem_cons, classBody,
    List.forall_mem_append, classHeader, String.append_assoc]
  exact ⟨begins_append (by decide) _, ⟨begins_constructorLines ns c.params,
    em.begins_instanceLines ns owner c⟩, em.begins_staticLines owner c (begins_staticSignature ns)⟩

theorem begins_interfaceItems (isDefault : Bool) :
    ∀ item ∈ em.interfaceItems ns isDefault owner c, ∀ text ∈ item.starts, Begins text := by
  have fields := em.begins_instanceLines ns owner c
  have statics := em.begins_staticLines owner c (begins_companionEntry ns)
  refine List.forall_mem_cons.mpr ⟨?_, ?_⟩
  · unfold interfaceBlock interfaceHeader inlineHeader
    simp only [String.append_assoc]
    split
    · exact List.forall_mem_cons.mpr ⟨begins_append (by decide) _, fields⟩
    · exact List.forall_mem_cons.mpr ⟨begins_append (by decide) _, fields⟩
  · unfold companionItems
    simp only [String.append_assoc]
    split
    · simp
    · exact List.forall_mem_singleton.mpr
        (List.forall_mem_cons.mpr ⟨begins_append (by decide) _, statics⟩)

theorem begins_enumItems (name : String) (e : EnumType Ty) :
    ∀ item ∈ enumItems ns name e, ∀ text ∈ item.starts, Begins text := by
  simp only [enumItems, String.append_assoc]
  refine List.forall_mem_cons.mpr ⟨?_, List.forall_mem_singleton.mpr ?_⟩
  · exact List.forall_mem_singleton.mpr (begins_append (by decide) _)
  · refine List.forall_mem_cons.mpr ⟨begins_append (by decide) _, ?_⟩
    rw [List.forall_mem_map]
    exact fun m _ => begins_append (begins_propertyKey m.1) _

theorem begins_declaration (isDefault : Bool) (d : Declared) :
    ∀ item ∈ (em.declaration ns isDefault d).items, ∀ text ∈ item.starts, Begins text := by
  have single {text : String} (begins : Begins text) :
      ∀ item ∈ [Item.line text], ∀ text ∈ item.starts, Begins text := by
    simpa [Item.starts] using begins
  obtain ⟨symbol, type⟩ := d
  have plainVar : ∀ item ∈ varItems ns symbol.lastSegment type, ∀ text ∈ item.starts,
      Begins text := by
    unfold varItems
    simp only [String.append_assoc]
    exact single (begins_append (by decide) _)
  cases type with
  | function f =>
    simp only [declaration, functionItems, String.append_assoc]
    exact single (begins_append (by decide) _)
  | classlike c =>
    unfold declaration
    cases kind : c.kind with
    | constructor => simpa [kind] using em.begins_classItems ns symbol c
    | interface => simpa [kind] using em.begins_interfaceItems ns symbol c isDefault
  | enumeration e => exact begins_enumItems ns symbol.lastSegment e
  | primitive p =>
    cases p with
    | none =>
      cases target : em.graph.aliasTarget? symbol with
      | none => simpa only [declaration, target] using plainVar
      | some t =>
        simp only [declaration, target, aliasItems, String.append_assoc]
        exact single (begins_append (by decide) _)
    | _ => exact plainVar
  | _ => exact plainVar

end Emission

/-- A line that opens a block at the margin, closes one there, or is indented by two or by four
blanks. -/
def Framed (line : List Char) : Prop :=
  "declare ".toList <+: line ∨ line = ['\x7d'] ∨
    ∃ c rest, c ≠ ' ' ∧
      (line = ' ' :: ' ' :: c :: rest ∨ line = ' ' :: ' ' :: ' ' :: ' ' :: c :: rest)

namespace Line

def chars (l : Line) : List Char := (Writer.indentation l.depth ++ l.text).toList

inductive Stands : Line → Prop
  | header {text : String} (opens : "declare ".toList <+: text.toList) : Stands ⟨0, text⟩
  | footer : Stands ⟨0, "\x7d"⟩
  | inside {depth : Nat} {text : String} (level : depth = 1 ∨ depth = 2) (begins : Begins text) :
    Stands ⟨depth, text⟩

theorem Stands.text_ne_empty {l : Line} (stands : l.Stands) : l.text ≠ "" := by
  cases stands with
  | header opens =>
    rintro rfl
    simp at opens
  | footer => decide
  | inside level begins =>
    rintro rfl
    exact absurd begins (by decide)

theorem Stands.framed {l : Line} (stands : l.Stands) : Framed l.chars := by
  cases stands with
  | header opens => exact .inl (by simpa [chars, Writer.indentation] using opens)
  | footer => exact .inr (.inl rfl)
  | @inside depth text level begins =>
    unfold Begins at begins
    cases signs : text.toList with
    | nil => simp [signs] at begins
    | cons c cs =>
      have other : c ≠ ' ' := by simpa [signs] using begins
      refine .inr (.inr ⟨c, cs, other, ?_⟩)
      rcases level with rfl | rfl
      · exact .inl (by simp [chars, Writer.indentation, signs])
      · exact .inr (by simp [chars, Writer.indentation, signs])

end Line

theorem Item.lines_stand {item : Item} (begins : ∀ text ∈ item.starts, Begins text) :
    ∀ l ∈ item.lines 1, l.Stands := by
  cases item with
  | line text =>
    have begins : Begins text := by simpa [starts] using begins
    simpa [lines] using Line.Stands.inside (.inl rfl) begins
  | block header body terminator =>
    obtain ⟨first, inside⟩ := List.forall_mem_cons.mp begins
    cases body with
    | nil =>
      have opened := begins_append (begins_append first " \x7b\x7d") terminator
      simpa [lines] using Line.Stands.inside (.inl rfl) opened
    | cons piece body =>
      have opened := begins_append first " \x7b"
      have closed : Begins ("\x7d" ++ terminator) := begins_append (by decide) terminator
      have between : ∀ l ∈ (piece :: body).map (Line.mk 2), l.Stands := by
        rw [List.forall_mem_map]
        exact fun text member => .inside (.inr rfl) (inside text member)
      refine List.forall_mem_append.mpr ⟨?_, List.forall_mem_singleton.mpr ?_⟩
      · exact List.forall_mem_cons.mpr ⟨.inside (.inl rfl) opened, between⟩
      · exact .inside (.inl rfl) closed

theorem opens_append {text : String} (opens : "declare ".toList <+: text.toList) (more : String) :
    "declare ".toList <+: (text ++ more).toList := by
  rw [String.toList_append]
  exact opens.trans (List.prefix_append _ _)

theorem begins_moduleLines (c : Config) (exportName : Name) (isDefault : Bool) :
    ∀ text ∈ c.moduleLines exportName isDefault, Begins text := by
  have keyword : Begins (if isDefault then "export default " else "export = ") := by
    cases isDefault <;> decide
  unfold Config.moduleLines
  cases c.policy.shim
  · have aliased := begins_append (begins_append (by decide : Begins "import alias = ")
      (c.target exportName)) ";"
    simpa using ⟨aliased, begins_append keyword "alias;"⟩
  · have whole := begins_append (begins_append keyword (c.target exportName)) ";"
    simpa using whole

theorem Section.lines_stand (c : Config) {s : Section}
    (each : ∀ d ∈ s.declarations, ∀ item ∈ d.items, ∀ text ∈ item.starts, Begins text) :
    ∀ l ∈ s.lines c, l.Stands := by
  have first : "declare ".toList <+: (c.namespaceHeader s.namespaceName).toList :=
    opens_append (opens_append (by decide) _) _
  have second : "declare ".toList <+: (c.moduleHeader s.exportName).toList := by
    unfold Config.moduleHeader
    simp only [String.append_assoc]
    exact opens_append (by decide) _
  have declared : ∀ l ∈ s.declarations.flatMap Declaration.lines, l.Stands := by
    simp only [Declaration.lines, List.forall_mem_flatMap]
    exact fun d member item inside => Item.lines_stand (each d member item inside)
  have exported : ∀ l ∈ (c.moduleLines s.exportName s.isDefault).map (Line.mk 1), l.Stands := by
    rw [List.forall_mem_map]
    exact fun text member => .inside (.inl rfl) (begins_moduleLines c _ _ text member)
  have footer : ∀ l ∈ [Line.mk 0 "\x7d"], l.Stands := List.forall_mem_singleton.mpr .footer
  simp only [lines, namespaceLines, moduleLines, List.forall_mem_append]
  exact ⟨⟨List.forall_mem_cons.mpr ⟨.header first, declared⟩, footer⟩,
    List.forall_mem_cons.mpr ⟨.header second, exported⟩, footer⟩

theorem Emission.lines_stand {em : Emission} {sections : List Section}
    (found : em.sections = .ok sections) (c : Config) :
    ∀ l ∈ sections.flatMap (Section.lines c), l.Stands := by
  rw [List.forall_mem_flatMap]
  intro s member
  apply Section.lines_stand
  obtain ⟨e, -, made⟩ := exists_of_mem_mapM found member
  obtain ⟨p, -, rfl⟩ := em.section?_eq_ok made
  rw [sectionOf, List.forall_mem_map]
  exact fun d _ => em.begins_declaration p.namespaceName p.isDefault d

end Ambient
