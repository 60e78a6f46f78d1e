import Ambient.Dump.Convert
import Ambient.Proofs.Indentation
import Ambient.Proofs.OneLine

namespace Ambient

def Plain (table : Properties) : Prop := ∀ m ∈ table, OneLine m.1 ∧ ∀ s ∈ m.2.texts, OneLine s

theorem plain_of_tableTexts {table : Properties} (plain : ∀ s ∈ Ty.tableTexts table, OneLine s) :
    Plain table := by
  simp only [Ty.tableTexts_eq, List.forall_mem_flatMap, List.forall_mem_cons] at plain
  exact plain

structure ClassType.Plain (c : ClassType Ty) : Prop where
  typeParams : ∀ n ∈ c.typeParams, OneLine n
  superclass : ∀ t ∈ c.superclass?.toList, ∀ s ∈ t.texts, OneLine s
  interfaces : ∀ t ∈ c.interfaces, ∀ s ∈ t.texts, OneLine s
  params : ∀ s ∈ Ty.paramTexts c.params, OneLine s
  instanceType : ∀ s ∈ c.instanceType.texts, OneLine s
  prototype : Ambient.Plain c.prototype
  statics : Ambient.Plain c.statics

theorem plain_of_classTexts {c : ClassType Ty} (plain : ∀ s ∈ Ty.classTexts c, OneLine s) :
    c.Plain := by
  obtain ⟨name, kind, generics, superclass?, interfaces, params, instances, methods, statics⟩ := c
  simp only [Ty.classTexts, List.forall_mem_append, List.forall_mem_cons, Ty.listTexts_eq,
    List.forall_mem_flatMap] at plain
  obtain ⟨⟨⟨⟨⟨⟨⟨-, generic⟩, parent⟩, parents⟩, inputs⟩, instances⟩, methods⟩, statics⟩ := plain
  refine ⟨generic, ?_, parents, inputs, instances, plain_of_tableTexts methods,
    plain_of_tableTexts statics⟩
  cases superclass? with
  | none => simp
  | some t => simpa [Ty.optionTexts] using parent

section Texts

variable (ns : Name)

theorem memberSignature_oneLine {key : String} {type : Ty} (name : OneLine key)
    (plain : ∀ s ∈ type.texts, OneLine s) : OneLine (memberSignature ns key type) := by
  have quoted := (propertyKey_oneLine key).mpr name
  unfold memberSignature
  split
  · next f =>
    have signature := Ty.renderSignature_oneLine ns (f := f) plain
    simp +decide [quoted, signature]
  · have value := Ty.render_oneLine ns type plain
    simp +decide [quoted, value]

theorem staticSignature_oneLine {key : String} {type : Ty} (name : OneLine key)
    (plain : ∀ s ∈ type.texts, OneLine s) : OneLine (staticSignature ns key type) := by
  have signature := memberSignature_oneLine ns name plain
  unfold staticSignature staticEnumComment
  split <;> simp +decide [name, signature]

theorem companionEntry_oneLine {key : String} {type : Ty} (name : OneLine key)
    (plain : ∀ s ∈ type.texts, OneLine s) : OneLine (companionEntry ns key type) := by
  have quoted := (propertyKey_oneLine key).mpr name
  have value := Ty.render_oneLine ns type plain
  unfold companionEntry staticEnumComment
  split <;> simp +decide [name, quoted, value]

theorem heritageClause_oneLine {keyword : String} (plain : OneLine keyword) {parents : List Ty}
    (each : ∀ t ∈ parents, ∀ s ∈ t.texts, OneLine s) :
    OneLine (heritageClause keyword ns parents) := by
  have list : OneLine (heritageList ns parents) := by
    apply oneLine_intercalate (by decide)
    rw [List.forall_mem_map]
    exact fun t member => Ty.renderHeritage_oneLine ns (each t member)
  cases parents with
  | nil => simp +decide [heritageClause]
  | cons t parents => simp [heritageClause, plain, list]

variable {name : String} (own : OneLine name) {c : ClassType Ty} (plain : c.Plain)
include own plain

theorem classHeader_oneLine : OneLine (classHeader ns name c) := by
  have generic := typeParameterList_oneLine plain.typeParams
  have written : ∀ t ∈ c.superclass?.toList.filter (!isRootObject ·), ∀ s ∈ t.texts, OneLine s :=
    fun t member => plain.superclass t (List.mem_of_mem_filter member)
  have parent := heritageClause_oneLine ns (by decide : OneLine " extends ") written
  have parents := heritageClause_oneLine ns (by decide : OneLine " implements ") plain.interfaces
  simp +decide [classHeader, own, generic, parent, parents]

theorem interfaceHeader_oneLine : OneLine (interfaceHeader ns name c) := by
  have generic := typeParameterList_oneLine plain.typeParams
  have parents := heritageClause_oneLine ns (by decide : OneLine " extends ") plain.interfaces
  simp +decide [interfaceHeader, own, generic, parents]

theorem inlineHeader_oneLine : OneLine (inlineHeader ns name c) := by
  have generic := typeParameterList_oneLine plain.typeParams
  have parents : OneLine
      (String.join (c.interfaces.map fun parent => " " ++ parent.renderHeritage ns ++ " &")) := by
    apply oneLine_join
    rw [List.forall_mem_map]
    intro t member
    have parent := Ty.renderHeritage_oneLine ns (plain.interfaces t member)
    simp +decide [parent]
  simp +decide [inlineHeader, own, generic, parents]

end Texts

namespace Graph

variable (g : Graph) (view : MemberView)

/-- The names and keys that are read for the declaration of a symbol: its own, those of the target
it is an alias of, and those of the fields its instances have. -/
def symbolTexts (s : Symbol) : List String :=
  s.name :: Ty.optionTexts s.type? ++ Ty.optionTexts (g.aliasTarget? s.name) ++
    match s.type? with
    | some (.classlike c) => Ty.tableTexts ((g.membersOf? view c.instanceType).getD [])
    | _ => []

def texts (emitted : List Name) : List String :=
  emitted ++ emitted.flatMap fun e => (g.blockSymbols emitted e).flatMap (g.symbolTexts view)

end Graph

def Item.texts : Item → List String
  | line text => [text]
  | block header body terminator => header :: terminator :: body

theorem Item.lines_oneLine {item : Item} (plain : ∀ t ∈ item.texts, OneLine t) (depth : Nat) :
    ∀ l ∈ item.lines depth, OneLine l.text := by
  cases item with
  | line text => simpa [lines, texts] using plain
  | block header body terminator =>
    simp only [texts, List.forall_mem_cons] at plain
    obtain ⟨opened, closed, inside⟩ := plain
    cases body with
    | nil => simp +decide [lines, opened, closed]
    | cons piece body =>
      simp only [lines, List.forall_mem_append, List.forall_mem_cons, List.forall_mem_map,
        List.not_mem_nil, false_imp_iff, implies_true, and_true, oneLine_append]
      exact ⟨⟨⟨opened, by decide⟩, List.forall_mem_cons.mp inside⟩, by decide, closed⟩

namespace Emission

variable (em : Emission) (ns owner : Name)

theorem keptMembers_plain (slot : Slot) {table : Properties} (plain : Plain table) :
    Plain (em.keptMembers owner slot table) :=
  fun m member => plain m (List.mem_of_mem_filter member)

theorem staticLines_oneLine {write : String → Ty → String}
    (each : ∀ key type, OneLine key → (∀ s ∈ type.texts, OneLine s) → OneLine (write key type))
    {c : ClassType Ty} (plain : c.Plain) : ∀ text ∈ em.staticLines write owner c, OneLine text := by
  rw [staticLines, List.forall_mem_map]
  intro m member
  obtain ⟨name, type⟩ := em.keptMembers_plain owner .static plain.statics m member
  exact each m.1 m.2 name type

variable {em}

theorem instanceLines_oneLine {c : ClassType Ty} (plain : c.Plain)
    (fields : Plain (em.instanceFields c)) :
    ∀ text ∈ em.instanceLines ns owner c, OneLine text := by
  rw [instanceLines, List.forall_mem_map, List.forall_mem_append]
  constructor
  · intro m member
    obtain ⟨name, type⟩ := em.keptMembers_plain owner .instanceField fields m member
    exact memberSignature_oneLine ns name type
  · intro m member
    obtain ⟨name, type⟩ := em.keptMembers_plain owner .prototype plain.prototype m member
    exact memberSignature_oneLine ns name type

variable {owner} (own : OneLine owner)
include own

theorem classItems_oneLine {c : ClassType Ty} (plain : c.Plain)
    (fields : Plain (em.instanceFields c)) :
    ∀ item ∈ em.classItems ns owner c, ∀ text ∈ item.texts, OneLine text := by
  have header := classHeader_oneLine ns (Name.lastSegment_oneLine own) plain
  have made : ∀ text ∈ constructorLines ns c.params, OneLine text := by
    have inputs := Ty.parameterList_oneLine ns plain.params
    unfold constructorLines
    split <;> simp_all +decide
  have members := instanceLines_oneLine ns owner plain fields
  have statics := em.staticLines_oneLine owner
    (fun _ _ => staticSignature_oneLine ns) plain
  simp only [classItems, List.forall_mem_singleton, Item.texts, List.forall_mem_cons, classBody,
    List.forall_mem_append]
  exact ⟨header, by decide, ⟨made, members⟩, statics⟩

theorem companionItems_oneLine {c : ClassType Ty} (plain : c.Plain) :
    ∀ item ∈ em.companionItems ns owner c, ∀ text ∈ item.texts, OneLine text := by
  have name := Name.lastSegment_oneLine own
  have entries := em.staticLines_oneLine owner (fun _ _ => companionEntry_oneLine ns) plain
  unfold companionItems
  split
  · simp
  · simp only [List.forall_mem_singleton, Item.texts, List.forall_mem_cons, oneLine_append]
    exact ⟨⟨⟨by decide, name⟩, by decide⟩, by decide, entries⟩

theorem interfaceItems_oneLine (isDefault : Bool) {c : ClassType Ty} (plain : c.Plain)
    (fields : Plain (em.instanceFields c)) :
    ∀ item ∈ em.interfaceItems ns isDefault owner c, ∀ text ∈ item.texts, OneLine text := by
  have name := Name.lastSegment_oneLine own
  have members := instanceLines_oneLine ns owner plain fields
  refine List.forall_mem_cons.mpr ⟨?_, companionItems_oneLine ns own plain⟩
  unfold interfaceBlock
  split
  · simp only [Item.texts, List.forall_mem_cons]
    exact ⟨interfaceHeader_oneLine ns name plain, by decide, members⟩
  · simp only [Item.texts, List.forall_mem_cons]
    exact ⟨inlineHeader_oneLine ns name plain, by decide, members⟩

omit own in
theorem enumItems_oneLine {name : String} (own : OneLine name) (e : EnumType Ty)
    (plain : ∀ s ∈ Ty.enumTexts e, OneLine s) :
    ∀ item ∈ enumItems ns name e, ∀ text ∈ item.texts, OneLine text := by
  obtain ⟨full, element, members⟩ := e
  simp only [Ty.enumTexts, List.forall_mem_append, List.forall_mem_cons,
    List.forall_mem_map] at plain
  obtain ⟨⟨-, value⟩, keys⟩ := plain
  have shown := Ty.render_oneLine ns element value
  refine List.forall_mem_cons.mpr ⟨?_, List.forall_mem_singleton.mpr ?_⟩
  · simp +decide [Item.texts, own, shown]
  · simp only [Item.texts, List.forall_mem_cons, List.forall_mem_map, oneLine_append,
      propertyKey_oneLine]
    exact ⟨⟨⟨by decide, own⟩, by decide⟩, by decide, fun m member =>
      ⟨⟨⟨keys m member, by decide⟩, own⟩, by decide⟩⟩

omit own in
/-- What is written of a declaration has no line feed if no name has one that is read for it. -/
theorem declaration_oneLine (isDefault : Bool) {type : Ty}
    (names : ∀ s ∈ em.graph.symbolTexts em.view ⟨owner, some type⟩, OneLine s) :
    ∀ item ∈ (em.declaration ns isDefault ⟨owner, type⟩).items, ∀ text ∈ item.texts,
      OneLine text := by
  rw [Graph.symbolTexts, List.forall_mem_append, List.forall_mem_append, List.forall_mem_cons]
    at names
  obtain ⟨⟨⟨own, plain⟩, behind⟩, instances⟩ := names
  have name := Name.lastSegment_oneLine own
  have plainVar : ∀ item ∈ varItems ns owner.lastSegment type, ∀ text ∈ item.texts,
      OneLine text := by
    have value := Ty.render_oneLine ns type plain
    simp +decide [varItems, Item.texts, name, value]
  cases type with
  | function f =>
    have signature := Ty.renderSignature_oneLine ns (f := f) plain
    simp +decide [declaration, functionItems, Item.texts, name, signature]
  | classlike c =>
    have parts := plain_of_classTexts plain
    have fields := plain_of_tableTexts instances
    unfold declaration
    cases kind : c.kind with
    | constructor => simpa [kind] using classItems_oneLine ns own parts fields
    | interface => simpa [kind] using interfaceItems_oneLine ns own isDefault parts fields
  | enumeration e => exact enumItems_oneLine ns name e plain
  | primitive p =>
    cases p with
    | none =>
      cases target : em.graph.aliasTarget? owner with
      | none => simpa only [declaration, target] using plainVar
      | some t =>
        rw [target] at behind
        have shown := Ty.render_oneLine ns t behind
        simp +decide [declaration, target, aliasItems, Item.texts, name, shown]
    | _ => exact plainVar
  | _ => exact plainVar

end Emission

theorem Section.lines_oneLine (c : Config) (s : Section) (root : OneLine c.internalRoot)
    (host : OneLine c.modulePrefix) (name : OneLine s.exportName) (ns : OneLine s.namespaceName)
    (each : ∀ d ∈ s.declarations, ∀ item ∈ d.items, ∀ text ∈ item.texts, OneLine text) :
    ∀ l ∈ s.lines c, OneLine l.text := by
  have target : OneLine (c.target s.exportName) := (Name.child_oneLine _ _).mpr ⟨root, name⟩
  have first : OneLine (c.namespaceHeader s.namespaceName) := by
    unfold Config.namespaceHeader
    split <;> simp +decide [Name.child_oneLine, root, ns]
  have second : OneLine (c.moduleHeader s.exportName) := by
    unfold Config.moduleHeader
    simp only [oneLine_append]
    exact ⟨⟨⟨⟨by decide, host⟩, by decide⟩, name⟩, by decide⟩
  have declared : ∀ l ∈ s.declarations.flatMap Declaration.lines, OneLine l.text := by
    simp only [Declaration.lines, List.forall_mem_flatMap]
    exact fun d member item inside => Item.lines_oneLine (each d member item inside) 1
  have keyword : OneLine (if s.isDefault then "export default " else "export = ") := by
    cases s.isDefault <;> decide
  have exported : ∀ l ∈ (c.moduleLines s.exportName s.isDefault).map (Line.mk 1),
      OneLine l.text := by
    have imported : OneLine "import alias = " := by decide
    have aliased : OneLine "alias;" := by decide
    have stop : OneLine ";" := by decide
    rw [List.forall_mem_map]
    unfold Config.moduleLines
    cases c.policy.shim <;> simp [target, keyword, imported, aliased, stop]
  have footer : ∀ l ∈ [Line.mk 0 "\x7d"], OneLine l.text :=
    List.forall_mem_singleton.mpr (by decide)
  simp only [lines, namespaceLines, moduleLines, List.forall_mem_append]
  exact ⟨⟨List.forall_mem_cons.mpr ⟨first, declared⟩, footer⟩,
    List.forall_mem_cons.mpr ⟨second, exported⟩, footer⟩

theorem Emission.lines_oneLine (em : Emission)
    (names : ∀ s ∈ em.graph.texts em.view em.exports.names, OneLine s)
    (root : OneLine em.config.internalRoot) (host : OneLine em.config.modulePrefix)
    {sections : List Section} (found : em.sections = .ok sections) :
    ∀ l ∈ sections.flatMap (Section.lines em.config), OneLine l.text := by
  rw [List.forall_mem_flatMap]
  intro s member
  obtain ⟨e, emitted, made⟩ := exists_of_mem_mapM found member
  obtain ⟨p, placed, rfl⟩ := em.section?_eq_ok made
  obtain ⟨rfl, -⟩ := (em.graph.place_eq_ok_iff e p).mp placed
  rw [Graph.texts, List.forall_mem_append, List.forall_mem_flatMap] at names
  have name : OneLine p.name := names.1 p.name emitted
  have ns : OneLine p.namespaceName := by
    unfold PlacedExport.namespaceName
    split
    · exact Name.parent_oneLine name
    · exact name
  apply Section.lines_oneLine em.config (em.sectionOf p) root host name ns
  rw [sectionOf, List.forall_mem_map]
  intro d inside
  have stands := em.mem_blockSymbols_of_declared placed inside
  have read := List.forall_mem_flatMap.mp (names.2 p.name emitted) _ stands
  exact declaration_oneLine p.namespaceName p.isDefault read

namespace Line

theorem toList_writeAll {lines : List Line} (stand : ∀ l ∈ lines, l.Stands) :
    (writeAll lines).toList = ['\n'].intercalate (lines.map chars ++ [[]]) := by
  induction lines with
  | nil => rfl
  | cons l lines ih =>
    obtain ⟨first, rest⟩ := List.forall_mem_cons.mp stand
    have whole : l.written.toList = l.chars ++ ['\n'] := by
      simp [written, chars, first.text_ne_empty]
    rw [writeAll_cons, String.toList_append, whole, ih rest]
    cases lines <;> simp [List.intercalate]

theorem splitOn_writeAll {lines : List Line} (stand : ∀ l ∈ lines, l.Stands)
    (plain : ∀ l ∈ lines, OneLine l.text) :
    (writeAll lines).toList.splitOn '\n' = lines.map chars ++ [[]] := by
  have unbroken : ∀ piece ∈ lines.map chars ++ [[]], '\n' ∉ piece := by
    simp only [List.forall_mem_append, List.forall_mem_map, List.forall_mem_singleton]
    refine ⟨fun l member => ?_, List.not_mem_nil⟩
    have blank (depth : Nat) : OneLine (Writer.indentation depth) := by
      induction depth with
      | zero => decide
      | succ depth ih => simp +decide [Writer.indentation, ih]
    exact (oneLine_append _ _).mpr ⟨blank l.depth, plain l member⟩
  rw [toList_writeAll stand]
  exact List.splitOn_intercalate '\n' unbroken (by simp)

end Line

namespace Graph

variable (g : Graph) (view : MemberView) (config : Config) (given : List Name)

/-- The lines that the sections of a document write open or close a block at the margin, or are
indented by two or by four blanks. They are the lines of the document if no line feed stands in the
settings or in a name or key that it reads. -/
theorem document_framed {text : String} (done : g.emit view config given = .ok text) :
    ∃ lines : List Line, text = Line.writeAll lines ∧ (∀ l ∈ lines, Framed l.chars) ∧
      (∃ sections, (Emission.ofGiven g view config given).sections = .ok sections ∧
        lines = sections.flatMap (Section.lines config)) ∧
      (OneLine config.internalRoot → OneLine config.modulePrefix →
        (∀ s ∈ g.texts view (config.emitted given), OneLine s) →
        text.toList.splitOn '\n' = lines.map Line.chars ++ [[]]) := by
  obtain ⟨sections, found, -⟩ := sections_of_emit g view config given done
  have written := emit_of_sections found
  rw [done] at written
  cases written
  have stand := Emission.lines_stand found config
  refine ⟨_, rfl, fun l member => (stand l member).framed, ⟨sections, found, rfl⟩, ?_⟩
  intro root host names
  have plain := Emission.lines_oneLine (.ofGiven g view config given) names root host found
  exact Line.splitOn_writeAll stand plain

theorem library_document_framed :
    (∀ s ∈ library.texts .direct (Config.emitted {} ["lib.Util", "lib"]), OneLine s) ∧
      ∃ text, library.emit .direct {} ["lib.Util", "lib"] = .ok text ∧
        ∃ lines : List Line, text.toList.splitOn '\n' = lines.map Line.chars ++ [[]] ∧
          ∀ l ∈ lines, Framed l.chars := by
  have names : ∀ s ∈ library.texts .direct (Config.emitted {} ["lib.Util", "lib"]), OneLine s := by
    decide
  obtain ⟨text, done⟩ := (library.emit_ok_iff .direct {} ["lib.Util", "lib"]).mpr (by decide)
  obtain ⟨lines, -, framed, -, split⟩ :=
    document_framed library .direct {} ["lib.Util", "lib"] done
  exact ⟨names, text, done, lines, split (by decide) (by decide) names, framed⟩

end Graph

/-- An enum with a line feed in the name of its member. -/
def Dump.mode : Dump.ProgramSpec where
  exports := ["ui.Mode"]
  symbols := [⟨"ui.Mode", some
    (.enumeration "ui.Mode" (.primitive .string) [⟨"on\noff", .string "x"⟩])⟩]

def Graph.modes : Graph where
  symbols := .ofAscending [⟨"ui.Mode", some (.enumeration
    ⟨"ui.Mode", .primitive .string, [("on\noff", .string "x")]⟩)⟩] (by decide)
  exports := ⟨[("ui.Mode", ())], by decide⟩

def modeDocument : String :=
  "declare namespace ಠ_ಠ.declgen.ui \x7b\n" ++
  "  type Mode = string;\n" ++
  "  var Mode: \x7b\n" ++
  "    'on\n" ++
  "off': Mode,\n" ++
  "  \x7d;\n" ++
  "\x7d\n" ++
  "declare module 'goog:ui.Mode' \x7b\n" ++
  "  import alias = ಠ_ಠ.declgen.ui.Mode;\n" ++
  "  export default alias;\n" ++
  "\x7d\n"

theorem mode_emitted : Graph.modes.emit .throughNames {} ["ui.Mode"] = .ok modeDocument := by
  rw [Graph.emit_eq_document]
  decide +kernel

theorem mode_key_breaks :
    Dump.mode.toGraph = .ok .modes ∧
      OneLine ({} : Config).internalRoot ∧ OneLine ({} : Config).modulePrefix ∧
      Graph.modes.emit .throughNames {} ["ui.Mode"] = .ok modeDocument ∧
      ∃ line ∈ modeDocument.toList.splitOn '\n', line ≠ [] ∧ ¬ Framed line := by
  have split : "off': Mode,".toList ∈ modeDocument.toList.splitOn '\n' := by decide +kernel
  exact ⟨rfl, by decide, by decide, mode_emitted, _, split, by decide, by simp [Framed]⟩

end Ambient
