import Ambient.Proofs.Balance
import Ambient.Proofs.Declared
import Ambient.Proofs.Reads
import Ambient.Proofs.Results

/-!
The document as the texts of its blocks, one after the other. A writer at the margin writes a block
below its text exactly as a fresh writer writes it, so what an export prints does not depend on what
was printed before it. A namespace block is written from the program, the exports and four settings,
and a module block from the export, its kind and three settings.
-/
namespace Ambient

namespace Writer

def below (w : Writer) (text : String) : Writer := { w with text := text ++ w.text }

theorem eq_below_of_atMargin {w : Writer} (margin : w.AtMargin) :
    w = ({} : Writer).below w.text := by
  obtain ⟨text, depth, atLineStart⟩ := w
  obtain ⟨level, start⟩ := margin
  cases level
  cases start
  simp [below]

/-- A change that does not look at the text before it only adds to it. -/
theorem text_of_atMargin (change : Writer → Writer)
    (blind : ∀ v text, change (below v text) = (change v).below text) {w : Writer}
    (margin : w.AtMargin) : (change w).text = w.text ++ (change {}).text := by
  calc (change w).text
      = (change (({} : Writer).below w.text)).text := by rw [← eq_below_of_atMargin margin]
    _ = ((change {}).below w.text).text := by rw [blind]

theorem write_below (w : Writer) (text piece : String) :
    (w.below text).write piece = (w.write piece).below text := by
  unfold write below
  split
  · rfl
  · split <;> simp [String.append_assoc]

theorem line_below (w : Writer) (text piece : String) :
    (w.below text).line piece = (w.line piece).below text := by
  unfold line
  rw [write_below]
  simp [newline, below, String.append_assoc]

theorem foldl_line_below (body : List String) (w : Writer) (text : String) :
    body.foldl line (w.below text) = (body.foldl line w).below text := by
  induction body generalizing w with
  | nil => rfl
  | cons piece body ih => rw [List.foldl_cons, List.foldl_cons, line_below, ih]

theorem block_below (w : Writer) (text header footer : String) (inside : Writer → Writer)
    (inner : ∀ v : Writer, inside (v.below text) = (inside v).below text) :
    (w.below text).block header inside footer = (w.block header inside footer).below text := by
  have opened : (w.below text).openBlock header = (w.openBlock header).below text :=
    congrArg indent (line_below w text header)
  unfold block
  rw [opened, inner]
  exact line_below { inside (w.openBlock header) with depth := w.depth } text footer

end Writer

namespace Item

theorem put_below (item : Item) (w : Writer) (text : String) :
    item.put (w.below text) = (item.put w).below text := by
  cases item with
  | line piece => exact w.line_below text piece
  | block header body terminator =>
    cases body with
    | nil => exact w.line_below text _
    | cons piece body =>
      exact w.block_below text _ _ (fun v => (piece :: body).foldl Writer.line v)
        fun v => Writer.foldl_line_below (piece :: body) v text

theorem putAll_below (items : List Item) (w : Writer) (text : String) :
    putAll items (w.below text) = (putAll items w).below text := by
  induction items generalizing w with
  | nil => rfl
  | cons item items ih =>
    rw [putAll_cons]
    change putAll items (item.put (w.below text)) = (putAll items (item.put w)).below text
    rw [put_below, ih]

end Item

namespace Section

variable (c : Config) (s : Section)

theorem putNamespace_below (w : Writer) (text : String) :
    s.putNamespace c (w.below text) = (s.putNamespace c w).below text :=
  w.block_below text _ _ _ fun v => Item.putAll_below _ v text

theorem putModule_below (w : Writer) (text : String) :
    s.putModule c (w.below text) = (s.putModule c w).below text :=
  w.block_below text _ _ _ fun v => Writer.foldl_line_below _ v text

theorem put_below (w : Writer) (text : String) :
    s.put c (w.below text) = (s.put c w).below text := by
  unfold put
  rw [putNamespace_below, putModule_below]

theorem put_fresh :
    (s.put c {}).text = (s.putNamespace c {}).text ++ (s.putModule c {}).text := by
  have margin : (s.putNamespace c {}).AtMargin :=
    ⟨Writer.block_depth _ _ _ _, Writer.block_atLineStart _ _ _ _⟩
  exact Writer.text_of_atMargin _ (s.putModule_below c) margin

end Section

def Step.alone (p : Step Unit) : Except EmitError String :=
  match p.run {} with
  | .ok _ o => .ok o.writer.text
  | .error error _ => .error error

theorem Step.Does.alone {p : Step Unit} {error? : Option EmitError} {events : List Event}
    {change : Writer → Writer} (does : p.Does error? events change) :
    p.alone = error?.elim (.ok (change {}).text) .error := by
  unfold Step.alone
  cases error? with
  | none =>
    rw [does {}]
    rfl
  | some error =>
    obtain ⟨writer, run⟩ := does {}
    rw [run]
    rfl

structure ModuleSettings where
  internalRoot : Name
  modulePrefix : String
  shim : ModuleShim

def Config.moduleSettings (c : Config) : ModuleSettings where
  internalRoot := c.internalRoot
  modulePrefix := c.modulePrefix
  shim := c.policy.shim

def Config.withModules (c : Config) (modulePrefix : String) (shim : ModuleShim) : Config :=
  { c with modulePrefix, policy := { c.policy with shim } }

/-- Some emission with these settings, of no program and no exports. -/
def ModuleSettings.emission (m : ModuleSettings) : Emission where
  graph := {}
  config :=
    { internalRoot := m.internalRoot, modulePrefix := m.modulePrefix, policy := { shim := m.shim } }
  exports := .empty

def ModuleSettings.block (m : ModuleSettings) (e : Name) (isDefault : Bool) :
    Except EmitError String :=
  (m.emission.declareModule e isDefault).alone

theorem ModuleSettings.block_eq (c : Config) (s : Section) :
    c.moduleSettings.block s.exportName s.isDefault = .ok (s.putModule c {}).text := by
  have performed : (c.moduleSettings.emission.declareModule s.exportName s.isDefault).Does none []
      (s.putModule c) := c.moduleSettings.emission.declareModule_performs s
  exact performed.alone

def BlockSettings.emission (b : BlockSettings) (graph : Graph) (view : MemberView) : Emission where
  graph := graph
  view := view
  config :=
    { internalRoot := b.internalRoot
      excludedMembers := b.excludedMembers
      policy :=
        { defaultInterface := b.defaultInterface, namespacedInterface := b.namespacedInterface } }
  exports := b.exports

namespace Emission

variable (em : Emission)

def namespaceBlock (e : Name) : Step Unit :=
  match em.graph.place e with
  | .error error => throw error
  | .ok p => em.declareNamespace p.namespaceName p.isDefault ⟨p.name, some p.type⟩

theorem namespaceBlock_alone (e : Name) :
    (em.namespaceBlock e).alone =
      (em.section? e).map fun s => (s.putNamespace em.config {}).text := by
  unfold namespaceBlock
  rw [section?_eq]
  cases em.graph.place e with
  | error error => rfl
  | ok p =>
    have written := (em.declareNamespace_does p).alone
    cases problem : em.sectionError? p with
    | some error => simpa [problem, Except.map] using written
    | none => simpa [problem, Except.map] using written

end Emission

def Graph.namespaceBlock (g : Graph) (view : MemberView) (b : BlockSettings) (e : Name) :
    Except EmitError String :=
  ((b.emission g view).namespaceBlock e).alone

/-- The section of an export from the program and the settings alone. -/
def Graph.sectionText (g : Graph) (view : MemberView) (b : BlockSettings) (m : ModuleSettings)
    (e : Name) : Except EmitError String := do
  let declared ← g.namespaceBlock view b e
  let handed ← m.block e (g.isDefaultExport e)
  return declared ++ handed

namespace Emission

variable (em : Emission)

theorem section?_eq_of_settings {em em' : Emission} (graph : em.graph = em'.graph)
    (view : em.view = em'.view) (same : em.blockSettings = em'.blockSettings) :
    em.section? = em'.section? := by
  have exports := exports_congr same
  funext e
  refine section?_congr (by rw [graph]) ?_ ?_
  · intro p _
    unfold declared declaredBelow? sibling
    rw [graph, exports]
  · intro p _ d _
    refine declaration_congr same _ _ d ?_ ?_
    · intro c _
      unfold instanceFields
      rw [graph, view]
    · intro _
      rw [graph]

theorem namespaceBlock_eq (e : Name) :
    em.graph.namespaceBlock em.view em.blockSettings e =
      (em.section? e).map fun s => (s.putNamespace em.config {}).text := by
  have same : em.section? = (em.blockSettings.emission em.graph em.view).section? :=
    Emission.section?_eq_of_settings rfl rfl rfl
  rw [Graph.namespaceBlock, namespaceBlock_alone, ← same]
  rfl

theorem section?_eq_ok {e : Name} {s : Section} (found : em.section? e = .ok s) :
    ∃ p, em.graph.place e = .ok p ∧ s = em.sectionOf p := by
  rw [section?_eq] at found
  cases placed : em.graph.place e with
  | error error =>
    rw [placed] at found
    contradiction
  | ok p =>
    rw [placed] at found
    simp only at found
    split at found
    · contradiction
    · cases found
      exact ⟨p, rfl, rfl⟩

theorem eq_sectionOf_of_section? {e : Name} {s : Section} (found : em.section? e = .ok s) :
    s.exportName = e ∧ s.isDefault = em.graph.isDefaultExport e := by
  obtain ⟨p, placed, rfl⟩ := em.section?_eq_ok found
  have named := ((em.graph.place_eq_ok_iff e p).mp placed).1
  have kind := (em.graph.isDefault_of_place placed).1
  exact ⟨named, kind.symm⟩

theorem moduleBlock_eq {e : Name} {s : Section} (found : em.section? e = .ok s) (c : Config) :
    c.moduleSettings.block e (em.graph.isDefaultExport e) = .ok (s.putModule c {}).text := by
  obtain ⟨named, kind⟩ := em.eq_sectionOf_of_section? found
  rw [← ModuleSettings.block_eq, named, kind]

theorem sectionText_eq (e : Name) :
    em.graph.sectionText em.view em.blockSettings em.config.moduleSettings e =
      (em.section? e).map fun s => (s.put em.config {}).text := by
  unfold Graph.sectionText
  rw [namespaceBlock_eq]
  cases found : em.section? e with
  | error error => rfl
  | ok s =>
    rw [em.moduleBlock_eq found em.config]
    exact congrArg Except.ok (s.put_fresh em.config).symm

theorem foldl_put_text (c : Config) (sections : List Section) {w : Writer} (margin : w.AtMargin) :
    (sections.foldl (Section.put c) w).text =
      w.text ++ String.join (sections.map fun s => (s.put c {}).text) := by
  induction sections generalizing w with
  | nil => simp
  | cons s sections ih =>
    have first : (s.put c w).text = w.text ++ (s.put c {}).text :=
      Writer.text_of_atMargin (fun v => s.put c v) (s.put_below c) margin
    rw [List.foldl_cons, ih (put_atMargin c s margin), first, List.map_cons, String.join_cons,
      String.append_assoc]

theorem document_of_sections {sections : List Section} (found : em.sections = .ok sections) :
    em.document = .ok (String.join (sections.map fun s => (s.put em.config {}).text)) := by
  have text := foldl_put_text em.config sections (w := {}) ⟨rfl, rfl⟩
  rw [String.empty_append] at text
  unfold document
  rw [found]
  exact congrArg Except.ok text

theorem document_eq_join :
    em.document =
      (em.exports.names.mapM
        (em.graph.sectionText em.view em.blockSettings em.config.moduleSettings)).map
          String.join := by
  rw [mapM_map_congr _ fun e _ => em.sectionText_eq e]
  cases found : em.exports.names.mapM em.section? with
  | error error =>
    unfold document sections
    rw [found]
    rfl
  | ok sections => exact em.document_of_sections found

theorem emitExport_adds (e : Name) {o : Output} (margin : o.writer.AtMargin) :
    (em.emitExport e).Ends o
      (fun error =>
        em.graph.sectionText em.view em.blockSettings em.config.moduleSettings e = .error error)
      fun o' => o'.writer.AtMargin ∧ ∃ text,
        em.graph.sectionText em.view em.blockSettings em.config.moduleSettings e = .ok text ∧
          o'.writer.text = o.writer.text ++ text := by
  have left := em.putExport_atMargin e margin
  have does := em.emitExport_does e
  rw [sectionText_eq]
  unfold putExport exportError? at *
  cases found : em.section? e with
  | error error =>
    rw [found] at does
    exact does.ends o (fun _ problem => congrArg Except.error (Option.some.inj problem))
      fun sound => nomatch sound
  | ok s =>
    rw [found] at does left
    refine does.ends o (fun _ problem => nomatch problem) fun _ => ⟨left, _, rfl, ?_⟩
    exact Writer.text_of_atMargin (fun v => s.put em.config v) (s.put_below em.config) margin

theorem section?_of_firstError? (sound : em.firstError? = none) (e : Name)
    (member : e ∈ em.exports.names) : ∃ s, em.section? e = .ok s := by
  have free := List.findSome?_eq_none_iff.mp sound e member
  unfold exportError? at free
  cases found : em.section? e with
  | error error =>
    rw [found] at free
    contradiction
  | ok s => exact ⟨s, rfl⟩

theorem blocks_of_sections {sections : List Section} (found : em.sections = .ok sections) :
    em.exports.names.mapM (em.graph.namespaceBlock em.view em.blockSettings) =
      .ok (sections.map fun s => (s.putNamespace em.config {}).text) := by
  unfold Emission.sections at found
  rw [mapM_map_congr _ fun e _ => em.namespaceBlock_eq e, found]
  rfl

theorem moduleBlocks_of_sections {sections : List Section} (sound : em.firstError? = none)
    (found : em.sections = .ok sections) (c : Config) :
    em.exports.names.mapM (fun e => c.moduleSettings.block e (em.graph.isDefaultExport e)) =
      .ok (sections.map fun s => (s.putModule c {}).text) := by
  have each : ∀ e ∈ em.exports.names, c.moduleSettings.block e (em.graph.isDefaultExport e) =
      (em.section? e).map fun s => (s.putModule c {}).text := by
    intro e member
    obtain ⟨s, placed⟩ := em.section?_of_firstError? sound e member
    rw [em.moduleBlock_eq placed, placed]
    rfl
  unfold Emission.sections at found
  rw [mapM_map_congr _ each, found]
  rfl

theorem document_of_blocks (sound : em.firstError? = none) :
    ∃ blocks, em.exports.names.mapM (em.graph.namespaceBlock em.view em.blockSettings) =
        .ok blocks ∧
      ∀ em' : Emission, em.graph = em'.graph → em.view = em'.view →
        em.blockSettings = em'.blockSettings →
        ∃ handed, em.exports.names.mapM (fun e =>
            em'.config.moduleSettings.block e (em.graph.isDefaultExport e)) = .ok handed ∧
          em'.document = .ok (String.join (List.zipWith (· ++ ·) blocks handed)) := by
  obtain ⟨sections, found, -⟩ := Graph.sections_names em sound
  refine ⟨_, em.blocks_of_sections found, ?_⟩
  intro em' graph view same
  have found' : em'.sections = .ok sections := by
    unfold Emission.sections at found ⊢
    rw [← exports_congr same, ← section?_eq_of_settings graph view same, found]
  have header := namespaceHeader_congr same
  have put (s : Section) : (s.put em'.config {}).text =
      (s.putNamespace em.config {}).text ++ (s.putModule em'.config {}).text := by
    rw [s.put_fresh, Section.putNamespace, Section.putNamespace, header]
  refine ⟨_, em.moduleBlocks_of_sections sound found em'.config, ?_⟩
  rw [em'.document_of_sections found', List.zipWith_map, List.zipWith_self,
    List.map_congr_left fun s _ => put s]

end Emission

namespace Graph

variable (g : Graph) (view : MemberView) (config : Config) (given : List Name)

theorem emit_eq_join :
    g.emit view config given =
      ((config.emittedSet given).names.mapM
        (g.sectionText view (config.blockSettings (config.emittedSet given))
          config.moduleSettings)).map String.join := by
  rw [emit_eq_document, Emission.document_eq_join]
  rfl

/-- The document is one section after the other, each written from the program and the settings
alone. An export adds the same text wherever the run stands at the margin, and the settings of
module blocks leave all namespace blocks as they are. -/
theorem document_by_sections :
    (config.emitted given).Pairwise (· < ·) ∧
    g.emit view config given =
      ((config.emitted given).mapM
        (g.sectionText view (config.blockSettings (config.emittedSet given))
          config.moduleSettings)).map String.join ∧
    (∀ e o, o.writer.AtMargin →
      ((Emission.ofGiven g view config given).emitExport e).Ends o
        (fun error =>
          g.sectionText view (config.blockSettings (config.emittedSet given))
            config.moduleSettings e = .error error)
        fun o' => o'.writer.AtMargin ∧ ∃ text,
          g.sectionText view (config.blockSettings (config.emittedSet given))
            config.moduleSettings e = .ok text ∧
          o'.writer.text = o.writer.text ++ text) ∧
    ∀ text, g.emit view config given = .ok text →
      ∃ blocks, (config.emitted given).mapM
          (g.namespaceBlock view (config.blockSettings (config.emittedSet given))) = .ok blocks ∧
        ∀ modulePrefix shim, ∃ handed,
          (config.emitted given).mapM (fun e =>
            ModuleSettings.block ⟨config.internalRoot, modulePrefix, shim⟩ e
              (g.isDefaultExport e)) = .ok handed ∧
          g.emit view (config.withModules modulePrefix shim) given =
            .ok (String.join (List.zipWith (· ++ ·) blocks handed)) := by
  refine ⟨config.emitted_ascending given, g.emit_eq_join view config given, ?_, ?_⟩
  · intro e o margin
    exact (Emission.ofGiven g view config given).emitExport_adds e margin
  · intro text done
    have sound := (g.emit_ok_iff view config given).mp ⟨text, done⟩
    obtain ⟨blocks, written, rest⟩ := Emission.document_of_blocks _ sound
    refine ⟨blocks, written, fun modulePrefix shim => ?_⟩
    rw [emit_eq_document]
    exact rest (Emission.ofGiven g view (config.withModules modulePrefix shim) given) rfl rfl rfl

theorem library_document_by_sections :
    ∃ blocks handed,
      ["lib", "lib.Util"].mapM (library.namespaceBlock .direct
        (Config.blockSettings {} (Config.emittedSet {} ["lib.Util", "lib"]))) = .ok blocks ∧
      ["lib", "lib.Util"].mapM (fun e =>
        ModuleSettings.block ⟨Config.internalRoot {}, "app", .direct⟩ e
          (library.isDefaultExport e)) = .ok handed ∧
      library.emit .direct (Config.withModules {} "app" .direct) ["lib.Util", "lib"] =
        .ok (String.join (List.zipWith (· ++ ·) blocks handed)) := by
  obtain ⟨text, done⟩ := (library.emit_ok_iff .direct {} ["lib.Util", "lib"]).mpr (by decide)
  obtain ⟨-, -, -, apart⟩ := document_by_sections library .direct {} ["lib.Util", "lib"]
  obtain ⟨blocks, written, rest⟩ := apart text done
  obtain ⟨handed, modules, other⟩ := rest "app" .direct
  exact ⟨blocks, handed, written, modules, other⟩

end Graph

end Ambient
