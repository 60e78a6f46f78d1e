import Ambient.Listing
import Ambient.Proofs.Paths

namespace Ambient

/-- What is logged when an export comes to be declared: its name, its namespace and its kind. -/
def Event.placed? : Event → Option (Name × Name × Bool)
  | .declaringExport exportName ns isDefault => some (exportName, ns, isDefault)
  | _ => none

theorem Event.placed?_passesMembers : Event.PassesMembers Event.placed? where
  excluded _ _ := rfl
  exported _ _ _ := rfl
  skipped _ _ := rfl

def Section.listingLine (s : Section) : String :=
  let ns := if s.namespaceName = "" then "<global>" else s.namespaceName
  let kind := if s.isDefault then "default" else "namespace"
  s.exportName ++ "\t" ++ ns ++ "\t" ++ kind ++ "\n"

theorem Section.put_header (c : Config) (s : Section) :
    ∃ rest, (s.put c {}).text =
      "declare namespace " ++ c.blockPath s.namespaceName ++ " \x7b\n" ++ rest := by
  obtain ⟨rest, written⟩ := Writer.block_text {} (c.namespaceHeader s.namespaceName) "\x7d"
    (Item.putAll_text (s.declarations.flatMap (·.items)))
  rw [Writer.line_fresh] at written
  refine ⟨rest ++ (s.putModule c {}).text, ?_⟩
  calc (s.put c {}).text
      = (s.putNamespace c {}).text ++ (s.putModule c {}).text := s.put_fresh c
    _ = (c.namespaceHeader s.namespaceName ++ "\n" ++ rest) ++ (s.putModule c {}).text :=
      congrArg (· ++ (s.putModule c {}).text) written
    _ = _ := by
      rw [c.namespaceHeader_eq]
      simp only [String.append_assoc]
      rfl

namespace Emission

variable (em : Emission)

theorem placed_of_sections {sections : List Section} (found : em.sections = .ok sections) :
    ∃ placed, em.exports.names.mapM em.graph.place = .ok placed ∧
      sections = placed.map em.sectionOf := by
  unfold Emission.sections at found
  generalize em.exports.names = names at found ⊢
  induction names generalizing sections with
  | nil =>
    cases found
    exact ⟨[], rfl, rfl⟩
  | cons e names ih =>
    rw [List.mapM_cons] at found
    obtain ⟨s, first, rest⟩ := bind_eq_ok_iff.mp found
    obtain ⟨others, later, same⟩ := bind_eq_ok_iff.mp rest
    cases same
    obtain ⟨p, place, rfl⟩ := em.section?_eq_ok first
    obtain ⟨placed, places, rfl⟩ := ih later
    refine ⟨p :: placed, ?_, rfl⟩
    rw [List.mapM_cons, place, places]
    rfl

theorem declarationEvents_placed (ns : Name) (isDefault : Bool) (d : Declared) :
    (em.declarationEvents ns isDefault d).filterMap Event.placed? = [] :=
  em.declarationEvents_filterMap Event.placed?_passesMembers ns isDefault d

theorem blockEvents_placed (p : PlacedExport) :
    (em.blockEvents p).filterMap Event.placed? = [] := by
  unfold blockEvents
  split
  · exact em.declarationEvents_placed p.namespaceName true ⟨p.name, p.type⟩
  · rw [List.filterMap_flatMap, List.flatMap_eq_nil_iff]
    intro s _
    unfold siblingEvents
    cases em.sibling p.namespaceName s with
    | ok type => exact em.declarationEvents_placed p.namespaceName false ⟨s.name, type⟩
    | error reason => rfl

theorem exportEvents_placed {e : Name} {p : PlacedExport} (placed : em.graph.place e = .ok p) :
    (em.exportEvents e).filterMap Event.placed? = [(p.name, p.namespaceName, p.isDefault)] := by
  unfold exportEvents
  rw [placed]
  exact congrArg ((p.name, p.namespaceName, p.isDefault) :: ·) (em.blockEvents_placed p)

theorem events_placed (sound : em.firstError? = none) {placed : List PlacedExport}
    (places : em.exports.names.mapM em.graph.place = .ok placed) :
    em.events.filterMap Event.placed? =
      placed.map fun p => (p.name, p.namespaceName, p.isDefault) := by
  have each := List.findSome?_eq_none_iff.mp sound
  have whole := throughFirst_eq_self (fun e => (em.exportError? e).isSome)
    fun e he => by rw [each e he]; rfl
  unfold events
  rw [whole, List.filterMap_flatMap]
  generalize em.exports.names = names at places ⊢
  induction names generalizing placed with
  | nil =>
    cases places
    rfl
  | cons e names ih =>
    rw [List.mapM_cons] at places
    obtain ⟨p, first, rest⟩ := bind_eq_ok_iff.mp places
    obtain ⟨others, later, same⟩ := bind_eq_ok_iff.mp rest
    cases same
    rw [List.flatMap_cons, em.exportEvents_placed first, ih later]
    rfl

end Emission

namespace Graph

variable (g : Graph)

theorem place_eq_error {e : Name} {error : EmitError} (failed : g.place e = .error error)
    (emitted : List Name) :
    g.exportProblem? emitted e = some error ∧
      (error = .unresolvedExport e ∨ error = .untypedSymbol e) := by
  unfold place at failed
  unfold exportProblem?
  cases resolved : g.resolve? e with
  | none =>
    rw [resolved] at failed
    cases failed
    exact ⟨rfl, .inl rfl⟩
  | some s =>
    rw [resolved] at failed
    obtain ⟨name, type?⟩ := s
    cases type? with
    | none =>
      cases failed
      exact ⟨rfl, .inr rfl⟩
    | some type => contradiction

theorem thisNotObject_of_place {emitted : List Name} {e : Name} {p : PlacedExport}
    (placed : g.place e = .ok p) {error : EmitError}
    (problem : g.exportProblem? emitted e = some error) :
    ∃ s ∈ g.blockSymbols emitted e, ∃ found, error = .thisNotObject s.name found := by
  obtain ⟨-, resolved⟩ := (g.place_eq_ok_iff e p).mp placed
  unfold exportProblem? at problem
  rw [resolved] at problem
  obtain ⟨s, member, stated⟩ := List.exists_of_findSome?_eq_some problem
  unfold Symbol.instanceProblem? at stated
  split at stated
  · split at stated
    · contradiction
    · exact ⟨s, member, _, (Option.some.inj stated).symm⟩
  · contradiction

theorem emitted_exports {config : Config} (unrestricted : config.entryPoints? = none) :
    config.emitted g.exports.names = g.exports.names := by
  refine congrArg Table.names (NameSet.eq_of_mem_names_iff fun e => ?_)
  rw [NameSet.mem_names_ofList, List.mem_filter, Config.emits, unrestricted]
  exact and_iff_left rfl

variable (view : MemberView) {config : Config}

theorem listing_of_emit (unrestricted : config.entryPoints? = none) {text : String}
    (done : g.emit view config g.exports.names = .ok text) :
    ∃ sections, (Emission.ofGiven g view config g.exports.names).sections = .ok sections ∧
      text = String.join (sections.map fun s => (s.put config {}).text) ∧
      (∀ s ∈ sections, ∃ rest, (s.put config {}).text =
        "declare namespace " ++ config.blockPath s.namespaceName ++ " \x7b\n" ++ rest) ∧
      sections.map (·.exportName) = g.exports.names ∧
      (g.emitLog view config g.exports.names).filterMap Event.placed? =
        sections.map (fun s => (s.exportName, s.namespaceName, s.isDefault)) ∧
      g.listing = .ok (String.join (sections.map (·.listingLine))) := by
  have sound := (g.emit_ok_iff view config _).mp ⟨text, done⟩
  have own : config.emitted g.exports.names = g.exports.names := g.emitted_exports unrestricted
  obtain ⟨sections, found, -, named⟩ := g.sections_of_emit view config g.exports.names done
  have names := (g.names_of_sections named).1.trans own
  have written := Emission.document_of_sections _ found
  rw [← emit_eq_document, done] at written
  obtain ⟨placed, places, rfl⟩ := Emission.placed_of_sections _ found
  have rejected : (config.rejections g.exports.names).filterMap Event.placed? = [] := by
    simp [Config.rejections, Event.placed?]
  refine ⟨_, found, Except.ok.inj written, fun s _ => s.put_header config, names, ?_, ?_⟩
  · rw [emitLog_eq_events, List.filterMap_append, rejected, Emission.events_placed _ sound places,
      List.map_map]
    rfl
  · change (config.emitted g.exports.names).mapM g.place = .ok placed at places
    rw [own] at places
    unfold listing placedExports
    rw [List.map_map]
    exact congrArg (Except.map _) places

/-- Where the listing stops at an export that cannot be placed, the emission stops there too, or at
a declaration in the section of an export before it. -/
theorem emit_of_listing_error (unrestricted : config.entryPoints? = none) {error : EmitError}
    (failed : g.listing = .error error) :
    ∃ e ∈ g.exports.names, (error = .unresolvedExport e ∨ error = .untypedSymbol e) ∧
      (g.emit view config g.exports.names = .error error ∨
        ∃ d ∈ g.exports.names, d < e ∧ ∃ s ∈ g.blockSymbols g.exports.names d, ∃ found,
          g.emit view config g.exports.names = .error (.thisNotObject s.name found)) := by
  have stopped : g.exports.names.mapM g.place = .error error := by
    unfold listing placedExports at failed
    cases places : g.exports.names.mapM g.place with
    | ok placed =>
      rw [places] at failed
      contradiction
    | error e =>
      rw [places] at failed
      exact congrArg Except.error (Except.error.inj failed)
  obtain ⟨before, e, after, split, passed, unplaced⟩ := mapM_eq_error stopped
  obtain ⟨problem, kind⟩ := g.place_eq_error unplaced g.exports.names
  have ends (other : EmitError) : g.emit view config g.exports.names = .error other ↔
      (before.findSome? (g.exportProblem? g.exports.names)).or (some error) = some other := by
    rw [emit_error_iff_exportProblem?, g.emitted_exports unrestricted]
    generalize g.exportProblem? g.exports.names = problem? at problem
    rw [split, List.findSome?_append, List.findSome?_cons, problem]
  refine ⟨e, by simp [split], kind, ?_⟩
  cases first : before.findSome? (g.exportProblem? g.exports.names) with
  | none => exact .inl ((ends error).mpr (by rw [first]; rfl))
  | some other =>
    obtain ⟨d, member, stated⟩ := List.exists_of_findSome?_eq_some first
    obtain ⟨p, placed⟩ := passed d member
    obtain ⟨s, inside, found, rfl⟩ := g.thisNotObject_of_place placed stated
    have ascending := g.exports.names_ascending
    rw [split] at ascending
    have earlier := (List.pairwise_append.mp ascending).2.2 d member e List.mem_cons_self
    refine .inr ⟨d, by simp [split, member], earlier, s, inside, found, ?_⟩
    exact (ends _).mpr (by rw [first]; rfl)

/-- The listing has the exports of the document, one line for each in their order, with the
namespace that the section opens its block for and the kind that is declared. Where it fails the
emission fails, with the same error or with that of a declaration before it. -/
theorem listing_agrees (unrestricted : config.entryPoints? = none) :
    (∀ text, g.emit view config g.exports.names = .ok text →
      ∃ sections, (Emission.ofGiven g view config g.exports.names).sections = .ok sections ∧
        text = String.join (sections.map fun s => (s.put config {}).text) ∧
        (∀ s ∈ sections, ∃ rest, (s.put config {}).text =
          "declare namespace " ++ config.blockPath s.namespaceName ++ " \x7b\n" ++ rest) ∧
        sections.map (·.exportName) = g.exports.names ∧
        (g.emitLog view config g.exports.names).filterMap Event.placed? =
          sections.map (fun s => (s.exportName, s.namespaceName, s.isDefault)) ∧
        g.listing = .ok (String.join (sections.map (·.listingLine)))) ∧
    ∀ error, g.listing = .error error →
      ∃ e ∈ g.exports.names, (error = .unresolvedExport e ∨ error = .untypedSymbol e) ∧
        (g.emit view config g.exports.names = .error error ∨
          ∃ d ∈ g.exports.names, d < e ∧ ∃ s ∈ g.blockSymbols g.exports.names d, ∃ found,
            g.emit view config g.exports.names = .error (.thisNotObject s.name found)) := by
  constructor
  · intro text done
    exact g.listing_of_emit view unrestricted done
  · intro error failed
    exact g.emit_of_listing_error view unrestricted failed

/-- The two exports of the library are listed as they are emitted. Of the other program the listing
fails at a lost export, and the emission fails already at the class before it. -/
theorem library_listing_agrees :
    Config.entryPoints? {} = none ∧
      (∃ sections,
        (Emission.ofGiven library .direct {} ["lib", "lib.Util"]).sections = .ok sections ∧
        sections.map (·.exportName) = ["lib", "lib.Util"] ∧
        library.listing = .ok (String.join (sections.map (·.listingLine)))) ∧
      numbered.listing = .error (.unresolvedExport "lost") ∧
      ∃ error, numbered.emit .direct {} numbered.exports.names = .error error := by
  have free : Config.entryPoints? {} = none := rfl
  obtain ⟨text, done⟩ := (library.emit_ok_iff .direct {} library.exports.names).mpr (by decide)
  obtain ⟨sections, found, -, -, names, -, listed⟩ :=
    (listing_agrees library .direct free).1 text done
  have lost : numbered.listing = .error (.unresolvedExport "lost") := rfl
  obtain ⟨-, -, -, same | ⟨-, -, -, s, -, type, earlier⟩⟩ :=
    (listing_agrees numbered .direct free).2 _ lost
  · exact ⟨free, ⟨sections, found, names, listed⟩, lost, _, same⟩
  · exact ⟨free, ⟨sections, found, names, listed⟩, lost, _, earlier⟩

example : library.listing = .ok "lib\tlib\tnamespace\nlib.Util\tlib\tdefault\n" := by decide

end Graph

end Ambient
