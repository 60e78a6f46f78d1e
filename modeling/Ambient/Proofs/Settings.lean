import Ambient.CommandLine.Run
import Ambient.Proofs.Outcome
import Ambient.Proofs.Reads

namespace Ambient

theorem Symbol.instanceProblem?_eq_none_iff (s : Symbol) (ns : Name) :
    s.instanceProblem? ns = none ↔
      ∀ c, s.type? = some (.classlike c) → c.instanceType.isObject = true := by
  unfold instanceProblem?
  split
  · next c typed =>
    rw [typed]
    cases object : c.instanceType.isObject with
    | true => simp [object]
    | false => simp [object]
  · next other =>
    exact ⟨fun _ c typed => absurd typed (other c), fun _ => rfl⟩

namespace Graph

variable (g : Graph)

theorem exportProblem?_eq_none_iff (emitted : List Name) (e : Name) :
    g.exportProblem? emitted e = none ↔
      (∃ type, g.resolve? e = some ⟨e, some type⟩) ∧
        ∀ s ∈ g.blockSymbols emitted e, s.instanceProblem? (g.blockNamespace e) = none := by
  unfold exportProblem?
  cases resolved : g.resolve? e with
  | none => simp
  | some s =>
    obtain ⟨name, type?⟩ := s
    have named : name = e := ((g.resolve?_eq_some_iff e _).mp resolved).2
    cases type? with
    | none => simp
    | some type => simp [named]

theorem mem_blockSymbols_of_classlike (emitted : List Name) {s : Symbol} {c : ClassType Ty}
    (member : s ∈ g.symbolList) (typed : s.type? = some (.classlike c)) :
    s ∈ g.blockSymbols emitted s.name := by
  have resolved : g.resolve? s.name = some s := (g.resolve?_eq_some_iff s.name s).mpr ⟨member, rfl⟩
  have kind : g.isDefaultExport s.name = true := by
    simp [isDefaultExport, resolved, typed, Ty.isDefaultExport, Ty.isFunction]
  unfold blockSymbols
  rw [if_pos kind, resolved]
  exact List.mem_singleton.mpr rfl

theorem mem_blockSymbols_of_restrict {all fewer : List Name} {e : Name} {s : Symbol}
    (own : s.name ∉ all) (member : s ∈ g.blockSymbols fewer e) : s ∈ g.blockSymbols all e := by
  unfold blockSymbols at member ⊢
  cases kind : g.isDefaultExport e with
  | true =>
    rw [kind] at member
    exact member
  | false =>
    rw [kind] at member
    obtain ⟨known, kept⟩ := (g.mem_eligible_iff fewer e s).mp member
    obtain ⟨child, plain, -, free⟩ := (s.isEligible_iff fewer e).mp kept
    exact (g.mem_eligible_iff all e s).mpr
      ⟨known, (s.isEligible_iff all e).mpr ⟨child, plain, own, free⟩⟩

/-- Among exports without a problem none gets one when others lose their blocks: a symbol that comes
back as a child was checked before, in its own block or in this one. -/
theorem exportProblem?_restrict {all : List Name}
    (sound : ∀ e ∈ all, g.exportProblem? all e = none) (fewer : List Name) {e : Name}
    (he : e ∈ all) : g.exportProblem? fewer e = none := by
  obtain ⟨typed, inside⟩ := (g.exportProblem?_eq_none_iff all e).mp (sound e he)
  refine (g.exportProblem?_eq_none_iff fewer e).mpr ⟨typed, fun s member => ?_⟩
  refine (s.instanceProblem?_eq_none_iff _).mpr fun c classlike => ?_
  have known := g.mem_symbolList_of_blockSymbols member
  -- a class with a block of its own was declared there, perhaps under another namespace, but
  -- whether its instances are objects does not depend on the namespace
  by_cases own : s.name ∈ all
  · obtain ⟨-, checked⟩ := (g.exportProblem?_eq_none_iff all s.name).mp (sound s.name own)
    have free := checked s (g.mem_blockSymbols_of_classlike all known classlike)
    exact (s.instanceProblem?_eq_none_iff _).mp free c classlike
  · have free := inside s (g.mem_blockSymbols_of_restrict own member)
    exact (s.instanceProblem?_eq_none_iff _).mp free c classlike

theorem emits_of_checked (view view' : MemberView) (config : Config) {given : List Name}
    (checked : ∃ text, g.emit view {} g.exports.names = .ok text)
    (own : ∀ e ∈ given, e ∈ g.exports.names) :
    ∃ text, g.emit view' config given = .ok text := by
  have sound := (g.emit_ok_iff_exportProblem? view {} g.exports.names).mp checked
  refine (g.emit_ok_iff_exportProblem? view' config given).mpr fun e he => ?_
  have asked := ((config.mem_emitted_iff given e).mp he).1
  have whole : e ∈ Config.emitted {} g.exports.names :=
    (Config.mem_emitted_iff {} g.exports.names e).mpr ⟨own e asked, rfl⟩
  exact g.exportProblem?_restrict sound _ whole

end Graph

theorem Config.emitted_congr {config config' : Config} {given given' : List Name}
    (same : ∀ e, e ∈ given ∧ config.emits e = true ↔ e ∈ given' ∧ config'.emits e = true) :
    config.emitted given = config'.emitted given' :=
  congrArg Table.names (emittedSet_congr same)

namespace Graph

variable (g : Graph)

theorem emit_reply_of_check (path : String) (debug debug' : Bool) (a : CommandLine.EmitArguments)
    (checked : ∃ reply, (CommandLine.Command.check path debug).reply g = .ok reply) :
    ∃ reply, (CommandLine.Command.emit a debug').reply g = .ok reply := by
  have text : ∃ text, g.emit .throughNames {} g.exports.names = .ok text := by
    obtain ⟨reply, done⟩ := checked
    unfold CommandLine.Command.reply at done
    cases emitted : g.emit .throughNames {} g.exports.names with
    | ok text => exact ⟨text, rfl⟩
    | error error =>
      rw [emitted] at done
      contradiction
  obtain ⟨text, done⟩ := g.emits_of_checked .throughNames .throughNames a.config text
    fun e he => he
  exact ⟨_, congrArg (Except.map _) done⟩

/-- The settings never make a checked program fail. More generally, settings that allow the same
exports succeed both or fail both with the same error. -/
theorem settings_keep_outcome :
    (∀ view, (∃ text, g.emit view {} g.exports.names = .ok text) →
      ∀ view' config given, (∀ e ∈ given, e ∈ g.exports.names) →
        ∃ text, g.emit view' config given = .ok text) ∧
    ∀ view config given view' config' given',
      (∀ e, e ∈ given ∧ config.emits e = true ↔ e ∈ given' ∧ config'.emits e = true) →
      ((∃ text, g.emit view config given = .ok text) ∧
        ∃ text, g.emit view' config' given' = .ok text) ∨
      ∃ error, g.emit view config given = .error error ∧
        g.emit view' config' given' = .error error := by
  constructor
  · intro view checked view' config given own
    exact g.emits_of_checked view view' config checked own
  · intro view config given view' config' given' same
    have emitted := Config.emitted_congr same
    cases outcome : g.emit view config given with
    | ok text =>
      have sound := (g.emit_ok_iff_exportProblem? view config given).mp ⟨text, outcome⟩
      rw [emitted] at sound
      exact .inl ⟨⟨text, rfl⟩, (g.emit_ok_iff_exportProblem? view' config' given').mpr sound⟩
    | error error =>
      have problem := (g.emit_error_iff_exportProblem? view config given error).mp outcome
      rw [emitted] at problem
      exact .inr ⟨error, rfl,
        (g.emit_error_iff_exportProblem? view' config' given' error).mpr problem⟩

/-- With one entry point the class of the library comes back as a child of it. -/
theorem library_settings_keep_outcome :
    (∃ text, library.emit .direct {} library.exports.names = .ok text) ∧
      ∃ text, library.emit .throughNames { entryPoints? := some ["lib"] } ["lib.Util", "lib"] =
        .ok text := by
  have checked := (library.emit_ok_iff .direct {} library.exports.names).mpr (by decide)
  obtain ⟨keeps, -⟩ := settings_keep_outcome library
  exact ⟨checked, keeps .direct checked .throughNames _ ["lib.Util", "lib"] (by decide)⟩

end Graph

end Ambient
