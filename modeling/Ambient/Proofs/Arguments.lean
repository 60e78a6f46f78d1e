import Ambient.CommandLine.Run
import Ambient.Proofs.Parsing
import Mathlib.Data.List.Forall2

/-!
Argument lists that spell a choice. Each value that is chosen stands after the name of its option,
attached or as the next argument, the path of the dump stands alone, and a flag is its name. In
whatever order they stand, they are parsed as the choice: nothing that is still to come repeats what
was found so far. Only the order of the entry points is kept, and there are no others to emit if
there are any.
-/
namespace Ambient.CommandLine

inductive Valued where
  | program
  | output
  | root
  | modulePrefix
  | entryPoint
  deriving DecidableEq

inductive Flag where
  | noModuleAlias
  | inlineInterfaces
  | debug
  deriving DecidableEq

namespace EmitParams

def values (c : EmitParams) : Valued → List String
  | .program => [c.program]
  | .output => c.output?.toList
  | .root => c.root?.toList
  | .modulePrefix => c.modulePrefix?.toList
  | .entryPoint => c.entryPoints

def raises (c : EmitParams) : Flag → Bool
  | .noModuleAlias => c.noModuleAlias
  | .inlineInterfaces => c.inlineInterfaces
  | .debug => c.debug

end EmitParams

inductive Setting where
  | value (v : Valued) (text : String)
  | raised (f : Flag)
  deriving DecidableEq

def Setting.given? (v : Valued) : Setting → Option String
  | .value w text => if w = v then some text else none
  | .raised _ => none

def Valued.name? : Valued → Option String
  | .program => none
  | .output => some "output"
  | .root => some "root"
  | .modulePrefix => some "module-prefix"
  | .entryPoint => some "entry-point"

def Flag.name : Flag → String
  | .noModuleAlias => "no-module-alias"
  | .inlineInterfaces => "inline-interfaces"
  | .debug => "debug"

/-- The ways to spell a part of a choice by arguments. -/
inductive Spells : Setting → List String → Prop
  | program (path : String) : Spells (.value .program path) [path]
  | attached {v : Valued} {name : String} (named : v.name? = some name) (text : String) :
      Spells (.value v text) ["--" ++ name ++ "=" ++ text]
  | next {v : Valued} {name : String} (named : v.name? = some name) (text : String) :
      Spells (.value v text) ["--" ++ name, text]
  | shortAttached (text : String) : Spells (.value .output text) ["-o=" ++ text]
  | shortNext (text : String) : Spells (.value .output text) ["-o", text]
  | flag (f : Flag) : Spells (.raised f) ["--" ++ f.name]

namespace EmitParams

/-- Whether settings are those of a choice in some order, the entry points in their own. -/
structure Arranged (c : EmitParams) (settings : List Setting) : Prop where
  values : ∀ v, settings.filterMap (·.given? v) = c.values v
  flags : ∀ f, settings.count (.raised f) = (c.raises f).toNat

def Spelled (c : EmitParams) (arguments : List String) : Prop :=
  ∃ settings pieces, c.Arranged settings ∧ settings.Forall₂ Spells pieces ∧
    arguments = pieces.flatten

/-- Whether no value of a choice can be taken for an option. -/
def Plain (c : EmitParams) : Prop := ∀ v, ∀ text ∈ c.values v, IsPlain text

end EmitParams

/-! ## The declared arguments -/

def Valued.arg : Valued → Arg
  | .program => .programPath
  | .output => .output
  | .root => .root
  | .modulePrefix => .modulePrefix
  | .entryPoint => .entryPoint

def Flag.arg : Flag → Arg
  | .noModuleAlias => .noModuleAlias
  | .inlineInterfaces => .inlineInterfaces
  | .debug => .debug

theorem emit_declared : WellDeclared CommandName.emit.args where
  ids := by decide
  longs := by decide
  shorts := by decide
  sole := by decide
  once := by decide
  named := by decide
  lettered := by
    have letters : CommandName.emit.args.filterMap (·.short?) = ['o'] := rfl
    rw [letters]
    simp

theorem Valued.arg_mem (v : Valued) : v.arg.relaxed ∈ CommandName.emit.args.map Arg.relaxed := by
  cases v <;> decide

theorem Flag.arg_mem (f : Flag) : f.arg.relaxed ∈ CommandName.emit.args.map Arg.relaxed := by
  cases f <;> decide

theorem Valued.long?_arg (v : Valued) : v.arg.long? = v.name? := by
  cases v <;> rfl

theorem Valued.valued_arg (v : Valued) : v.arg.action ≠ .setTrue := by
  cases v <;> decide

theorem Valued.id_inj {v w : Valued} : v.arg.id = w.arg.id ↔ v = w := by
  cases v <;> cases w <;> decide

theorem Flag.id_inj {f g : Flag} : f.arg.id = g.arg.id ↔ f = g := by
  cases f <;> cases g <;> decide

theorem Spells.arg {v : Valued} {text : String} {piece : List String}
    (spells : Spells (.value v text) piece) : v.arg.relaxed.Spells text piece := by
  cases spells with
  | program => exact .alone rfl
  | attached named => exact .attached (v.long?_arg.trans named)
  | next named => exact .next (v.long?_arg.trans named)
  | shortAttached => exact Arg.Spells.shortAttached (a := Arg.output.relaxed) rfl
  | shortNext => exact Arg.Spells.shortNext (a := Arg.output.relaxed) rfl

theorem Spells.unescaped {s : Setting} {piece : List String} (spells : Spells s piece)
    (plain : ∀ v text, s = .value v text → IsPlain text) : "--" ∉ piece := by
  have free {text : String} (own : IsPlain text) : "--" ≠ text := by
    rintro rfl
    exact own.2 rfl
  have longer {name rest : String} (filled : name ≠ "") : "--" ≠ "--" ++ name ++ rest := by
    intro same
    have chars := congrArg String.toList same
    simp [filled] at chars
  have named {v : Valued} {name : String} (own : v.name? = some name) : name ≠ "" := by
    rintro rfl
    cases v <;> simp [Valued.name?] at own
  cases spells with
  | program => simpa using free (plain _ _ rfl)
  | attached own =>
    rw [List.mem_singleton, String.append_assoc]
    exact longer (named own)
  | @next v name own =>
    rw [List.mem_cons, List.mem_singleton, not_or]
    refine ⟨?_, free (plain _ _ rfl)⟩
    have : "--" ≠ "--" ++ name ++ "" := longer (named own)
    simpa using this
  | shortAttached text =>
    rw [List.mem_singleton]
    intro same
    have chars := congrArg String.toList same
    simp at chars
  | shortNext =>
    rw [List.mem_cons, List.mem_singleton, not_or]
    exact ⟨by decide, free (plain _ _ rfl)⟩
  | flag f =>
    rw [List.mem_singleton]
    cases f <;> decide

/-! ## What is found -/

namespace Matches

def after (m : Matches) : Setting → Matches
  | .value v text => m.add v.arg.id text
  | .raised f => m.raise f.arg.id

theorem many_after (m : Matches) (s : Setting) (v : Valued) :
    (m.after s).many v.arg.id = m.many v.arg.id ++ (s.given? v).toList := by
  cases s with
  | value w text =>
    rw [after, many_add, Setting.given?]
    by_cases same : w = v <;> simp [Valued.id_inj, same]
  | raised f => exact (List.append_nil _).symm

theorem count_after (m : Matches) (s : Setting) (f : Flag) :
    (m.after s).flags.count f.arg.id = m.flags.count f.arg.id + [s].count (.raised f) := by
  cases s with
  | value w text => simp [after, add]
  | raised g => by_cases same : g = f <;> simp [after, raise, Flag.id_inj, same]

theorem many_foldl_after (m : Matches) (settings : List Setting) (v : Valued) :
    (settings.foldl after m).many v.arg.id =
      m.many v.arg.id ++ settings.filterMap (·.given? v) := by
  induction settings generalizing m with
  | nil => simp
  | cons s settings ih =>
    rw [List.foldl_cons, ih, many_after, List.append_assoc]
    cases found : s.given? v <;> simp [found]

theorem count_foldl_after (m : Matches) (settings : List Setting) (f : Flag) :
    (settings.foldl after m).flags.count f.arg.id =
      m.flags.count f.arg.id + settings.count (.raised f) := by
  induction settings generalizing m with
  | nil => simp
  | cons s settings ih =>
    rw [List.foldl_cons, ih, count_after, Nat.add_assoc, ← List.count_append]
    rfl

end Matches

/-- Whether settings may follow what was found: they repeat nothing. -/
structure Fits (m : Matches) (settings : List Setting) : Prop where
  plain : ∀ v text, .value v text ∈ settings → IsPlain text
  sole : ∀ v, v ≠ .entryPoint →
    (m.many v.arg.id ++ settings.filterMap (·.given? v)).length ≤ 1
  once : ∀ f : Flag, m.flags.count f.arg.id + settings.count (.raised f) ≤ 1

namespace Fits

variable {m : Matches} {settings : List Setting}

theorem tail {s : Setting} (fits : Fits m (s :: settings)) : Fits (m.after s) settings where
  plain v text member := fits.plain v text (List.mem_cons_of_mem s member)
  sole v alone := by
    have all := fits.sole v alone
    rw [Matches.many_after, List.append_assoc]
    cases found : s.given? v <;> simpa [found] using all
  once f := by
    have all := fits.once f
    rw [Matches.count_after, Nat.add_assoc, ← List.count_append]
    exact all

theorem fresh {v : Valued} {text : String} (fits : Fits m (.value v text :: settings)) :
    v.arg.action = .append ∨ m.many v.arg.id = [] := by
  by_cases repeatable : v = .entryPoint
  · rw [repeatable]
    exact .inl rfl
  · have all := fits.sole v repeatable
    simp only [Setting.given?, List.filterMap_cons, if_true, List.length_append,
      List.length_cons] at all
    exact .inr (List.length_eq_zero_iff.mp (by omega))

theorem unraised {f : Flag} (fits : Fits m (.raised f :: settings)) :
    m.flag f.arg.id = false := by
  have all := fits.once f
  rw [List.count_cons_self] at all
  have absent : f.arg.id ∉ m.flags := List.count_eq_zero.mp (by omega)
  simpa [Matches.flag] using absent

end Fits

namespace Parser.Documented

variable {parse : Parser} (documented : parse.Documented)

include documented

theorem parse_spelled {s : Setting} {settings : List Setting} {piece line : List String}
    {m : Matches} (spells : Spells s piece) (fits : Fits m (s :: settings))
    (unescaped : "--" ∉ line)
    (parsed : parse (CommandName.emit.args.map Arg.relaxed) line = .ok m) :
    parse (CommandName.emit.args.map Arg.relaxed) (line ++ piece) = .ok (m.after s) := by
  have declared := emit_declared.relaxed
  cases s with
  | value v text =>
    have plain := fits.plain v text List.mem_cons_self
    have found : parse _ (line ++ piece) = .ok (m.add v.arg.relaxed.id text) :=
      documented.value declared v.arg_mem v.valued_arg fits.fresh plain spells.arg unescaped parsed
    exact found
  | raised f =>
    obtain ⟨⟩ := spells
    have named : f.arg.relaxed.long? = some f.name := by cases f <;> rfl
    have raised : f.arg.relaxed.action = .setTrue := by cases f <;> rfl
    have found : parse _ (line ++ ["--" ++ f.name]) = .ok (m.raise f.arg.relaxed.id) :=
      documented.flag declared f.arg_mem raised named fits.unraised unescaped parsed
    exact found

/-- Parts that fit are found one after the other, by induction on them. -/
theorem parse_flatten {settings : List Setting} {pieces : List (List String)}
    (spelled : settings.Forall₂ Spells pieces) {line : List String} {m : Matches}
    (fits : Fits m settings) (unescaped : "--" ∉ line)
    (parsed : parse (CommandName.emit.args.map Arg.relaxed) line = .ok m) :
    parse (CommandName.emit.args.map Arg.relaxed) (line ++ pieces.flatten) =
      .ok (settings.foldl Matches.after m) := by
  induction spelled generalizing line m with
  | nil => simpa using parsed
  | @cons s piece settings pieces spells _ ih =>
    have next := documented.parse_spelled spells fits unescaped parsed
    have free : "--" ∉ piece := spells.unescaped fun v text same =>
      fits.plain v text (same ▸ List.mem_cons_self)
    have unescaped' : "--" ∉ line ++ piece := by
      rw [List.mem_append, not_or]
      exact ⟨unescaped, free⟩
    rw [List.flatten_cons, ← List.append_assoc]
    exact ih fits.tail unescaped' next

end Parser.Documented

/-! ## The choice -/

namespace EmitParams

variable {c : EmitParams} {settings : List Setting}

theorem length_values (c : EmitParams) {v : Valued} (alone : v ≠ .entryPoint) :
    (c.values v).length ≤ 1 := by
  cases v with
  | program => exact Nat.le_refl 1
  | output => exact Option.length_toList_le
  | root => exact Option.length_toList_le
  | modulePrefix => exact Option.length_toList_le
  | entryPoint => contradiction

theorem Arranged.fits (arranged : c.Arranged settings) (plain : c.Plain) : Fits {} settings where
  plain v text member := by
    refine plain v text ?_
    rw [← arranged.values v]
    exact List.mem_filterMap.mpr ⟨_, member, if_pos rfl⟩
  sole v alone := by
    have length : (settings.filterMap (·.given? v)).length ≤ 1 :=
      arranged.values v ▸ c.length_values alone
    exact length
  once f := by
    rw [arranged.flags f]
    simpa using Bool.toNat_le (c.raises f)

theorem flag_of_count {m : Matches} {f : Flag} {raised : Bool}
    (counted : m.flags.count f.arg.id = raised.toNat) : m.flag f.arg.id = raised := by
  cases raised with
  | true =>
    have member : f.arg.id ∈ m.flags := List.count_pos_iff.mp (by simp [counted])
    simpa [Matches.flag] using member
  | false => simpa [Matches.flag] using List.count_eq_zero.mp counted

/-- The ids under which matches are looked up are those that the arguments are declared with. -/
theorem ofMatches_eq {m : Matches} (values : ∀ v : Valued, m.many v.arg.id = c.values v)
    (flags : ∀ f : Flag, m.flag f.arg.id = c.raises f) : ofMatches m = c := by
  have program : m.many "program_path" = [c.program] := values .program
  have output : m.many "output" = c.output?.toList := values .output
  have root : m.many "root" = c.root?.toList := values .root
  have modulePrefix : m.many "module_prefix" = c.modulePrefix?.toList := values .modulePrefix
  have entryPoints : m.many "entry_point" = c.entryPoints := values .entryPoint
  have noModuleAlias : m.flag "no_module_alias" = c.noModuleAlias := flags .noModuleAlias
  have inlineInterfaces : m.flag "inline_interfaces" = c.inlineInterfaces :=
    flags .inlineInterfaces
  have debug : m.flag "debug" = c.debug := flags .debug
  simp only [ofMatches, Matches.program, Matches.one?, program, output, root, modulePrefix,
    entryPoints, noModuleAlias, inlineInterfaces, debug, List.head?_cons, Option.head?_toList,
    Option.getD_some]

theorem emits_iff (c : EmitParams) (name : Name) :
    c.toArguments.config.emits name = true ↔ c.entryPoints = [] ∨ name ∈ c.entryPoints := by
  cases points : c.entryPoints with
  | nil => simp [Config.emits, EmitArguments.config, toArguments, points]
  | cons point points' => simp [Config.emits, EmitArguments.config, toArguments, points]

/-- However a choice is spelled, it is parsed as this choice. The exports are restricted exactly if
an entry point was given, and then to the entry points. -/
theorem spelled_choice_read {parse : Parser} (documented : parse.Documented) (plain : c.Plain)
    {arguments : List String} (spelled : c.Spelled arguments) :
    (∃ m, parse CommandName.emit.args arguments = .ok m ∧ ofMatches m = c ∧
      Command.ofMatches m .emit = .emit {
        program := c.program
        output? := c.output?
        root? := c.root?
        modulePrefix? := c.modulePrefix?
        entryPoints := c.entryPoints
        moduleAlias := !c.noModuleAlias
        inlineInterfaces := c.inlineInterfaces } c.debug) ∧
      (c.toArguments.config.entryPoints? ≠ none ↔ c.entryPoints ≠ []) ∧
      ∀ name, c.toArguments.config.emits name = true ↔
        c.entryPoints = [] ∨ name ∈ c.entryPoints := by
  obtain ⟨settings, pieces, arranged, spelled, rfl⟩ := spelled
  have free : ∀ a ∈ CommandName.emit.args.map Arg.relaxed, a.required = false := by decide
  have start := documented.nothing emit_declared.relaxed free
  have found := documented.parse_flatten spelled (arranged.fits plain) List.not_mem_nil start
  rw [List.nil_append] at found
  have values (v : Valued) : (settings.foldl Matches.after {}).many v.arg.id = c.values v := by
    rw [Matches.many_foldl_after, arranged.values v]
    rfl
  have flags (f : Flag) : (settings.foldl Matches.after {}).flag f.arg.id = c.raises f := by
    refine flag_of_count ?_
    rw [Matches.count_foldl_after, arranged.flags f]
    exact Nat.zero_add _
  have same := ofMatches_eq values flags
  refine ⟨⟨_, documented.required emit_declared found fun a known required => ?_, same, ?_⟩, ?_,
    c.emits_iff⟩
  · have sole : ∀ a ∈ CommandName.emit.args, a.required = true → a = .programPath := by decide
    rw [sole a known required]
    have given := values .program
    simp only [Valued.arg, EmitParams.values] at given
    simp [given]
  · rw [Command.ofMatches, same]
    rfl
  · simp [EmitArguments.config, toArguments]

def full : EmitParams where
  program := "program.json"
  output? := some "out.d.ts"
  root? := some "my=internal"
  modulePrefix? := some "pkg"
  entryPoints := ["a.X", "a.Y"]
  noModuleAlias := true
  debug := true

theorem full_spelled : full.Spelled
    ["--entry-point", "a.X", "-o=out.d.ts", "--debug", "program.json", "--root=my=internal",
      "--no-module-alias", "--entry-point=a.Y", "--module-prefix", "pkg"] := by
  refine ⟨[.value .entryPoint "a.X", .value .output "out.d.ts", .raised .debug,
    .value .program "program.json", .value .root "my=internal", .raised .noModuleAlias,
    .value .entryPoint "a.Y", .value .modulePrefix "pkg"], _,
    ⟨fun v => by cases v <;> decide, fun f => by cases f <;> decide⟩,
    .cons (.next rfl "a.X") <| .cons (.shortAttached "out.d.ts") <| .cons (.flag .debug) <|
      .cons (.program "program.json") <| .cons (.attached rfl "my=internal") <|
      .cons (.flag .noModuleAlias) <| .cons (.attached rfl "a.Y") <|
      .cons (.next rfl "pkg") .nil, ?_⟩
  decide

theorem full_choice_read :
    full.Plain ∧
      (∃ m, parseArguments CommandName.emit.args ["--entry-point", "a.X", "-o=out.d.ts", "--debug",
        "program.json", "--root=my=internal", "--no-module-alias", "--entry-point=a.Y",
        "--module-prefix", "pkg"] = .ok m ∧ Command.ofMatches m .emit = .emit {
          program := "program.json"
          output? := some "out.d.ts"
          root? := some "my=internal"
          modulePrefix? := some "pkg"
          entryPoints := ["a.X", "a.Y"]
          moduleAlias := false
          inlineInterfaces := false } true) ∧
      full.toArguments.config.entryPoints? ≠ none ∧
      full.toArguments.config.emits "a.Z" = false := by
  have plain : full.Plain := by
    intro v
    cases v <;> decide
  obtain ⟨⟨m, parsed, -, read⟩, restricted, emits⟩ :=
    spelled_choice_read parseArguments_documented plain full_spelled
  refine ⟨plain, ⟨m, parsed, read⟩, restricted.mpr (by decide), ?_⟩
  rw [Bool.eq_false_iff, ne_eq, emits "a.Z"]
  decide

end EmitParams

end Ambient.CommandLine
