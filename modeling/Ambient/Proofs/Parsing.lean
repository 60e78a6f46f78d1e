import Ambient.CommandLine.Arguments
import Ambient.Proofs.Results
import Mathlib.Data.List.TakeWhile

namespace Ambient.CommandLine

theorem ofArgument_of_isPlain {text : String} (plain : IsPlain text) :
    Token.ofArgument text = .value := by
  obtain ⟨-, first⟩ := plain
  unfold Token.ofArgument
  split
  · next chars => simp [chars] at first
  · next chars => simp [chars] at first
  · next chars => simp [chars] at first
  · rfl

theorem ne_equals_of_not_mem {cs : List Char} (free : '=' ∉ cs) : ∀ c ∈ cs, (c != '=') = true := by
  intro c member
  have other : c ≠ '=' := by
    rintro rfl
    exact free member
  simpa using other

theorem splitEquals_attached {cs : List Char} (free : '=' ∉ cs) (value : List Char) :
    splitEquals (cs ++ '=' :: value) = .long (String.ofList cs) (some (String.ofList value)) := by
  have own := ne_equals_of_not_mem free
  simp [splitEquals, List.takeWhile_append_of_pos own, List.dropWhile_append_of_pos own]

theorem splitEquals_name {cs : List Char} (free : '=' ∉ cs) :
    splitEquals cs = .long (String.ofList cs) none := by
  have own := ne_equals_of_not_mem free
  have whole : cs.takeWhile (· != '=') = cs := List.takeWhile_eq_self_iff.mpr own
  have rest : cs.dropWhile (· != '=') = [] := List.dropWhile_eq_nil_iff.mpr own
  simp [splitEquals, whole, rest]

/-- Two dashes with something after them do not end the options. -/
theorem ofArgument_long {argument : String} {cs : List Char} (filled : cs ≠ [])
    (chars : argument.toList = '-' :: '-' :: cs) : Token.ofArgument argument = splitEquals cs := by
  obtain ⟨c, cs, rfl⟩ := List.exists_cons_of_ne_nil filled
  unfold Token.ofArgument
  rw [chars]
  rfl

theorem ofArgument_attached {name : String} (named : IsOptionName name) (text : String) :
    Token.ofArgument ("--" ++ name ++ "=" ++ text) = .long name (some text) := by
  have chars : ("--" ++ name ++ "=" ++ text).toList =
      '-' :: '-' :: (name.toList ++ '=' :: text.toList) := by simp
  rw [ofArgument_long (by simp) chars, splitEquals_attached named.2]
  simp

theorem ofArgument_name {name : String} (named : IsOptionName name) :
    Token.ofArgument ("--" ++ name) = .long name none := by
  have chars : ("--" ++ name).toList = '-' :: '-' :: name.toList := by simp
  rw [ofArgument_long (by simpa using named.1) chars, splitEquals_name named.2]
  simp

theorem ofArgument_short {argument : String} {letter : Char} {cs : List Char}
    (other : letter ≠ '-') (chars : argument.toList = '-' :: letter :: cs) :
    Token.ofArgument argument = .short letter cs := by
  unfold Token.ofArgument
  rw [chars]
  split
  · simp_all
  · simp_all
  · next same => cases same; rfl
  · next unmatched => exact absurd rfl (unmatched letter cs)

theorem eq_of_ofArgument_escape {argument : String} (form : Token.ofArgument argument = .escape) :
    argument = "--" := by
  unfold Token.ofArgument at form
  split at form
  · next chars => exact String.toList_inj.mp chars
  · unfold splitEquals at form
    split at form <;> contradiction
  · contradiction
  · contradiction

theorem find?_of_filterMap {β : Type} [DecidableEq β] {args : List Arg} {f : Arg → Option β}
    (distinct : (args.filterMap f).Nodup) {a : Arg} {b : β} (known : a ∈ args)
    (own : f a = some b) : args.find? (fun a' => f a' = some b) = some a := by
  induction args with
  | nil => contradiction
  | cons a' args ih =>
    cases found : f a' with
    | none =>
      have other : a ≠ a' := by
        rintro rfl
        simp [own] at found
      rw [List.filterMap_cons_none found] at distinct
      rw [List.find?_cons_of_neg (by simp [found])]
      exact ih distinct ((List.mem_cons.mp known).resolve_left other)
    | some b' =>
      rw [List.filterMap_cons_some found, List.nodup_cons] at distinct
      by_cases same : b' = b
      · subst same
        rw [List.find?_cons_of_pos (by simp [found])]
        rcases List.mem_cons.mp known with rfl | later
        · rfl
        · exact absurd (List.mem_filterMap.mpr ⟨a, later, own⟩) distinct.1
      · have other : a ≠ a' := by
          rintro rfl
          exact same (Option.some.inj (found.symm.trans own))
        rw [List.find?_cons_of_neg (by simp [found, same])]
        exact ih distinct.2 ((List.mem_cons.mp known).resolve_left other)

namespace WellDeclared

variable {args : List Arg} (declared : WellDeclared args) {a : Arg}

include declared

theorem find?_positional (known : a ∈ args) (unnamed : a.isPositional = true) :
    args.find? (·.isPositional) = some a := by
  have among : a ∈ args.filter (·.isPositional) := List.mem_filter.mpr ⟨known, unnamed⟩
  obtain ⟨b, single⟩ := List.length_eq_one_iff.mp
    (Nat.le_antisymm declared.sole (List.length_pos_of_mem among))
  rw [single, List.mem_singleton] at among
  rw [← List.head?_filter, single, among]
  rfl

theorem isOptionName {name : String} (known : a ∈ args) (named : a.long? = some name) :
    IsOptionName name :=
  (declared.named name (List.mem_filterMap.mpr ⟨a, known, named⟩)).1

theorem relaxed : WellDeclared (args.map Arg.relaxed) where
  ids := by simpa [Function.comp_def, Arg.relaxed] using declared.ids
  longs := by simpa [List.filterMap_map, Function.comp_def, Arg.relaxed] using declared.longs
  shorts := by simpa [List.filterMap_map, Function.comp_def, Arg.relaxed] using declared.shorts
  sole := by
    simpa [List.filter_map, Function.comp_def, Arg.relaxed, Arg.isPositional] using declared.sole
  once := List.forall_mem_map.mpr declared.once
  named := by simpa [List.filterMap_map, Function.comp_def, Arg.relaxed] using declared.named
  lettered := by
    simpa [List.filterMap_map, Function.comp_def, Arg.relaxed] using declared.lettered

end WellDeclared

theorem Arg.Spells.relaxed {a : Arg} {text : String} {piece : List String}
    (spells : a.Spells text piece) : a.relaxed.Spells text piece := by
  cases spells with
  | alone unnamed => exact .alone unnamed
  | attached named => exact .attached named
  | next named => exact .next named
  | shortAttached lettered => exact .shortAttached lettered
  | shortNext lettered => exact .shortNext lettered

namespace Matches

theorem many_add (m : Matches) (id value id' : String) :
    (m.add id value).many id' = m.many id' ++ if id = id' then [value] else [] := by
  unfold many add
  rw [List.filterMap_append]
  by_cases same : id = id' <;> simp [same]

theorem addValue_eq_ok {m : Matches} {a : Arg} {text : String}
    (fresh : a.action = .append ∨ m.many a.id = []) (plain : IsPlain text) :
    m.addValue a text = .ok (m.add a.id text) := by
  have unrepeated : ¬ (a.action ≠ .append ∧ m.many a.id ≠ []) := by
    rintro ⟨single, given⟩
    rcases fresh with repeatable | absent
    · exact single repeatable
    · exact given absent
  rw [addValue, if_neg unrepeated, if_neg fun refused => plain.1 refused.2]

theorem many_of_addValue {m m' : Matches} {a : Arg} {value : String}
    (added : m.addValue a value = .ok m') (id : String) :
    m'.many id = m.many id ++ if a.id = id then [value] else [] := by
  unfold addValue at added
  split at added
  · contradiction
  · split at added
    · contradiction
    · cases added
      exact m.many_add a.id value id

end Matches

section Settled

variable {args : List Arg} {p : Progress} {m : Matches} {a : Arg} {text : String}

theorem met_eq_false (settled : p.settle = .ok m) (absent : m.many a.id = []) :
    p.met a = false := by
  obtain ⟨found, pending⟩ := p
  cases pending with
  | nothing =>
    cases settled
    simp [Progress.met, absent]
  | awaiting b => contradiction
  | filled b value =>
    rw [Matches.many_of_addValue settled, List.append_eq_nil_iff] at absent
    obtain ⟨earlier, last⟩ := absent
    have other : b.id ≠ a.id := by
      intro same
      simp [same] at last
    simp [Progress.met, earlier, other]

theorem positional_eq_ok (settled : p.settle = .ok m)
    (sole : args.find? (·.isPositional) = some a) (absent : m.many a.id = []) (value : String) :
    p.value args value = .ok { found := m, pending := .filled a value } := by
  have unmet := met_eq_false settled absent
  have alone : p.positional args value = .ok { found := m, pending := .filled a value } := by
    rw [Progress.positional, sole]
    simp only [unmet, settled]
    rfl
  unfold Progress.value
  split
  · next b awaited =>
    simp [Progress.settle, awaited] at settled
  · exact alone
  · exact alone

theorem named_attached (settled : p.settle = .ok m) (valued : a.action ≠ .setTrue)
    (fresh : a.action = .append ∨ m.many a.id = []) (plain : IsPlain text) :
    p.named (some text) a = .ok { found := m.add a.id text } := by
  have added := Matches.addValue_eq_ok fresh plain
  unfold Progress.named
  cases action : a.action with
  | setTrue => contradiction
  | set | append =>
    simp only [settled, bind, Except.bind, added]

theorem named_next (settled : p.settle = .ok m) (valued : a.action ≠ .setTrue) :
    p.named none a = .ok { found := m, pending := .awaiting a } := by
  unfold Progress.named
  cases action : a.action with
  | setTrue => contradiction
  | set | append =>
    simp only [settled, bind, Except.bind]

theorem named_flag (settled : p.settle = .ok m) (raised : a.action = .setTrue)
    (fresh : m.flag a.id = false) : p.named none a = .ok { found := m.raise a.id } := by
  simp only [Progress.named, raised, settled, Matches.addFlag, fresh, bind, Except.bind]
  rfl

theorem readArguments_long {p' : Progress} {argument name : String} {attached? : Option String}
    (form : Token.ofArgument argument = .long name attached?)
    (declared : args.find? (·.long? = some name) = some a)
    (done : p.named attached? a = .ok p') (rest : List String) :
    readArguments args p (argument :: rest) = readArguments args p' rest := by
  simp only [readArguments, form, Progress.long, declared, done]
  rfl

theorem readArguments_short {p' : Progress} {argument : String} {letter : Char} {cs : List Char}
    (form : Token.ofArgument argument = .short letter cs)
    (declared : args.find? (·.short? = some letter) = some a)
    (done : p.named (attachedToShort? cs) a = .ok p') (rest : List String) :
    readArguments args p (argument :: rest) = readArguments args p' rest := by
  simp only [readArguments, form, Progress.short, declared, done]
  rfl

theorem readArguments_value {p' : Progress} (plain : IsPlain text)
    (done : p.value args text = .ok p') (rest : List String) :
    readArguments args p (text :: rest) = readArguments args p' rest := by
  simp only [readArguments, ofArgument_of_isPlain plain, done]
  rfl

theorem readArguments_spelled {piece : List String} (declared : WellDeclared args)
    (known : a ∈ args) (valued : a.action ≠ .setTrue)
    (fresh : a.action = .append ∨ m.many a.id = []) (plain : IsPlain text)
    (spells : a.Spells text piece) (settled : p.settle = .ok m) :
    readArguments args p piece = .ok (m.add a.id text) := by
  have attached := named_attached settled valued fresh plain
  have awaited := named_next settled valued
  have added : Progress.settle { found := m, pending := .filled a text } = .ok (m.add a.id text) :=
    Matches.addValue_eq_ok fresh plain
  cases spells with
  | alone unnamed =>
    have absent : m.many a.id = [] := by
      rcases fresh with repeatable | absent
      · have single := declared.once a known unnamed
        simp [single] at repeatable
      · exact absent
    have sole := declared.find?_positional known unnamed
    rw [readArguments_value plain (positional_eq_ok settled sole absent text)]
    exact added
  | attached named =>
    have form := ofArgument_attached (declared.isOptionName known named) text
    rw [readArguments_long form (find?_of_filterMap declared.longs known named) attached]
    rfl
  | next named =>
    have form := ofArgument_name (declared.isOptionName known named)
    rw [readArguments_long form (find?_of_filterMap declared.longs known named) awaited,
      readArguments_value plain rfl]
    exact added
  | @shortAttached letter lettered =>
    have other := (declared.lettered _ (List.mem_filterMap.mpr ⟨a, known, lettered⟩)).1
    have form : Token.ofArgument ("-" ++ letter.toString ++ "=" ++ text) =
        .short letter ('=' :: text.toList) := ofArgument_short other (by simp [Char.toString])
    have rest : attachedToShort? ('=' :: text.toList) = some text := by simp [attachedToShort?]
    rw [readArguments_short form (find?_of_filterMap declared.shorts known lettered)
      (rest ▸ attached)]
    rfl
  | @shortNext letter lettered =>
    have other := (declared.lettered _ (List.mem_filterMap.mpr ⟨a, known, lettered⟩)).1
    have form : Token.ofArgument ("-" ++ letter.toString) = .short letter [] :=
      ofArgument_short other (by simp [Char.toString])
    rw [readArguments_short form (find?_of_filterMap declared.shorts known lettered) awaited,
      readArguments_value plain rfl]
    exact added

end Settled

/-- What is read of an argument that does not end the options depends on no later one. -/
theorem exists_readArguments_cons {argument : String} (unescaped : argument ≠ "--")
    (args : List Arg) (p : Progress) :
    ∃ first : Except UsageError Progress, ∀ rest,
      readArguments args p (argument :: rest) = first >>= (readArguments args · rest) := by
  cases form : Token.ofArgument argument with
  | escape => exact absurd (eq_of_ofArgument_escape form) unescaped
  | long name attached? =>
    exact ⟨p.long args name attached?, fun _ => by simp only [readArguments, form]⟩
  | short letter cs => exact ⟨p.short args letter cs, fun _ => by simp only [readArguments, form]⟩
  | value => exact ⟨p.value args argument, fun _ => by simp only [readArguments, form]⟩

/-- Arguments that are read lead to where what was met can be settled and more can follow, unless
all that follows is values. -/
theorem readArguments_append {args : List Arg} {line : List String} (unescaped : "--" ∉ line)
    {p : Progress} {m : Matches} (read : readArguments args p line = .ok m) :
    ∃ p' : Progress, p'.settle = .ok m ∧
      ∀ more, readArguments args p (line ++ more) = readArguments args p' more := by
  induction line generalizing p with
  | nil => exact ⟨p, read, fun _ => rfl⟩
  | cons argument line ih =>
    rw [List.mem_cons, not_or] at unescaped
    obtain ⟨first, reads⟩ := exists_readArguments_cons (Ne.symm unescaped.1) args p
    rw [reads] at read
    obtain ⟨p₁, rfl, rest⟩ := bind_eq_ok_iff.mp read
    obtain ⟨p', settled, follow⟩ := ih unescaped.2 rest
    refine ⟨p', settled, fun more => ?_⟩
    rw [List.cons_append, reads]
    exact follow more

theorem checkRequired_eq_ok_iff {args : List Arg} {m m' : Matches} :
    checkRequired args m = .ok m' ↔
      (∀ a ∈ args, a.required = true → m.many a.id ≠ []) ∧ m = m' := by
  unfold checkRequired
  split
  · next given => exact ⟨fun same => ⟨given, Except.ok.inj same⟩, fun same => by rw [same.2]⟩
  · next missing => exact ⟨nofun, fun given => absurd given.1 missing⟩

theorem parseArguments_eq_ok_iff {args : List Arg} {line : List String} {m : Matches} :
    parseArguments args line = .ok m ↔ readArguments (args.map Arg.relaxed) {} line = .ok m ∧
      ∀ a ∈ args, a.required = true → m.many a.id ≠ [] := by
  unfold parseArguments
  rw [bind_eq_ok_iff]
  constructor
  · rintro ⟨m', read, checked⟩
    obtain ⟨given, rfl⟩ := checkRequired_eq_ok_iff.mp checked
    exact ⟨read, given⟩
  · rintro ⟨read, given⟩
    exact ⟨m, read, checkRequired_eq_ok_iff.mpr ⟨given, rfl⟩⟩

theorem parseArguments_documented : Parser.Documented parseArguments where
  nothing declared free :=
    parseArguments_eq_ok_iff.mpr ⟨rfl, fun a known required => by simp [free a known] at required⟩
  value {args a text piece line m} declared known valued fresh plain spells unescaped parsed := by
    obtain ⟨read, given⟩ := parseArguments_eq_ok_iff.mp parsed
    obtain ⟨p, settled, follow⟩ := readArguments_append unescaped read
    have known' : a.relaxed ∈ args.map Arg.relaxed := List.mem_map_of_mem known
    refine parseArguments_eq_ok_iff.mpr ⟨?_, fun b known required => ?_⟩
    · have spelled : readArguments _ p piece = .ok (m.add a.relaxed.id text) :=
        readArguments_spelled declared.relaxed known' valued fresh plain spells.relaxed settled
      rw [follow]
      exact spelled
    · rw [Matches.many_add]
      exact List.append_ne_nil_of_left_ne_nil (given b known required) _
  flag {args a name line m} declared known raised named fresh unescaped parsed := by
    obtain ⟨read, given⟩ := parseArguments_eq_ok_iff.mp parsed
    obtain ⟨p, settled, follow⟩ := readArguments_append unescaped read
    have known' : a.relaxed ∈ args.map Arg.relaxed := List.mem_map_of_mem known
    have named' : a.relaxed.long? = some name := named
    have form := ofArgument_name (declared.isOptionName known named)
    refine parseArguments_eq_ok_iff.mpr ⟨?_, given⟩
    rw [follow, readArguments_long form (find?_of_filterMap declared.relaxed.longs known' named')
      (named_flag settled raised fresh)]
    rfl
  required {args line m} declared parsed given := by
    obtain ⟨read, -⟩ := parseArguments_eq_ok_iff.mp parsed
    rw [List.map_map] at read
    exact parseArguments_eq_ok_iff.mpr ⟨read, given⟩

end Ambient.CommandLine
