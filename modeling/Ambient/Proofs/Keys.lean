import Ambient.Text.PropertyKey
import Mathlib.Logic.Function.Basic

/-!
Member keys read back. A reader of quoted keys stops at the first quote without a backslash before
it, and that is the quote which closes the key, whatever follows; the marks that it undoes are the
ones that were set. No identifier begins with a quote, so a key is read in one way, and different
names have different keys.
-/
namespace Ambient.Text

/-- What stands between an opened quote and the next one without a mark, and what follows it. A
backslash marks a backslash or a quote, and nothing else. -/
def readQuoted : List Char → Option (List Char × List Char)
  | [] => none
  | '\'' :: rest => some ([], rest)
  | '\\' :: [] => none
  | '\\' :: c :: cs =>
    if c = '\\' ∨ c = '\'' then (readQuoted cs).map fun (name, rest) => (c :: name, rest) else none
  | c :: cs => (readQuoted cs).map fun (name, rest) => (c :: name, rest)

/-- The name that a key stands for. Nothing may follow the quote that closes it. -/
def readKey? (key : String) : Option String :=
  match key.toList with
  | '\'' :: cs =>
    match readQuoted cs with
    | some (name, []) => some (String.ofList name)
    | _ => none
  | _ => some key

def markAll (mark : Char) (cs : List Char) : List Char :=
  cs.flatMap fun c => if c = mark then ['\\', c] else [c]

@[simp] theorem markAll_nil (mark : Char) : markAll mark [] = [] := rfl

@[simp] theorem markAll_cons (mark c : Char) (cs : List Char) :
    markAll mark (c :: cs) = (if c = mark then ['\\', c] else [c]) ++ markAll mark cs :=
  List.flatMap_cons

/-- To mark the backslashes and then the quotes marks no character twice. -/
theorem escapeKey_eq_markAll (cs : List Char) : escapeKey cs = markAll '\'' (markAll '\\' cs) := by
  induction cs with
  | nil => rfl
  | cons c cs ih =>
    by_cases slash : c = '\\'
    · subst slash
      simp [escapeKey, ih]
    · by_cases quote : c = '\''
      · subst quote
        simp [escapeKey, ih]
      · simp [escapeKey, slash, quote, ih]

/-- The closing quote is the first one without a mark, whatever follows it. -/
theorem readQuoted_escapeKey (cs rest : List Char) :
    readQuoted (escapeKey cs ++ '\'' :: rest) = some (cs, rest) := by
  induction cs with
  | nil => rfl
  | cons c cs ih =>
    by_cases slash : c = '\\'
    · subst slash
      simp [escapeKey, readQuoted, ih]
    · by_cases quote : c = '\''
      · subst quote
        simp [escapeKey, readQuoted, ih]
      · simp [escapeKey, readQuoted, slash, quote, ih]

theorem toList_quotedKey (name : String) :
    (quotedKey name).toList = '\'' :: (escapeKey name.toList ++ ['\'']) := by
  simp [quotedKey]

theorem length_le_escapeKey (cs : List Char) : cs.length ≤ (escapeKey cs).length := by
  induction cs with
  | nil => exact Nat.le_refl 0
  | cons c cs ih =>
    unfold escapeKey
    split
    · simp only [List.length_cons]
      omega
    · simpa using ih

theorem propertyKey_eq_self_iff {name : String} :
    propertyKey name = name ↔ isIdentifier name = true := by
  unfold propertyKey
  split
  · next plain => exact ⟨fun _ => plain, fun _ => rfl⟩
  · next broken =>
    refine ⟨fun same => ?_, fun plain => absurd plain broken⟩
    have lengths := congrArg (fun s : String => s.toList.length) same
    have kept := length_le_escapeKey name.toList
    simp only [toList_quotedKey, List.length_cons, List.length_append, List.length_nil] at lengths
    omega

theorem readKey?_quotedKey (name : String) : readKey? (quotedKey name) = some name := by
  simp [readKey?, toList_quotedKey, readQuoted_escapeKey]

theorem startsIdentifier_quote : startsIdentifier '\'' = false := by decide +kernel

theorem readKey?_of_isIdentifier {name : String} (plain : isIdentifier name = true) :
    readKey? name = some name := by
  unfold readKey?
  split
  · next cs opened =>
    simp [isIdentifier, opened, startsIdentifier_quote] at plain
  · rfl

theorem readKey?_propertyKey (name : String) : readKey? (propertyKey name) = some name := by
  unfold propertyKey
  split
  · next plain => exact readKey?_of_isIdentifier plain
  · exact readKey?_quotedKey name

theorem propertyKey_injective : Function.Injective propertyKey := by
  intro a b same
  have read := congrArg readKey? same
  rwa [readKey?_propertyKey, readKey?_propertyKey, Option.some_inj] at read

/-- Nothing is lost in a key. Read to its end it is the name again: as it stands, or up to the first
quote without a mark, which closes it. It is written by marking the backslashes first and then the
quotes, and no two names have the same key. -/
theorem keys_read_back :
    (∀ name, readKey? (propertyKey name) = some name) ∧
    (∀ name, isIdentifier name = false →
      (propertyKey name).toList =
          '\'' :: (markAll '\'' (markAll '\\' name.toList) ++ ['\'']) ∧
        ∀ rest, readQuoted (markAll '\'' (markAll '\\' name.toList) ++ '\'' :: rest) =
          some (name.toList, rest)) ∧
    Function.Injective propertyKey := by
  refine ⟨readKey?_propertyKey, fun name broken => ?_, propertyKey_injective⟩
  rw [← escapeKey_eq_markAll]
  refine ⟨?_, readQuoted_escapeKey name.toList⟩
  rw [propertyKey, broken]
  exact toList_quotedKey name

theorem slashed_keys_read_back :
    isIdentifier "it's\\" = false ∧ propertyKey "it's\\" = "'it\\'s\\\\'" ∧
      readKey? "'it\\'s\\\\'" = some "it's\\" ∧ readKey? "'it's'" = none ∧
      readQuoted ("it\\'s\\\\': Key".toList) = some ("it's\\".toList, ": Key".toList) ∧
      propertyKey "\\'" ≠ propertyKey "'" := by
  obtain ⟨back, quoted, apart⟩ := keys_read_back
  have broken : isIdentifier "it's\\" = false := by decide +kernel
  have key : propertyKey "it's\\" = "'it\\'s\\\\'" := by decide +kernel
  have read := back "it's\\"
  rw [key] at read
  exact ⟨broken, key, read, by decide, (quoted _ broken).2 ": Key".toList, apart.ne (by decide)⟩

end Ambient.Text
