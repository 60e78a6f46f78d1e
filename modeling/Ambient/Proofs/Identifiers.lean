import Ambient.Proofs.Categories
import Ambient.Proofs.Keys

/-!
The keys that are left without quotes against the grammar of identifiers, which goes by general
categories: a letter or a letter number first, then also decimal digits, marks and connectors, and
the dollar sign and the underscore anywhere. The broad classes let more pass. Some marks and symbols
are alphabetic, so they may come first, and those symbols and all other numbers may follow. There is
no other way for a key without quotes to be no identifier.
-/
namespace Ambient.Text

def MayBegin (c : Char) : Prop :=
  category? c = some .letter ∨ category? c = some .letterNumber ∨ c = '$' ∨ c = '_'

def MayFollow (c : Char) : Prop :=
  MayBegin c ∨ category? c = some .decimalDigit ∨ category? c = some .mark ∨
    category? c = some .connector

instance (c : Char) : Decidable (MayBegin c) := inferInstanceAs (Decidable (_ ∨ _))

instance (c : Char) : Decidable (MayFollow c) := inferInstanceAs (Decidable (_ ∨ _))

/-- Whether a text is an identifier by the grammar, which has no empty one. -/
def IsLegal (name : String) : Prop :=
  (∃ c ∈ name.toList.head?, MayBegin c) ∧ ∀ c ∈ name.toList.tail, MayFollow c

theorem category?_dollar : category? '$' = none := by decide +kernel

theorem category?_underscore : category? '_' = some .connector := by decide +kernel

section Characters

variable {c : Char} {k : Category}

theorem ne_dollar_of_category (found : category? c = some k) : c ≠ '$' := by
  rintro rfl
  rw [category?_dollar] at found
  contradiction

theorem ne_underscore_of_category (found : category? c = some k) (other : k ≠ .connector) :
    c ≠ '_' := by
  rintro rfl
  rw [category?_underscore, Option.some_inj] at found
  exact other found.symm

theorem mayBegin_iff_of_category (found : category? c = some k) (other : k ≠ .connector) :
    MayBegin c ↔ k = .letter ∨ k = .letterNumber := by
  simp [MayBegin, found, ne_dollar_of_category found, ne_underscore_of_category found other]

theorem mayFollow_iff_of_category (found : category? c = some k) :
    MayFollow c ↔ k ≠ .otherNumber ∧ k ≠ .otherSymbol := by
  cases k with
  | connector => simp [MayFollow, found]
  | _ => simp [MayFollow, mayBegin_iff_of_category found, found]

theorem mayBegin_iff (start : startsIdentifier c = true) :
    MayBegin c ↔ category? c ≠ some .mark ∧ category? c ≠ some .otherSymbol := by
  simp only [startsIdentifier, Bool.or_eq_true, beq_iff_eq] at start
  rcases start with (alphabetic | rfl) | rfl
  · obtain ⟨k, listed, found⟩ := category_of_isAlphabetic alphabetic
    simp only [List.mem_cons, List.not_mem_nil, or_false] at listed
    rcases listed with rfl | rfl | rfl | rfl <;> simp [mayBegin_iff_of_category found, found]
  · simp [MayBegin, category?_underscore]
  · simp [MayBegin, category?_dollar]

theorem category_of_continuesIdentifier (next : continuesIdentifier c = true) :
    c = '$' ∨ ∃ k, category? c = some k := by
  simp only [continuesIdentifier, startsIdentifier, Bool.or_eq_true, beq_iff_eq] at next
  rcases next with ((alphabetic | rfl) | rfl) | numeric
  · obtain ⟨k, -, found⟩ := category_of_isAlphabetic alphabetic
    exact .inr ⟨k, found⟩
  · exact .inr ⟨.connector, category?_underscore⟩
  · exact .inl rfl
  · obtain ⟨k, -, found⟩ := (isNumeric_iff c).mp numeric
    exact .inr ⟨k, found⟩

theorem mayFollow_iff (next : continuesIdentifier c = true) :
    MayFollow c ↔ category? c ≠ some .otherNumber ∧ category? c ≠ some .otherSymbol := by
  rcases category_of_continuesIdentifier next with rfl | ⟨k, found⟩
  · simp [MayFollow, MayBegin, category?_dollar]
  · simp [mayFollow_iff_of_category found, found]

end Characters

/-- A key that is left without quotes is an identifier exactly if it does not begin with a mark or a
symbol and has neither symbols nor numbers other than digits and letter numbers further on. -/
theorem unquoted_legal_iff {name : String} (unquoted : propertyKey name = name) :
    IsLegal name ↔
      (∀ c ∈ name.toList.head?, category? c ≠ some .mark ∧ category? c ≠ some .otherSymbol) ∧
        ∀ c ∈ name.toList.tail,
          category? c ≠ some .otherNumber ∧ category? c ≠ some .otherSymbol := by
  have plain := propertyKey_eq_self_iff.mp unquoted
  unfold isIdentifier at plain
  unfold IsLegal
  cases chars : name.toList with
  | nil => simp [chars] at plain
  | cons c cs =>
    simp only [chars, Bool.and_eq_true, List.all_eq_true] at plain
    obtain ⟨start, rest⟩ := plain
    simp only [List.head?_cons, Option.mem_some_iff, exists_eq_left', forall_eq', List.tail_cons]
    exact and_congr (mayBegin_iff start)
      (forall₂_congr fun d member => mayFollow_iff (rest d member))

theorem numeral_legal : propertyKey "Ⅷ_٣ा" = "Ⅷ_٣ा" ∧ IsLegal "Ⅷ_٣ा" := by
  have unquoted : propertyKey "Ⅷ_٣ा" = "Ⅷ_٣ा" := by decide +kernel
  have chars : "Ⅷ_٣ा".toList = ['Ⅷ', '_', '٣', 'ा'] := by decide
  refine ⟨unquoted, (unquoted_legal_iff unquoted).mpr ?_⟩
  simp only [chars, List.head?_cons, Option.mem_some_iff, forall_eq', List.tail_cons,
    List.forall_mem_cons]
  exact ⟨by decide +kernel, by decide +kernel, by decide +kernel, by decide +kernel, nofun⟩

/-- A superscript is a number that no identifier has, but the key that ends in one is bare. -/
theorem superscript_bare :
    propertyKey "a²" = "a²" ∧ category? '²' = some .otherNumber ∧ ¬ IsLegal "a²" := by
  refine ⟨by decide +kernel, by decide +kernel, ?_⟩
  rintro ⟨-, rest⟩
  exact absurd (rest '²' (by decide)) (by decide +kernel)

end Ambient.Text
