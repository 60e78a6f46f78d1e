import Ambient.Text.PropertyKey
import Ambient.Ty.Render

namespace Ambient

inductive Delimiter where
  | opening
  | closing

namespace Delimiter

def first : Delimiter → Char
  | opening => '/'
  | closing => '*'

def second : Delimiter → Char
  | opening => '*'
  | closing => '/'

def count (d : Delimiter) : List Char → Nat
  | [] => 0
  | c :: cs => (if c = d.first ∧ cs.head? = some d.second then 1 else 0) + d.count cs

def occurrences (d : Delimiter) (text : String) : Nat := d.count text.toList

end Delimiter

def isNeutral (c : Char) : Bool := c != '/' && c != '*'

/-- Two texts that meet at a character that no delimiter has. -/
def Apart (a b : List Char) : Prop :=
  a.getLast?.all isNeutral = true ∨ b.head?.all isNeutral = true

def Uncommented (text : String) : Prop :=
  Delimiter.opening.occurrences text = 0 ∧ Delimiter.closing.occurrences text = 0

instance (text : String) : Decidable (Uncommented text) := inferInstanceAs (Decidable (_ ∧ _))

namespace Delimiter

variable (d : Delimiter)

theorem first_ne_of_isNeutral {c : Char} (neutral : isNeutral c = true) : c ≠ d.first := by
  rintro rfl
  cases d <;> contradiction

theorem second_ne_of_isNeutral {c : Char} (neutral : isNeutral c = true) : c ≠ d.second := by
  rintro rfl
  cases d <;> contradiction

theorem count_cons_of_ne {c : Char} (cs : List Char) (other : c ≠ d.first) :
    d.count (c :: cs) = d.count cs := by
  simp [count, other]

theorem count_append {a b : List Char} (apart : Apart a b) :
    d.count (a ++ b) = d.count a + d.count b := by
  induction a with
  | nil => simp [count]
  | cons c a ih =>
    cases a with
    | nil =>
      -- the only place where a delimiter could be made
      have unmade : ¬ (c = d.first ∧ b.head? = some d.second) := by
        rintro ⟨rfl, starts⟩
        rcases apart with neutral | neutral
        · exact d.first_ne_of_isNeutral neutral rfl
        · rw [starts] at neutral
          exact d.second_ne_of_isNeutral neutral rfl
      simp [count, unmade]
    | cons e a =>
      have rest : Apart (e :: a) b := by simpa [Apart] using apart
      have added := ih rest
      rw [List.cons_append, count, added]
      exact (Nat.add_assoc _ _ _).symm

theorem occurrences_append {a b : String} (apart : Apart a.toList b.toList) :
    d.occurrences (a ++ b) = d.occurrences a + d.occurrences b := by
  rw [occurrences, String.toList_append]
  exact d.count_append apart

theorem count_le_append (a b : List Char) : d.count b ≤ d.count (a ++ b) := by
  induction a with
  | nil => exact Nat.le_refl _
  | cons c a ih =>
    rw [List.cons_append, count]
    omega

theorem count_of_neutral {cs : List Char} (neutral : ∀ c ∈ cs, isNeutral c = true) :
    d.count cs = 0 := by
  induction cs with
  | nil => rfl
  | cons c cs ih =>
    obtain ⟨here, rest⟩ := List.forall_mem_cons.mp neutral
    rw [d.count_cons_of_ne cs (d.first_ne_of_isNeutral here), ih rest]

/-- An escape puts a backslash before a backslash or a quote, and no delimiter has one of these. -/
theorem count_escapeKey (cs : List Char) : d.count (Text.escapeKey cs) = d.count cs := by
  have backslash : isNeutral '\\' = true := by decide
  have quote : isNeutral '\'' = true := by decide
  induction cs with
  | nil => rfl
  | cons c cs ih =>
    by_cases special : c = '\\' ∨ c = '\''
    · have neutral : isNeutral c = true := by
        rcases special with rfl | rfl
        · exact backslash
        · exact quote
      rw [Text.escapeKey, if_pos special,
        d.count_cons_of_ne _ (d.first_ne_of_isNeutral backslash),
        d.count_cons_of_ne _ (d.first_ne_of_isNeutral neutral),
        d.count_cons_of_ne _ (d.first_ne_of_isNeutral neutral), ih]
    · have next : (Text.escapeKey cs).head? = some d.second ↔ cs.head? = some d.second := by
        cases cs with
        | nil => rfl
        | cons e es =>
          by_cases escaped : e = '\\' ∨ e = '\''
          · have neutral : isNeutral e = true := by
              rcases escaped with rfl | rfl
              · exact backslash
              · exact quote
            have other := d.second_ne_of_isNeutral neutral
            have other' := d.second_ne_of_isNeutral backslash
            simp [Text.escapeKey, escaped, other, other']
          · simp [Text.escapeKey, escaped]
      rw [Text.escapeKey, if_neg special, count, count, ih]
      simp only [next]

end Delimiter

theorem uncommented_iff (text : String) :
    Uncommented text ↔ ∀ d : Delimiter, d.occurrences text = 0 := by
  constructor
  · rintro ⟨opens, closes⟩ (_ | _)
    · exact opens
    · exact closes
  · exact fun none => ⟨none .opening, none .closing⟩

theorem Name.relative_uncommented {n : Name} (ns : Name) (free : Uncommented n) :
    Uncommented (n.relative ns) := by
  unfold Name.relative Name.under?
  dsimp only
  split
  · exact free
  · split
    · rw [uncommented_iff] at free
      rw [Option.getD_some, uncommented_iff]
      intro d
      have part := d.count_le_append (n.toList.take (ns.toList ++ ['.']).length)
        (n.toList.drop (ns.toList ++ ['.']).length)
      rw [List.take_append_drop] at part
      have whole : d.count n.toList = 0 := free d
      rw [Delimiter.occurrences, String.toList_ofList]
      omega
    · exact free

theorem propertyKey_uncommented {key : String} (free : Uncommented key) :
    Uncommented (Text.propertyKey key) := by
  unfold Text.propertyKey
  split
  · exact free
  · rw [uncommented_iff] at free ⊢
    intro d
    have start : Apart ("'" : String).toList (String.ofList (Text.escapeKey key.toList)).toList :=
      .inl (by decide)
    have stop : Apart ("'" ++ String.ofList (Text.escapeKey key.toList)).toList
        ("'" : String).toList := .inr (by decide)
    have inside : d.occurrences (String.ofList (Text.escapeKey key.toList)) = 0 := by
      rw [Delimiter.occurrences, String.toList_ofList, d.count_escapeKey]
      exact free d
    have mark : d.occurrences "'" = 0 := by cases d <;> decide
    rw [Text.quotedKey, d.occurrences_append stop, d.occurrences_append start, inside, mark]

theorem positionalName_uncommented (index : Nat) : Uncommented (positionalName index) := by
  rw [uncommented_iff]
  intro d
  have letters : parameterLetters.all isNeutral = true := by decide
  have mark : ("p" : String).toList.all isNeutral = true := by decide
  unfold positionalName
  split
  · next letter found =>
    have neutral := List.all_eq_true.mp letters letter (List.mem_of_getElem? found)
    exact d.count_of_neutral (by simpa using neutral)
  · refine d.count_of_neutral ?_
    simp only [String.toList_append, List.forall_mem_append, Nat.toString_eq_repr, Nat.repr,
      String.toList_ofList]
    refine ⟨List.all_eq_true.mp mark, fun c member => ?_⟩
    have digit := Nat.isDigit_of_mem_toDigits (b := 10) (by decide) (by decide) member
    have other : ∀ e : Char, isNeutral e = false → e.isDigit = false := by
      intro e reserved
      have known : e = '/' ∨ e = '*' := by
        simpa [isNeutral, Decidable.or_iff_not_imp_left] using reserved
      rcases known with rfl | rfl <;> decide
    cases neutral : isNeutral c with
    | true => rfl
    | false => simp [other c neutral] at digit

end Ambient
