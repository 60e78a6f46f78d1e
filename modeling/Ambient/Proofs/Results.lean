namespace Ambient

theorem bind_eq_ok_iff {ε α β : Type} {result : Except ε α} {f : α → Except ε β} {b : β} :
    result >>= f = .ok b ↔ ∃ a, result = .ok a ∧ f a = .ok b := by
  cases result with
  | error e =>
    constructor
    · intro failed
      contradiction
    · rintro ⟨a, failed, -⟩
      contradiction
  | ok a =>
    constructor
    · exact fun done => ⟨a, rfl, done⟩
    · rintro ⟨_, ⟨⟩, done⟩
      exact done

theorem exists_of_mem_mapM {ε α β : Type} {f : α → Except ε β} {l : List α} {bs : List β}
    (done : l.mapM f = .ok bs) {b : β} (member : b ∈ bs) : ∃ a ∈ l, f a = .ok b := by
  induction l generalizing bs with
  | nil =>
    cases done
    contradiction
  | cons a l ih =>
    rw [List.mapM_cons] at done
    obtain ⟨c, first, rest⟩ := bind_eq_ok_iff.mp done
    obtain ⟨cs, later, same⟩ := bind_eq_ok_iff.mp rest
    cases same
    rcases List.mem_cons.mp member with rfl | member
    · exact ⟨a, List.mem_cons_self, first⟩
    · obtain ⟨a', inside, found⟩ := ih later member
      exact ⟨a', List.mem_cons_of_mem a inside, found⟩

theorem mapM_map_congr {ε α β γ : Type} {f : α → Except ε β} {f' : α → Except ε γ} (h : β → γ)
    {l : List α} (each : ∀ x ∈ l, f' x = (f x).map h) :
    l.mapM f' = (l.mapM f).map (List.map h) := by
  induction l with
  | nil => rfl
  | cons x l ih =>
    obtain ⟨first, rest⟩ := List.forall_mem_cons.mp each
    rw [List.mapM_cons, List.mapM_cons, ih rest, first]
    cases f x with
    | error error => rfl
    | ok b => cases l.mapM f <;> rfl

theorem mapM_eq_error {ε α β : Type} {f : α → Except ε β} {l : List α} {error : ε}
    (failed : l.mapM f = .error error) :
    ∃ before x after, l = before ++ x :: after ∧ (∀ y ∈ before, ∃ b, f y = .ok b) ∧
      f x = .error error := by
  induction l with
  | nil => contradiction
  | cons x l ih =>
    rw [List.mapM_cons] at failed
    cases first : f x with
    | error e =>
      rw [first] at failed
      cases failed
      exact ⟨[], x, l, rfl, List.forall_mem_nil _, first⟩
    | ok b =>
      rw [first] at failed
      cases rest : l.mapM f with
      | ok bs =>
        rw [rest] at failed
        contradiction
      | error e =>
        rw [rest] at failed
        cases failed
        obtain ⟨before, y, after, rfl, passed, stopped⟩ := ih rest
        exact ⟨x :: before, y, after, rfl, List.forall_mem_cons.mpr ⟨⟨b, first⟩, passed⟩, stopped⟩

theorem toOption_bind {ε α β : Type} (result : Except ε α) (next : α → Except ε β) :
    (result >>= next).toOption = result.toOption.bind fun a => (next a).toOption := by
  cases result <;> rfl

theorem toOption_map {ε α β : Type} (f : α → β) (result : Except ε α) :
    (result.map f).toOption = result.toOption.map f := by
  cases result <;> rfl

theorem toOption_mapM {ε α β : Type} (f : α → Except ε β) (l : List α) :
    (l.mapM f).toOption = l.mapM fun a => (f a).toOption := by
  induction l with
  | nil => rfl
  | cons a l ih =>
    rw [List.mapM_cons, List.mapM_cons, toOption_bind]
    simp only [toOption_bind, ih]
    rfl

end Ambient
