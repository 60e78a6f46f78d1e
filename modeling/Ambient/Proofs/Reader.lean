import Ambient.Dump.Reader
import Ambient.Proofs.Decoding
import Ambient.Proofs.Results

namespace Ambient

namespace Json

mutual

/-- What can be taken in can be skimmed past. -/
theorem skimFault?_of_whole : (v : Json) → v.readFault? = none → v.skimFault? = none
  | .flawed flaw, whole => by simp [readFault?] at whole
  | .array items stop?, whole => by
    rw [readFault?, Option.or_eq_none_iff, Option.map_eq_none_iff] at whole
    obtain ⟨each, rfl⟩ := whole
    rw [skimFault?, itemsSkimFault?_of_whole items each]
    rfl
  | .object members stop?, whole => by
    rw [readFault?, Option.or_eq_none_iff, Option.map_eq_none_iff] at whole
    obtain ⟨each, rfl⟩ := whole
    rw [skimFault?, membersSkimFault?_of_whole members each]
    rfl
  | .null, _ | .bool _, _ | .number _, _ | .string _, _ => rfl

theorem itemsSkimFault?_of_whole :
    (items : List Json) → itemsReadFault? items = none → itemsSkimFault? items = none
  | [], _ => rfl
  | v :: vs, whole => by
    rw [itemsReadFault?, Option.or_eq_none_iff] at whole
    rw [itemsSkimFault?, skimFault?_of_whole v whole.1, itemsSkimFault?_of_whole vs whole.2]
    rfl

theorem membersSkimFault?_of_whole :
    (members : List (String × Json)) → membersReadFault? members = none →
      membersSkimFault? members = none
  | [], _ => rfl
  | (_, v) :: ms, whole => by
    rw [membersReadFault?, memberReadFault?, Option.or_eq_none_iff] at whole
    rw [membersSkimFault?, memberSkimFault?, skimFault?_of_whole v whole.1,
      membersSkimFault?_of_whole ms whole.2]
    rfl

end

end Json

namespace Dump

theorem checkRead_of_whole {v : Json} (whole : v.Whole) : checkRead v = .ok () := by
  rw [checkRead, whole]

theorem checkSkim_of_whole {v : Json} (whole : v.Whole) : checkSkim v = .ok () := by
  rw [checkSkim, v.skimFault?_of_whole whole]

theorem toOption_expect {α : Type} (found? : Option α) : (expect found?).toOption = found? := by
  cases found? <;> rfl

namespace Reading

theorem ofJsonItems_eq (items : List Json) : ofJsonItems items = items.map ofJson := by
  induction items with
  | nil => rfl
  | cons v items ih => rw [ofJsonItems, ih, List.map_cons]

theorem ofJsonMembers_eq (members : List (String × Json)) :
    ofJsonMembers members = members.map fun m => (m.1, ofJson m.2) := by
  induction members with
  | nil => rfl
  | cons m members ih => rw [ofJsonMembers, ofJsonMember, ih, List.map_cons]

theorem json_ofJson (v : Json) : (ofJson v).json = v := by
  cases v <;> rfl

theorem find?_of_mem {s : Struct} {f : Field} (known : f ∈ s.fields) :
    s.fields.find? (·.key = f.key) = some f := by
  cases found : s.fields.find? (·.key = f.key) with
  | none =>
    have := List.find?_eq_none.mp found f known
    simp at this
  | some g =>
    have same : g.key = f.key := by simpa using List.find?_some found
    rw [Struct.eq_of_key_eq (List.mem_of_find?_eq_some found) known same]

variable {s : Struct} {f : Field} {slots : Slots} {v : Json} {rest : List (String × Reading)}

theorem fill_member (known : f ∈ s.fields) (unread : slots f = none) :
    fill s.fields slots ((f.key, ofJson v) :: rest) =
      read f.form v >>= fun x => fill s.fields (slots.set f x) rest := by
  rw [fill, find?_of_mem known]
  simp only [unread]
  rfl

theorem fill_repeated (known : f ∈ s.fields) (given : slots f ≠ none) :
    fill s.fields slots ((f.key, ofJson v) :: rest) = .error .shape := by
  rw [fill, find?_of_mem known]
  simp only [if_pos (Option.isSome_iff_ne_none.mpr given)]

theorem fill_unknown {key : String} (unknown : ∀ f ∈ s.fields, f.key ≠ key) (whole : v.Whole) :
    fill s.fields slots ((key, ofJson v) :: rest) = fill s.fields slots rest := by
  have missing : s.fields.find? (·.key = key) = none :=
    List.find?_eq_none.mpr fun f known => by simpa using unknown f known
  rw [fill, missing]
  simp only [json_ofJson, checkSkim_of_whole whole]
  rfl

theorem forM_checkRead {items : List Json} (whole : ∀ v ∈ items, v.Whole) :
    (ofJsonItems items).forM (checkRead ·.json) = .ok () := by
  induction items with
  | nil => rfl
  | cons v items ih =>
    obtain ⟨first, others⟩ := List.forall_mem_cons.mp whole
    rw [ofJsonItems]
    change (checkRead (ofJson v).json >>= fun _ => (ofJsonItems items).forM _) = _
    rw [json_ofJson, checkRead_of_whole first]
    exact ih others

theorem splitTag_tag {buffered : Bool} {content : List (String × Reading)} :
    splitTag buffered none content (("kind", ofJson v) :: rest) =
      read (.tag buffered) v >>= fun kind => splitTag buffered (some kind) content rest := by
  rw [splitTag, if_pos rfl]
  rfl

theorem splitTag_other {buffered : Bool} {tag? : Option Kind} {content : List (String × Reading)}
    {key : String} (other : key ≠ "kind") (whole : v.Whole) :
    splitTag buffered tag? content ((key, ofJson v) :: rest) =
      splitTag buffered tag? (content ++ [(key, ofJson v)]) rest := by
  rw [splitTag, if_neg other, json_ofJson, checkRead_of_whole whole]
  rfl

end Reading

theorem read_present {form : Form} {v : Json} (filled : v ≠ .null) :
    read (.nullable form) v = (read form v).map some := by
  cases v with
  | null => contradiction
  | _ => rfl

theorem read_list (form : Form) (items : List Json) :
    read (.list form) (.array items none) = items.mapM (read form) := by
  change ((Reading.ofJsonItems items).mapM fun r => r.as form) >>= Except.ok = _
  rw [Reading.ofJsonItems_eq, List.mapM_map]
  exact bind_pure _

theorem read_table (form : Form) (members : List (String × Json)) :
    read (.table form) (.object members none) =
      (members.mapM fun m => (read form m.2).map (m.1, ·)).map Entries.ofList := by
  change ((Reading.ofJsonMembers members).mapM fun m => (m.2.as form).map (m.1, ·)) >>=
    (fun entries => Except.ok (Entries.ofList entries)) = _
  rw [Reading.ofJsonMembers_eq, List.mapM_map]
  rfl

theorem toOption_shaped {α : Type} (result : Except Fault α) :
    (result.mapError fun _ => Fault.shape).toOption = result.toOption := by
  cases result <;> rfl

open Reading in
theorem reader_derived : reader.Derived where
  object _ _ := rfl
  member known unread := by
    simp only [reader, ofMembers, ofJsonMembers, ofJsonMember, fill_member known unread,
      toOption_bind]
    exact Option.bind_assoc _ _ _
  repeated known given := by
    simp only [reader, ofMembers, ofJsonMembers, ofJsonMember, fill_repeated known given]
    rfl
  unknown unknown whole := by
    simp only [reader, ofMembers, ofJsonMembers, ofJsonMember, fill_unknown unknown whole]
  members_end s slots := by
    change (expect (collect slots.filled s.fields) >>= fun values => _).toOption = _
    rw [toOption_bind, toOption_expect]
    cases collect slots.filled s.fields <;> rfl
  array s items := toOption_map _ _
  item f fields v rest := by
    change (read f.form v >>= fun x => ofItems none fields (ofJsonItems rest) >>= _).toOption = _
    rw [toOption_bind]
    refine Option.bind_congr fun x _ => ?_
    rw [toOption_bind]
    exact Option.map_eq_bind.symm
  left_off f fields := by
    change (expect f.default? >>= fun x => ofItems none fields [] >>= _).toOption = _
    rw [toOption_bind, toOption_expect]
    refine Option.bind_congr fun x _ => ?_
    rw [toOption_bind]
    exact Option.map_eq_bind.symm
  items_end := rfl
  tagged_object _ _ := rfl
  tag := by
    intro buffered content rest v
    simp only [reader, typeOfMembers, ofJsonMembers, ofJsonMember, splitTag_tag, toOption_bind]
    exact Option.bind_assoc _ _ _
  tag_repeated := rfl
  buffered other whole := by
    simp only [reader, typeOfMembers, ofJsonMembers_eq, List.map_append, List.map_cons,
      List.map_nil, splitTag_other other whole]
  content_end buffered kind content := toOption_shaped _
  untagged _ _ := rfl
  tagged_array buffered tag items whole := by
    change (read (.tag buffered) tag >>= fun kind =>
      (ofJsonItems items).forM (checkRead ·.json) >>= _).toOption = _
    rw [toOption_bind]
    refine Option.bind_congr fun kind _ => ?_
    rw [forM_checkRead whole]
    change (((ofItems none kind.fields _).map kind.make).mapError _).toOption = _
    rw [toOption_shaped, toOption_map]
    rfl
  flag _ := rfl
  absent _ := rfl
  present filled := by
    change (read _ _).toOption = _
    rw [read_present filled, toOption_map]
    rfl
  list form items := by
    change (read _ _).toOption = _
    rw [read_list, toOption_mapM]
    rfl
  table form members := by
    change (read _ _).toOption = _
    rw [read_table, toOption_map, toOption_mapM]
    simp only [toOption_map]
    rfl

end Dump

end Ambient
