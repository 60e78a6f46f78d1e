import Ambient.Dump.Decoder

/-!
The reader of dumps. It takes a value in the order of its text, and the first problem met on the way
decides. A type is read to its end, except for its tag, before its shape is looked at; whatever is
wrong with the shape of what it holds is a problem with its own shape then.
-/
namespace Ambient.Dump

def checkEnd : Option Flaw → Except Fault Unit
  | none => .ok ()
  | some flaw => .error flaw.reading

def checkRead (v : Json) : Except Fault Unit :=
  match v.readFault? with
  | none => .ok ()
  | some fault => .error fault

def checkSkim (v : Json) : Except Fault Unit :=
  match v.skimFault? with
  | none => .ok ()
  | some fault => .error fault

def expect {α : Type} : Option α → Except Fault α
  | some x => .ok x
  | none => .error .shape

/-- A value with what it is read as in each form. -/
structure Reading where
  json : Json
  as : (form : Form) → Except Fault form.Value

namespace Reading

/-- Reads members into fields: a field given twice is refused before its value is looked at, and an
unknown member is skimmed past. -/
def fill (fields : List Field) (slots : Slots) : List (String × Reading) → Except Fault Slots
  | [] => .ok slots
  | (key, r) :: rest =>
    match fields.find? (·.key = key) with
    | some f =>
      if (slots f).isSome then .error .shape
      else do
        let value ← r.as f.form
        fill fields (slots.set f value) rest
    | none => do
      checkSkim r.json
      fill fields slots rest

def ofMembers (s : Struct) (slots : Slots) (members : List (String × Reading))
    (stop? : Option Flaw) : Except Fault s.Value := do
  let slots ← fill s.fields slots members
  checkEnd stop?
  let values ← expect (collect slots.filled s.fields)
  .ok (s.make values)

def ofItems (stop? : Option Flaw) :
    (fields : List Field) → List Reading → Except Fault (Values fields)
  | f :: fields, r :: rest => do
    let value ← r.as f.form
    let values ← ofItems stop? fields rest
    .ok (value, values)
  | f :: fields, [] => do
    checkEnd stop?
    let value ← expect f.default?
    let values ← ofItems stop? fields []
    .ok (value, values)
  | [], [] => checkEnd stop?
  | [], _ :: _ => .error .malformed

def splitTag (buffered : Bool) (tag? : Option Kind) (content : List (String × Reading)) :
    List (String × Reading) → Except Fault (Option Kind × List (String × Reading))
  | [] => .ok (tag?, content)
  | (key, r) :: rest =>
    if key = "kind" then
      if tag?.isSome then .error .shape
      else do
        let kind ← r.as (.tag buffered)
        splitTag buffered (some kind) content rest
    else do
      checkRead r.json
      splitTag buffered tag? (content ++ [(key, r)]) rest

def typeOfMembers (buffered : Bool) (tag? : Option Kind) (content members : List (String × Reading))
    (stop? : Option Flaw) : Except Fault TypeSpec := do
  let (tag?, content) ← splitTag buffered tag? content members
  checkEnd stop?
  let kind ← expect tag?
  (ofMembers (.variant kind) .empty content none).mapError fun _ => .shape

def typeOfItems (buffered : Bool) (stop? : Option Flaw) : List Reading → Except Fault TypeSpec
  | [] => do
    checkEnd stop?
    .error .shape
  | tag :: items => do
    let kind ← tag.as (.tag buffered)
    items.forM (checkRead ·.json)
    checkEnd stop?
    ((ofItems none kind.fields items).map kind.make).mapError fun _ => .shape

/-- The kind that a tag tells; in a buffer its number will do. -/
def kindOf? (buffered : Bool) : Json → Option Kind
  | .string tag => Kind.ofTag? tag
  | .number n => if buffered then n.toNat?.bind Kind.ofIndex? else none
  | _ => none

def ofParts (v : Json) (items : List Reading) (members : List (String × Reading)) :
    (form : Form) → Except Fault form.Value
  | .text =>
    match v with
    | .string s => .ok s
    | _ => .error v.mismatch
  | .flag =>
    match v with
    | .bool b => .ok b
    | _ => .error v.mismatch
  | .json => do
    checkRead v
    .ok v
  | .tag buffered =>
    match kindOf? buffered v with
    | some kind => .ok kind
    | none => .error v.mismatch
  | .nullable form =>
    match v with
    | .null => .ok none
    | _ => (ofParts v items members form).map some
  | .list form =>
    match v with
    | .array _ stop? => do
      let values ← items.mapM (·.as form)
      checkEnd stop?
      .ok values
    | _ => .error v.mismatch
  | .table form =>
    match v with
    | .object _ stop? => do
      let entries ← members.mapM fun m => (m.2.as form).map (m.1, ·)
      checkEnd stop?
      .ok (Entries.ofList entries)
    | _ => .error v.mismatch
  | .struct s =>
    match v with
    | .object _ stop? => ofMembers s .empty members stop?
    | .array _ stop? => (ofItems stop? s.fields items).map s.make
    | _ => .error v.mismatch
  | .type buffered =>
    match v with
    | .object _ stop? => typeOfMembers buffered none [] members stop?
    | .array _ stop? => typeOfItems buffered stop? items
    | _ => .error v.mismatch

mutual

def ofJson : Json → Reading
  | .array items stop? => ⟨.array items stop?, ofParts (.array items stop?) (ofJsonItems items) []⟩
  | .object members stop? =>
    ⟨.object members stop?, ofParts (.object members stop?) [] (ofJsonMembers members)⟩
  | v => ⟨v, ofParts v [] []⟩

def ofJsonItems : List Json → List Reading
  | [] => []
  | v :: vs => ofJson v :: ofJsonItems vs

def ofJsonMembers : List (String × Json) → List (String × Reading)
  | [] => []
  | m :: ms => ofJsonMember m :: ofJsonMembers ms

def ofJsonMember : String × Json → String × Reading
  | (key, v) => (key, ofJson v)

end

end Reading

def read (form : Form) (v : Json) : Except Fault form.Value := (Reading.ofJson v).as form

def reader : Decoder where
  value form v := (read form v).toOption
  members s slots members :=
    (Reading.ofMembers s slots (Reading.ofJsonMembers members) none).toOption
  items fields items := (Reading.ofItems none fields (Reading.ofJsonItems items)).toOption
  content buffered tag? content members :=
    (Reading.typeOfMembers buffered tag? (Reading.ofJsonMembers content)
      (Reading.ofJsonMembers members) none).toOption

end Ambient.Dump
