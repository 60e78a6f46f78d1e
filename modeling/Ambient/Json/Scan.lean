import Ambient.Json.Basic
import Ambient.Json.Text

/-!
From a text to a JSON value. Scanning is total: where the text stops being JSON the value gets a
flaw, and scanning goes on only as far as a skimming reader would. A value that cannot be read but
can be skimmed, such as a number beyond the doubles, is a flaw with text after it.
-/
namespace Ambient.Json

def maxNesting : Nat := 127

def isBlank (c : Char) : Bool := c == ' ' || c == '\n' || c == '\t' || c == '\r'

def skipBlanks (cs : List Char) : List Char := cs.dropWhile isBlank

/-- A value and the text after it; no text if nobody gets that far. -/
structure Scanned where
  value : Json
  rest? : Option (List Char)

def Scanned.cut (fault : Fault) : Scanned := ⟨.flawed (.of fault), none⟩

def scanWord (value : Json) : List Char → List Char → Scanned
  | [], rest => ⟨value, some rest⟩
  | _ :: _, [] => .cut .endOfText
  | w :: ws, c :: cs => if w = c then scanWord value ws cs else .cut .malformed

/-- A number; a numeral that is cut short is malformed to a skimming reader. -/
def scanNumeral (cs : List Char) : Scanned :=
  match scanNumber cs with
  | .error fault => ⟨.flawed ⟨fault, some .malformed⟩, none⟩
  | .ok (n, rest) =>
    match n.toFloat? with
    | some _ => ⟨.number n, some rest⟩
    | none => ⟨.flawed ⟨.malformed, none⟩, some rest⟩

inductive ScannedString where
  | read (text : String) (rest : List Char)
  /-- Only a skimming reader gets past it. -/
  | unpaired (fault : Fault) (rest : List Char)
  | broken (flaw : Flaw)

def scanString (cs : List Char) : ScannedString :=
  let scanned := scanUnits cs
  match scanned.rest with
  | .ok rest =>
    match joinUnits .malformed scanned.units with
    | .ok text => .read (String.ofList text) rest
    | .error fault => .unpaired fault rest
  | .error skimming =>
    match joinUnits skimming scanned.units with
    | .ok _ => .broken (.of skimming)
    | .error fault => .broken ⟨fault, some skimming⟩

structure Body (α : Type) where
  elements : List α
  stop? : Option Flaw
  rest? : Option (List Char)

namespace Body

variable {α : Type}

def closed (rest : List Char) : Body α := ⟨[], none, some rest⟩

def stopped (fault : Fault) : Body α := ⟨[], some (.of fault), none⟩

def cons (element : α) (body : Body α) : Body α :=
  { body with elements := element :: body.elements }

def last (element : α) : Body α := ⟨[element], none, none⟩

end Body

/-- A container at a depth, which stops a reader but not a skimming one if it nests too deep. -/
def nested (depth : Nat) (value : Json) (rest? : Option (List Char)) : Scanned :=
  if depth < maxNesting then ⟨value, rest?⟩
  else ⟨.flawed ⟨.malformed, value.skimFault?⟩, rest?⟩

/-- The rest of an object after a key that stops a reader but not a skimming one. -/
def skimmedAfterKey (fault : Fault) (body : Body (String × Json)) : Body (String × Json) :=
  ⟨[], some ⟨fault, (Json.object body.elements body.stop?).skimFault?⟩, body.rest?⟩

mutual

def scanValue : Nat → Nat → List Char → Scanned
  | 0, _, _ => .cut .endOfText
  | fuel + 1, depth, text =>
    match skipBlanks text with
    | [] => .cut .endOfText
    | '"' :: rest =>
      match scanString rest with
      | .read s rest => ⟨.string s, some rest⟩
      | .unpaired fault rest => ⟨.flawed ⟨fault, none⟩, some rest⟩
      | .broken flaw => ⟨.flawed flaw, none⟩
    | '[' :: rest =>
      let body := scanItems fuel (depth + 1) rest
      nested depth (.array body.elements body.stop?) body.rest?
    | '{' :: rest =>
      let body := scanMembers fuel (depth + 1) rest
      nested depth (.object body.elements body.stop?) body.rest?
    | 'n' :: rest => scanWord .null "ull".toList rest
    | 't' :: rest => scanWord (.bool true) "rue".toList rest
    | 'f' :: rest => scanWord (.bool false) "alse".toList rest
    | c :: rest =>
      if c = '-' ∨ c.isDigit then scanNumeral (c :: rest) else .cut .malformed

def scanItems : Nat → Nat → List Char → Body Json
  | 0, _, _ => .stopped .endOfText
  | fuel + 1, depth, text =>
    match skipBlanks text with
    | [] => .stopped .endOfText
    | ']' :: rest => .closed rest
    | _ => scanSomeItems fuel depth text

def scanSomeItems : Nat → Nat → List Char → Body Json
  | 0, _, _ => .stopped .endOfText
  | fuel + 1, depth, text =>
    match scanValue fuel depth text with
    | ⟨item, none⟩ => .last item
    | ⟨item, some rest⟩ =>
      .cons item <|
        match skipBlanks rest with
        | [] => .stopped .endOfText
        | ',' :: rest => scanSomeItems fuel depth rest
        | ']' :: rest => .closed rest
        | _ => .stopped .malformed

def scanMembers : Nat → Nat → List Char → Body (String × Json)
  | 0, _, _ => .stopped .endOfText
  | fuel + 1, depth, text =>
    match skipBlanks text with
    | [] => .stopped .endOfText
    | '}' :: rest => .closed rest
    | '"' :: rest => scanMember fuel depth rest
    | _ => .stopped .malformed

def scanMember : Nat → Nat → List Char → Body (String × Json)
  | 0, _, _ => .stopped .endOfText
  | fuel + 1, depth, text =>
    match scanString text with
    | .read key rest => scanMemberValue fuel depth key rest
    | .unpaired fault rest => skimmedAfterKey fault (scanMemberValue fuel depth "" rest)
    | .broken flaw => ⟨[], some flaw, none⟩

def scanMemberValue : Nat → Nat → String → List Char → Body (String × Json)
  | 0, _, _, _ => .stopped .endOfText
  | fuel + 1, depth, key, text =>
    match skipBlanks text with
    | [] => .last (key, .flawed (.of .endOfText))
    | ':' :: rest =>
      match scanValue fuel depth rest with
      | ⟨value, none⟩ => .last (key, value)
      | ⟨value, some rest⟩ =>
        .cons (key, value) <|
          match skipBlanks rest with
          | [] => .stopped .endOfText
          | '}' :: rest => .closed rest
          | ',' :: rest =>
            match skipBlanks rest with
            | [] => .stopped .endOfText
            | '"' :: rest => scanMember fuel depth rest
            | _ => .stopped .malformed
          | _ => .stopped .malformed
    | _ => .last (key, .flawed (.of .malformed))

end

/-- The value of a text, and the fault if other text than blanks follows it. Each call of the
scanner takes a character or hands on to one that does, so the fuel lasts. -/
def ofText (text : String) : Json × Option Fault :=
  let cs := text.toList
  let scanned := scanValue (4 * cs.length + 4) 0 cs
  match scanned.rest?.map skipBlanks with
  | none | some [] => (scanned.value, none)
  | some (_ :: _) => (scanned.value, some .malformed)

end Ambient.Json
