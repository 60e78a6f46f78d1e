import Ambient.Json.Number

/-!
JSON values as far as a text gives them. Where the text stops being JSON the value has a flaw, which
says what becomes of a reader who takes the value in and of one who skims past it. Reading goes in
the order of the text, so the first flaw on the way decides.
-/
namespace Ambient

/-- A place where a text is not JSON. Skimming is laxer than reading: it forms no numbers, pairs no
surrogates and does not count how deep values nest, so it may find nothing wrong. -/
structure Flaw where
  reading : Fault
  skimming? : Option Fault
  deriving DecidableEq

def Flaw.of (fault : Fault) : Flaw := ⟨fault, some fault⟩

inductive Json where
  | null
  | bool (value : Bool)
  | number (value : Json.Number)
  | string (value : String)
  /-- Items in order, and the flaw after the last one if the array is not closed there. -/
  | array (items : List Json) (stop? : Option Flaw)
  /-- Members in order, repeated keys included, and the flaw after the last one. -/
  | object (members : List (String × Json)) (stop? : Option Flaw)
  | flawed (flaw : Flaw)

namespace Json

mutual

def readFault? : Json → Option Fault
  | .flawed flaw => some flaw.reading
  | .array items stop? => (itemsReadFault? items).or (stop?.map (·.reading))
  | .object members stop? => (membersReadFault? members).or (stop?.map (·.reading))
  | .null | .bool _ | .number _ | .string _ => none

def itemsReadFault? : List Json → Option Fault
  | [] => none
  | v :: vs => (readFault? v).or (itemsReadFault? vs)

def membersReadFault? : List (String × Json) → Option Fault
  | [] => none
  | m :: ms => (memberReadFault? m).or (membersReadFault? ms)

def memberReadFault? : String × Json → Option Fault
  | (_, v) => readFault? v

end

mutual

def skimFault? : Json → Option Fault
  | .flawed flaw => flaw.skimming?
  | .array items stop? => (itemsSkimFault? items).or (stop?.bind (·.skimming?))
  | .object members stop? => (membersSkimFault? members).or (stop?.bind (·.skimming?))
  | .null | .bool _ | .number _ | .string _ => none

def itemsSkimFault? : List Json → Option Fault
  | [] => none
  | v :: vs => (skimFault? v).or (itemsSkimFault? vs)

def membersSkimFault? : List (String × Json) → Option Fault
  | [] => none
  | m :: ms => (memberSkimFault? m).or (membersSkimFault? ms)

def memberSkimFault? : String × Json → Option Fault
  | (_, v) => skimFault? v

end

/-- What stops a reader who expects a value of another kind: its own flaw, else its kind. -/
def mismatch : Json → Fault
  | .flawed flaw => flaw.reading
  | _ => .shape

end Json

end Ambient
