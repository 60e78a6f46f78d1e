import Ambient.Json.Number

/-!
Strings in JSON texts. A string is first cut into units, one for each character or escape, which is
all that a reader who skips the string looks at; the units are then joined into characters, where
escaped surrogates must come in pairs.
-/
namespace Ambient.Json

inductive TextUnit where
  | char (c : Char)
  /-- A hexadecimal escape, which may be one half of a surrogate pair. -/
  | code (value : Nat)

structure TextUnits where
  units : List TextUnit
  rest : Except Fault (List Char)

def TextUnits.cons (u : TextUnit) (t : TextUnits) : TextUnits := { t with units := u :: t.units }

def shortEscape? : Char → Option Char
  | '"' => some '"'
  | '\\' => some '\\'
  | '/' => some '/'
  | 'b' => some '\x08'
  | 'f' => some '\x0c'
  | 'n' => some '\n'
  | 'r' => some '\r'
  | 't' => some '\t'
  | _ => none

def hexDigit? (c : Char) : Option Nat :=
  if '0' ≤ c ∧ c ≤ '9' then some (c.toNat - '0'.toNat)
  else if 'a' ≤ c ∧ c ≤ 'f' then some (c.toNat - 'a'.toNat + 10)
  else if 'A' ≤ c ∧ c ≤ 'F' then some (c.toNat - 'A'.toNat + 10)
  else none

def hexCode? (a b c d : Char) : Option Nat := do
  some ((((← hexDigit? a) * 16 + (← hexDigit? b)) * 16 + (← hexDigit? c)) * 16 + (← hexDigit? d))

/-- What is wrong where fewer than four characters follow the start of a hexadecimal escape: the
text ends too early unless they take four bytes. -/
def shortCodeFault (cs : List Char) : Fault :=
  if cs.foldl (fun bytes c => bytes + c.utf8Size) 0 < 4 then .endOfText else .malformed

def scanUnits : List Char → TextUnits
  | [] => ⟨[], .error .endOfText⟩
  | '"' :: rest => ⟨[], .ok rest⟩
  | ['\\'] => ⟨[], .error .endOfText⟩
  | '\\' :: 'u' :: a :: b :: c :: d :: rest =>
    match hexCode? a b c d with
    | some code => (scanUnits rest).cons (.code code)
    | none => ⟨[], .error .malformed⟩
  | '\\' :: 'u' :: rest => ⟨[], .error (shortCodeFault rest)⟩
  | '\\' :: c :: rest =>
    match shortEscape? c with
    | some e => (scanUnits rest).cons (.char e)
    | none => ⟨[], .error .malformed⟩
  | c :: rest =>
    if c < ' ' then ⟨[], .error .malformed⟩ else (scanUnits rest).cons (.char c)

def isLeading (code : Nat) : Bool := 0xD800 ≤ code && code ≤ 0xDBFF

def isTrailing (code : Nat) : Bool := 0xDC00 ≤ code && code ≤ 0xDFFF

def ofPair (leading trailing : Nat) : Char :=
  Char.ofNat ((leading - 0xD800) * 0x400 + (trailing - 0xDC00) + 0x10000)

/-- The characters of a string, or its first fault: a surrogate that is no half of a pair. Where the
units end in a fault, that fault is met instead by one who looks for the second half. -/
def joinUnits (atEnd : Fault) : List TextUnit → Except Fault (List Char)
  | [] => .ok []
  | .char c :: us => (joinUnits atEnd us).map (c :: ·)
  | [.code n] =>
    if isLeading n then .error atEnd
    else if isTrailing n then .error .malformed
    else .ok [Char.ofNat n]
  | .code n :: .code m :: us =>
    if isLeading n then
      if isTrailing m then (joinUnits atEnd us).map (ofPair n m :: ·) else .error .malformed
    else if isTrailing n then .error .malformed
    else (joinUnits atEnd (.code m :: us)).map (Char.ofNat n :: ·)
  | .code n :: .char c :: us =>
    if isLeading n || isTrailing n then .error .malformed
    else (joinUnits atEnd (.char c :: us)).map (Char.ofNat n :: ·)

end Ambient.Json
