import Ambient.Json.Fault

/-!
Numbers in JSON texts. A numeral is kept as a significand of at most 64 bits and a power of ten;
digits that no longer fit are dropped. The double is formed from these two by one exact power of
ten at a time, so it can differ in the last place from the nearest double to the numeral.
-/
namespace Ambient

namespace Json

structure Number where
  negative : Bool
  /-- Below 2 to the 64th. -/
  significand : Nat
  exponent : Int
  /-- Whether the numeral has neither fraction nor exponent and no digit was dropped. -/
  whole : Bool
  deriving DecidableEq

/-- Appends digits to a significand while it stays below 2 to the 64th. Gives the significand and
how many digits it took. -/
def takeDigits (significand : Nat) : List Nat → Nat × Nat
  | [] => (significand, 0)
  | d :: ds =>
    if significand * 10 + d < 2 ^ 64 then
      let (s, taken) := takeDigits (significand * 10 + d) ds
      (s, taken + 1)
    else (significand, 0)

/-- The number of a numeral: a digit dropped before the point counts in the exponent, one dropped
after it does not. -/
def Number.ofDigits (negative : Bool) (integer : List Nat) (fraction? : Option (List Nat))
    (exponent? : Option Int) : Number :=
  let (s, taken) := takeDigits 0 integer
  let dropped := integer.length - taken
  let (significand, places) := takeDigits s (fraction?.getD [])
  { negative, significand
    exponent := exponent?.getD 0 + dropped - places
    whole := fraction?.isNone && exponent?.isNone && dropped == 0 }

def tenTo (n : Nat) : Float := Float.ofScientific 1 false n

def scaleDown (value : Float) (places : Nat) : Float :=
  if places ≤ 308 then value / tenTo places
  else if value == 0 then value
  else scaleDown (value / tenTo 308) (places - 308)
  termination_by places

def scaleUp? (value : Float) (places : Nat) : Option Float :=
  if places ≤ 308 then
    let product := value * tenTo places
    if product.isInf then none else some product
  else if value == 0 then some value
  else none

/-- The double of a number; a number beyond the largest double has none, one below the smallest is
a zero of its sign. -/
def Number.toFloat? (n : Number) : Option Float :=
  let value := n.significand.toUInt64.toFloat
  let magnitude? :=
    if 0 ≤ n.exponent then scaleUp? value n.exponent.toNat
    else some (scaleDown value (-n.exponent).toNat)
  magnitude?.map fun m => if n.negative then -m else m

def Number.toNat? (n : Number) : Option Nat :=
  if n.whole && !n.negative then some n.significand else none

def scanDigits (cs : List Char) : List Nat × List Char :=
  ((cs.takeWhile Char.isDigit).map fun c => c.toNat - '0'.toNat, cs.dropWhile Char.isDigit)

def scanSomeDigits (cs : List Char) : Except Fault (List Nat × List Char) :=
  match scanDigits cs with
  | ([], []) => .error .endOfText
  | ([], _) => .error .malformed
  | digits => .ok digits

def scanInteger (cs : List Char) : Except Fault (List Nat × List Char) := do
  let (digits, rest) ← scanSomeDigits cs
  match digits with
  | 0 :: _ :: _ => .error .malformed
  | _ => .ok (digits, rest)

def scanFraction (cs : List Char) : Except Fault (Option (List Nat) × List Char) :=
  match cs with
  | '.' :: rest => do
    let (digits, rest) ← scanSomeDigits rest
    .ok (some digits, rest)
  | _ => .ok (none, cs)

def natOfDigits (digits : List Nat) : Nat := digits.foldl (fun n d => n * 10 + d) 0

def scanExponent (cs : List Char) : Except Fault (Option Int × List Char) := do
  match cs with
  | c :: rest =>
    if c = 'e' ∨ c = 'E' then
      match rest with
      | '-' :: rest =>
        let (digits, rest) ← scanSomeDigits rest
        .ok (some (-(natOfDigits digits : Int)), rest)
      | '+' :: rest =>
        let (digits, rest) ← scanSomeDigits rest
        .ok (some (natOfDigits digits : Int), rest)
      | _ =>
        let (digits, rest) ← scanSomeDigits rest
        .ok (some (natOfDigits digits : Int), rest)
    else .ok (none, cs)
  | [] => .ok (none, [])

def scanNumber (cs : List Char) : Except Fault (Number × List Char) := do
  let (negative, unsigned) :=
    match cs with
    | '-' :: rest => (true, rest)
    | _ => (false, cs)
  let (integer, rest) ← scanInteger unsigned
  let (fraction?, rest) ← scanFraction rest
  let (exponent?, rest) ← scanExponent rest
  .ok (.ofDigits negative integer fraction? exponent?, rest)

end Json

end Ambient
