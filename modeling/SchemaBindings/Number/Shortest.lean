import SchemaBindings.Number.Binary64

/-!
Decimal text of a double: the fewest digits that read back, the nearest of those to the value.
A style says which of two nearest is taken and where an exponent is written.
-/

namespace SchemaBindings

/-- The value `digits · 10 ^ exponent`. -/
structure Decimal where
  digits : Nat
  exponent : Int
  deriving DecidableEq, Repr

inductive TieRule where
  | even
  | away
  deriving DecidableEq, Repr

/-- How doubles are written. The bounds are the least and the greatest power of ten of a leading
digit that is written without an exponent; where there are none, no exponent is ever written. -/
structure RealStyle where
  tie : TieRule
  bounds : Option (Int × Int)
  deriving DecidableEq, Repr

namespace Binary64

def ofDecimal? (d : Decimal) : Option Binary64 :=
  if 0 ≤ d.exponent then ofRatio? (d.digits * Nat.pow 10 d.exponent.toNat) 1
  else ofRatio? d.digits (Nat.pow 10 (-d.exponent).toNat)

/-- Reads back as the magnitude of `x`. -/
def readsAs (x : Binary64) (d : Decimal) : Bool :=
  match ofDecimal? d with
  | some y => y.mantissa == x.mantissa && y.exponent == x.exponent
  | none => false

def digitCount (n : Nat) : Nat :=
  (Nat.toDigits 10 n).length

def leadingPlace (num den : Nat) : Int :=
  if den ≤ num then (digitCount (num / den) : Int) - 1
  else
    let deficit := digitCount den - digitCount num
    if den ≤ num * Nat.pow 10 deficit then -(deficit : Int) else -(deficit + 1 : Int)

def gridNeighbours (tie : TieRule) (num den : Nat) (place : Int) : List Decimal :=
  let (n, d) :=
    if place < 0 then (num * Nat.pow 10 (-place).toNat, den)
    else (num, den * Nat.pow 10 place.toNat)
  let low := n / d
  let above := 2 * (n % d)
  if above < d ∨ above = d ∧ tie = .even ∧ low % 2 = 0 then [⟨low, place⟩, ⟨low + 1, place⟩]
  else [⟨low + 1, place⟩, ⟨low, place⟩]

def firstGrid (tie : TieRule) (x : Binary64) (num den : Nat) (place : Int) : Nat → Decimal
  | 0 => ⟨0, 0⟩
  | count + 1 =>
    match (gridNeighbours tie num den place).find? (readsAs x) with
    | some d => d
    | none => firstGrid tie x num den (place - 1) count

/-- The first grid holds the power of ten above the value; seventeen digits always suffice. -/
def shortest (tie : TieRule) (x : Binary64) : Decimal :=
  if x.isZero then ⟨0, 0⟩
  else
    let (num, den) := x.ratio
    firstGrid tie x num den (leadingPlace num den + 1) 19

def zeros (n : Nat) : List Char :=
  List.replicate n '0'

def positional (d : Decimal) : List Char :=
  let digits := Nat.toDigits 10 d.digits
  if 0 ≤ d.exponent then digits ++ zeros d.exponent.toNat ++ ['.', '0']
  else
    let places := (-d.exponent).toNat
    if digits.length ≤ places then ['0', '.'] ++ zeros (places - digits.length) ++ digits
    else
      let whole := digits.length - places
      digits.take whole ++ '.' :: digits.drop whole

def scientific (d : Decimal) (power : Int) : List Char :=
  let point : List Char → List Char
    | [] => []
    | digits => '.' :: digits
  match Nat.toDigits 10 d.digits with
  | [] => []
  | lead :: digits =>
    lead :: point digits ++ ['e', if power < 0 then '-' else '+'] ++ Nat.toDigits 10 power.natAbs

def Decimal.chars (style : RealStyle) (d : Decimal) : List Char :=
  let power : Int := d.exponent + digitCount d.digits - 1
  match style.bounds with
  | none => positional d
  | some (least, greatest) =>
    if d.digits = 0 ∨ least ≤ power ∧ power ≤ greatest then positional d
    else scientific d power

def text (style : RealStyle) (x : Binary64) : String :=
  String.ofList
    ((if x.negative then ['-'] else []) ++ Decimal.chars style (x.shortest style.tie))

end Binary64

end SchemaBindings
