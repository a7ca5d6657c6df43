import SchemaBindings.Number.Binary64
import SchemaBindings.Text.Cursor
import SchemaBindings.Toml.Node

/-! Numbers, dates and words of TOML, told apart by their spelling. -/

namespace SchemaBindings.Toml

open Text (digitValue decimalNumber hexNumber?)

def digits? (isDigit : Char → Bool) (cs : List Char) : Option (List Char) :=
  let groups := Text.parts '_' cs
  if groups.all (fun group => !group.isEmpty && group.all isDigit) then some groups.flatten
  else none

def splitSign : List Char → Bool × List Char
  | '-' :: rest => (true, rest)
  | '+' :: rest => (false, rest)
  | cs => (false, cs)

def wholeDigits? (cs : List Char) : Option (List Char) := do
  let digits ← digits? Char.isDigit cs
  match digits with
  | '0' :: _ :: _ => none
  | _ => some digits

def inBase (base : Nat) (digits : List Char) : Nat :=
  digits.foldl (fun n c => n * base + ((Text.hexValue? c).getD 0)) 0

def isBaseDigit (base : Nat) (c : Char) : Bool :=
  match Text.hexValue? c with
  | some n => n < base
  | none => false

def based? (base : Nat) (cs : List Char) : Option Int :=
  (digits? (isBaseDigit base) cs).map fun digits => inBase base digits

def integer? (cs : List Char) : Option Int :=
  match cs with
  | '0' :: 'x' :: rest => based? 16 rest
  | '0' :: 'o' :: rest => based? 8 rest
  | '0' :: 'b' :: rest => based? 2 rest
  | _ =>
    let (negative, magnitude) := splitSign cs
    (wholeDigits? magnitude).map fun digits =>
      if negative then -(decimalNumber digits : Int) else decimalNumber digits

/-- Beyond this no exponent of ten leaves a finite number other than zero. -/
def exponentBound : Nat := 400

def realOf (negative : Bool) (significand : List Char) (exponent : Int) : Real :=
  let digits := significand.dropWhile (· == '0')
  let magnitude : Int := digits.length + exponent
  let nearest : Option Binary64 :=
    if digits.isEmpty || magnitude < -exponentBound then some .zero
    else if exponentBound < magnitude then none
    else if 0 ≤ exponent then Binary64.ofRatio? (decimalNumber digits * Nat.pow 10 exponent.toNat) 1
    else Binary64.ofRatio? (decimalNumber digits) (Nat.pow 10 (-exponent).toNat)
  match nearest with
  | some x => .finite { x with negative }
  | none => .overflow

def exponent? (cs : List Char) : Option Int :=
  let (negative, magnitude) := splitSign cs
  (digits? Char.isDigit magnitude).map fun digits =>
    if negative then -(decimalNumber digits : Int) else decimalNumber digits

def isExponentMark (c : Char) : Bool :=
  c = 'e' || c = 'E'

def real? (cs : List Char) : Option Real := do
  let (negative, magnitude) := splitSign cs
  if magnitude = ['i', 'n', 'f'] then return .infinite negative
  if magnitude = ['n', 'a', 'n'] then return .nan
  let mantissa := magnitude.takeWhile (!isExponentMark ·)
  let power := magnitude.drop mantissa.length
  let exponent ← match power with
    | [] => some 0
    | _ :: digits => exponent? digits
  let whole := mantissa.takeWhile (· != '.')
  let whole' ← wholeDigits? whole
  match mantissa.drop whole.length with
  | [] => if power.isEmpty then none else return realOf negative whole' exponent
  | _ :: fraction => do
    let digits ← digits? Char.isDigit fraction
    return realOf negative (whole' ++ digits) (exponent - digits.length)

/-! ### Dates and times -/

def twoDigits? : List Char → Option (Nat × List Char)
  | a :: b :: rest =>
    if a.isDigit && b.isDigit then some (digitValue a * 10 + digitValue b, rest) else none
  | _ => none

def expect? (c : Char) : List Char → Option (List Char)
  | d :: rest => if c = d then some rest else none
  | [] => none

def isLeapYear (year : Nat) : Bool :=
  year % 4 = 0 && (year % 100 ≠ 0 || year % 400 = 0)

def daysInMonth (year month : Nat) : Nat :=
  if month = 2 then (if isLeapYear year then 29 else 28)
  else if [4, 6, 9, 11].contains month then 30
  else 31

def date? (cs : List Char) : Option (List Char) := do
  let (century, cs) ← twoDigits? cs
  let (year, cs) ← twoDigits? cs
  let cs ← expect? '-' cs
  let (month, cs) ← twoDigits? cs
  let cs ← expect? '-' cs
  let (day, cs) ← twoDigits? cs
  if 1 ≤ month && month ≤ 12 && 1 ≤ day && day ≤ daysInMonth (century * 100 + year) month then
    return cs
  else none

def fractionOfSecond? : List Char → Option (List Char)
  | '.' :: rest =>
    match rest with
    | c :: _ => if c.isDigit then some (rest.dropWhile Char.isDigit) else none
    | [] => none
  | cs => some cs

def time? (cs : List Char) : Option (List Char) := do
  let (hour, cs) ← twoDigits? cs
  let cs ← expect? ':' cs
  let (minute, cs) ← twoDigits? cs
  if 23 < hour || 59 < minute then none
  else
    match cs with
    | ':' :: rest => do
      let (second, rest) ← twoDigits? rest
      if 60 < second then none else fractionOfSecond? rest
    | _ => return cs

def offset? : List Char → Option (List Char)
  | [] => some []
  | ['Z'] => some []
  | ['z'] => some []
  | c :: rest => do
    if c = '+' || c = '-' then
      let (hour, rest) ← twoDigits? rest
      let rest ← expect? ':' rest
      let (minute, rest) ← twoDigits? rest
      if 23 < hour || 59 < minute then none else return rest
    else none

def isDatetime (cs : List Char) : Bool :=
  let dated : Option (List Char) := do
    let rest ← date? cs
    match rest with
    | [] => return []
    | c :: rest =>
      if c = 'T' || c = 't' || c = ' ' then offset? (← time? rest) else none
  dated = some [] || time? cs = some []

def scalar? (span : Span) (cs : List Char) : Option Node :=
  if cs = ['t', 'r', 'u', 'e'] then some (.boolean span true)
  else if cs = ['f', 'a', 'l', 's', 'e'] then some (.boolean span false)
  else
    match integer? cs, real? cs with
    | some n, _ => some (.integer span n)
    | none, some x => some (.real span x)
    | none, none => if isDatetime cs then some (.datetime span) else none

end SchemaBindings.Toml
