import SchemaBindings.Json.Outline
import SchemaBindings.Text.Cursor

/-! From JSON text to its tree. Offsets count bytes. -/

namespace SchemaBindings.Json

open Text (Cursor digitValue hexNumber?)

def isSpace (c : Char) : Bool :=
  c = ' ' || c = '\n' || c = '\t' || c = '\r'

def skipSpace (c : Cursor) : Cursor :=
  c.skipWhile isSpace

/-! ### Numbers -/

def significandLimit : Nat := Nat.pow 2 64

/-- Appends digits while the significand fits in 64 bits; the count is of those left out. -/
def pushDigits (significand : Nat) : List Char → Nat × Nat
  | [] => (significand, 0)
  | d :: digits =>
    let next := significand * 10 + digitValue d
    if next < significandLimit then pushDigits next digits else (significand, digits.length + 1)

def greatestTableExponent : Nat := 308

/-- One correctly rounded step per factor; at most `steps` divisions by the greatest power. -/
def scaleDown (x : Binary64) (exponent : Nat) : Nat → Option Binary64
  | 0 => some .zero
  | steps + 1 =>
    if exponent ≤ greatestTableExponent then
      (Binary64.powerOfTen? exponent).bind x.div?
    else if x.isZero then some x
    else
      (Binary64.powerOfTen? greatestTableExponent).bind fun power =>
        (x.div? power).bind fun y => scaleDown y (exponent - greatestTableExponent) steps

def scaleUp (x : Binary64) (exponent : Nat) : Option Binary64 :=
  if exponent ≤ greatestTableExponent then
    (Binary64.powerOfTen? exponent).bind x.mul?
  else if x.isZero then some x
  else none

def doubleOf (negative : Bool) (significand : Nat) (exponent : Int) : Option Binary64 :=
  (Binary64.ofRatio? significand 1).bind fun x =>
    (if 0 ≤ exponent then scaleUp x exponent.toNat
      else scaleDown x (-exponent).toNat 4).map fun y => { y with negative }

structure Numeral where
  negative : Bool
  whole : List Char
  fraction : Option (List Char)
  exponent : Option (Bool × List Char)
  deriving DecidableEq, Repr

def exponentLimit : Nat := Nat.pow 2 31

def exponentValue (value count : Nat) : List Char → Except Nat Nat
  | [] => .ok value
  | d :: digits =>
    let next := value * 10 + digitValue d
    if next < exponentLimit then exponentValue next (count + 1) digits else .error (count + 1)

def negativeInteger (significand : Nat) : Option Number :=
  if significand = 0 then some (.double Binary64.zero.neg)
  else if significand ≤ Nat.pow 2 63 then some (.integer (-significand))
  else (doubleOf true significand 0).map .double

/-- The offset `exponentStart` is that of the first digit of the exponent, `after` of the end. -/
def Numeral.value (n : Numeral) (exponentStart after : Nat) : Except Fault Number :=
  let (significand, dropped) := pushDigits 0 n.whole
  let outOfRange : Option Number → Except Fault Number
    | some number => .ok number
    | none => .error (.at .numberOutOfRange after)
  let written (significand : Nat) (exponent : Int) : Except Fault Number :=
    outOfRange ((doubleOf n.negative significand exponent).map .double)
  let (significand, scale) :=
    match n.fraction with
    | none => (significand, (dropped : Int))
    | some digits =>
      let (longer, unused) := pushDigits significand digits
      (longer, (dropped : Int) - (digits.length - unused : Nat))
  match n.exponent with
  | some (down, digits) =>
    match exponentValue 0 0 digits with
    | .ok e => written significand (if down then scale - e else scale + e)
    | .error count =>
      if significand = 0 || down then .ok (.double ⟨n.negative, 0, Binary64.leastExponent⟩)
      else .error (.at .numberOutOfRange (exponentStart + count))
  | none =>
    if n.fraction.isNone && dropped = 0 then
      if n.negative then outOfRange (negativeInteger significand)
      else .ok (.integer significand)
    else written significand scale

def takeDigits (c : Cursor) : List Char × Cursor :=
  c.takeWhile Char.isDigit

/-- A digit had to stand here. At the end of the text a reader still waits for the value. -/
def digitWanted (c : Cursor) : Cut :=
  if c.rest.isEmpty then ⟨.at .endInValue c.offset, .at .invalidNumber c.offset⟩
  else .both .invalidNumber (c.offset + 1)

def scanExponent (c : Cursor) : Except Cut (Option (Bool × List Char) × Cursor) :=
  match c.rest with
  | e :: rest =>
    if e = 'e' || e = 'E' then
      let (down, signed) : Bool × Cursor :=
        match rest with
        | '-' :: rest => (true, ⟨rest, c.offset + 2⟩)
        | '+' :: rest => (false, ⟨rest, c.offset + 2⟩)
        | rest => (false, ⟨rest, c.offset + 1⟩)
      let (digits, after) := takeDigits signed
      if digits.isEmpty then .error (digitWanted signed) else .ok (some (down, digits), after)
    else .ok (none, c)
  | [] => .ok (none, c)

def scanFraction (c : Cursor) : Except Cut (Option (List Char) × Cursor) :=
  match c.rest with
  | '.' :: rest =>
    let (digits, after) := takeDigits ⟨rest, c.offset + 1⟩
    if digits.isEmpty then .error (digitWanted ⟨rest, c.offset + 1⟩) else .ok (some digits, after)
  | _ => .ok (none, c)

def scanWhole (c : Cursor) : Except Cut (List Char × Cursor) :=
  let (digits, after) := takeDigits c
  match digits with
  | [] => .error (digitWanted c)
  | '0' :: _ :: _ => .error (.both .invalidNumber (c.offset + 2))
  | _ => .ok (digits, after)

def scanNumber (start : Cursor) : Outline × Option Cursor :=
  let (negative, c) : Bool × Cursor :=
    match start.rest with
    | '-' :: rest => (true, ⟨rest, start.offset + 1⟩)
    | _ => (false, start)
  let parts : Except Cut (Numeral × Nat × Cursor) := do
    let (whole, c) ← scanWhole c
    let (fraction, c) ← scanFraction c
    let (exponent, after) ← scanExponent c
    let length := match exponent with
      | some (_, digits) => digits.length
      | none => 0
    return (⟨negative, whole, fraction, exponent⟩, after.offset - length, after)
  match parts with
  | .error cut => (.broken start.offset false cut, none)
  | .ok (numeral, exponentStart, after) =>
    match numeral.value exponentStart after.offset with
    | .ok number => (.scalar start.offset (.number number) after.offset, some after)
    | .error fault => (.flawed start.offset false fault, some after)

/-! ### Strings -/

def simpleEscape? (c : Char) : Option Char :=
  if c = '"' || c = '\\' || c = '/' then some c
  else if c = 'b' then some '\x08'
  else if c = 'f' then some '\x0c'
  else if c = 'n' then some '\n'
  else if c = 'r' then some '\r'
  else if c = 't' then some '\t'
  else none

def isLeading (n : Nat) : Bool :=
  0xD800 ≤ n && n ≤ 0xDBFF

def isTrailing (n : Nat) : Bool :=
  0xDC00 ≤ n && n ≤ 0xDFFF

/--
What a string has given so far: its characters in reverse, a leading surrogate that still wants
its partner, and the first flaw.
-/
structure Spelling where
  reversed : List Char
  pending : Option Nat
  flaw : Option Fault

namespace Spelling

def empty : Spelling := ⟨[], none, none⟩

def push (s : Spelling) (c : Char) : Spelling :=
  { s with reversed := c :: s.reversed }

def blame (s : Spelling) (cause : Cause) (offset : Nat) : Spelling :=
  { s with pending := none, flaw := s.flaw.or (some (.at cause offset)) }

def alone (s : Spelling) (offset : Nat) : Spelling :=
  if s.pending.isSome then s.blame .endOfHexEscape offset else s

def unit (s : Spelling) (n offset : Nat) : Spelling :=
  match s.pending with
  | some lead =>
    if isTrailing n then
      let joined := Char.ofNat (0x10000 + (lead - 0xD800) * 0x400 + (n - 0xDC00))
      { s.push joined with pending := none }
    else s.blame .loneSurrogate offset
  | none =>
    if isTrailing n then s.blame .loneSurrogate offset
    else if isLeading n then { s with pending := some n }
    else s.push (Char.ofNat n)

def cut (s : Spelling) (cause : Cause) (offset : Nat) : Cut :=
  ⟨s.flaw.getD (.at cause offset), .at cause offset⟩

end Spelling

def scanText (s : Spelling) (offset : Nat) :
    List Char → Except Cut (Except Fault String × Cursor)
  | [] => .error (s.cut .endInString offset)
  | '\\' :: 'u' :: a :: b :: c :: d :: rest =>
    match hexNumber? [a, b, c, d] with
    | some n => scanText (s.unit n (offset + 6)) (offset + 6) rest
    | none => .error (s.cut .invalidEscape (offset + 6))
  | '\\' :: 'u' :: rest =>
    let size := Text.byteLength rest
    if size < 4 then .error (s.cut .endInString (offset + 2 + size))
    else .error (s.cut .invalidEscape (offset + 6))
  | ['\\'] => .error (s.cut .endInString (offset + 1))
  | '\\' :: e :: rest =>
    let s := s.alone (offset + 2)
    match simpleEscape? e with
    | some c => scanText (s.push c) (offset + 2) rest
    | none => .error (s.cut .invalidEscape (offset + 2))
  | c :: rest =>
    let s := s.alone (offset + 1)
    if c = '"' then
      .ok (match s.flaw with
        | some fault => .error fault
        | none => .ok (String.ofList s.reversed.reverse), ⟨rest, offset + 1⟩)
    else if c.toNat < 32 then
      .error ⟨s.flaw.getD (.at .controlCharacter (offset + 1)), .at .controlCharacter offset⟩
    else scanText (s.push c) (offset + c.utf8Size) rest

/-! ### Values -/

def scanWord (value : Scalar) (start : Nat) (word : List Char) (c : Cursor) :
    Outline × Option Cursor :=
  match word with
  | [] => (.scalar start value c.offset, some c)
  | w :: word =>
    match c.rest with
    | [] => (.broken start false (.both .endInValue c.offset), none)
    | d :: rest =>
      if d = w then scanWord value start word ⟨rest, c.offset + 1⟩
      else (.broken start false (.both .expectedIdent (c.offset + 1)), none)

def scanScalar (c : Cursor) : Outline × Option Cursor :=
  match c.rest with
  | [] => (.broken c.offset true (.both .endInValue c.offset), none)
  | 'n' :: rest => scanWord .null c.offset ['u', 'l', 'l'] ⟨rest, c.offset + 1⟩
  | 't' :: rest => scanWord (.bool true) c.offset ['r', 'u', 'e'] ⟨rest, c.offset + 1⟩
  | 'f' :: rest => scanWord (.bool false) c.offset ['a', 'l', 's', 'e'] ⟨rest, c.offset + 1⟩
  | '"' :: rest =>
    match scanText .empty (c.offset + 1) rest with
    | .error cut => (.broken c.offset true cut, none)
    | .ok (.error fault, after) => (.flawed c.offset true fault, some after)
    | .ok (.ok text, after) => (.scalar c.offset (.string text) after.offset, some after)
  | d :: _ =>
    if d = '-' || d.isDigit then scanNumber c
    else (.broken c.offset false (.both .expectedValue (c.offset + 1)), none)

def leaveList (c : Cursor) : Nat :=
  let c := skipSpace c
  match c.rest with
  | ']' :: _ => c.offset + 1
  | ',' :: rest => (skipSpace ⟨rest, c.offset + 1⟩).offset
  | _ => c.offset

def leaveObject (c : Cursor) : Nat :=
  let c := skipSpace c
  match c.rest with
  | '\x7d' :: _ => c.offset + 1
  | _ => c.offset

def unfinished (c : Cursor) : Ending :=
  .cut (.both .endInList c.offset) (.at .endInList c.offset)

mutual

def scanValue : Nat → Cursor → Outline × Option Cursor
  | 0, c => (.broken c.offset true (.both .endInValue c.offset), none)
  | fuel + 1, c =>
    let c := skipSpace c
    match c.rest with
    | '[' :: rest =>
      let (items, next) := scanItems fuel true ⟨rest, c.offset + 1⟩
      (.array c.offset items, next)
    | '\x7b' :: rest =>
      let (members, next) := scanMembers fuel true ⟨rest, c.offset + 1⟩
      (.object c.offset members, next)
    | _ => scanScalar c

def scanItems : Nat → Bool → Cursor → Items × Option Cursor
  | 0, _, c => (.done (unfinished c), none)
  | fuel + 1, first, c =>
    let c := skipSpace c
    match c.rest with
    | [] => (.done (unfinished c), none)
    | ']' :: rest => (.done (.closed (c.offset + 1)), some ⟨rest, c.offset + 1⟩)
    | d :: rest =>
      if first then scanItem fuel c
      else if d = ',' then
        let c := skipSpace ⟨rest, c.offset + 1⟩
        match c.rest with
        | [] =>
          (.done (.cut (.both .endInValue c.offset) (.at .trailingCharacters c.offset)), none)
        | ']' :: _ =>
          (.done (.cut ⟨.at .trailingComma (c.offset + 1), .at .expectedValue (c.offset + 1)⟩
            (.at .trailingComma (c.offset + 1))), none)
        | _ => scanItem fuel c
      else
        (.done (.cut (.both .expectedListSeparator (c.offset + 1))
          (.at .trailingCharacters (c.offset + 1))), none)

def scanItem : Nat → Cursor → Items × Option Cursor
  | 0, c => (.done (unfinished c), none)
  | fuel + 1, c =>
    match scanValue fuel c with
    | (value, none) => (.more c.offset value c.offset (.done (unfinished c)), none)
    | (value, some after) =>
      let (rest, next) := scanItems fuel false after
      (.more c.offset value (leaveList after) rest, next)

def scanMembers : Nat → Bool → Cursor → Members × Option Cursor
  | 0, _, c => (.done (unfinished c), none)
  | fuel + 1, first, c =>
    let cutAt (cut : Cut) : Members × Option Cursor := (.done (.cut cut cut.reading), none)
    let c := skipSpace c
    match c.rest with
    | [] => cutAt (.both .endInObject c.offset)
    | '\x7d' :: rest => (.done (.closed (c.offset + 1)), some ⟨rest, c.offset + 1⟩)
    | d :: rest =>
      if first then
        if d = '"' then scanMember fuel c else cutAt (.both .keyMustBeString (c.offset + 1))
      else if d = ',' then
        let c := skipSpace ⟨rest, c.offset + 1⟩
        match c.rest with
        | [] => cutAt ⟨.at .endInValue c.offset, .at .endInObject c.offset⟩
        | '\x7d' :: _ =>
          cutAt ⟨.at .trailingComma (c.offset + 1), .at .keyMustBeString (c.offset + 1)⟩
        | '"' :: _ => scanMember fuel c
        | _ => cutAt (.both .keyMustBeString (c.offset + 1))
      else cutAt (.both .expectedObjectSeparator (c.offset + 1))

def scanMember : Nat → Cursor → Members × Option Cursor
  | 0, c => (.done (unfinished c), none)
  | fuel + 1, c =>
    match scanText .empty (c.offset + 1) (c.rest.drop 1) with
    | .error cut => (.done (.cut cut cut.reading), none)
    | .ok (name, after) =>
      let key : Key := ⟨name, after.offset, leaveObject after⟩
      let colon := skipSpace after
      let without (cause : Cause) : Members × Option Cursor :=
        (.more key (.broken colon.offset true (.both cause colon.peekOffset)) colon.offset
          (.done (unfinished colon)), none)
      match colon.rest with
      | [] => without .endInObject
      | ':' :: rest =>
        match scanValue fuel ⟨rest, colon.offset + 1⟩ with
        | (value, none) => (.more key value colon.offset (.done (unfinished colon)), none)
        | (value, some after) =>
          let (rest, next) := scanMembers fuel false after
          (.more key value (leaveObject after) rest, next)
      | _ => without .expectedColon

end

/-- Enough for one step down and one step on at every character. -/
def scanFuel (text : List Char) : Nat :=
  4 * text.length + 4

def scanDocument (text : List Char) : Outline × Option Fault :=
  match scanValue (scanFuel text) (.start text) with
  | (outline, none) => (outline, none)
  | (outline, some after) =>
    let after := skipSpace after
    let trailing := Fault.at .trailingCharacters (after.offset + 1)
    (outline, if after.rest.isEmpty then none else some trailing)

end SchemaBindings.Json
