import EntitySql.Json.Basic

/-!
# Reading JSON text

`Json.parse` reads one JSON value followed only by blanks. It is strict: no trailing commas, no
leading zeros, no comments; at most 127 arrays and objects may be open at once.

Numbers follow a fixed reading rule. Digits accumulate into an unsigned 64-bit significand; once
it would overflow, further integer digits only raise the exponent and further fraction digits are
dropped. A number without fraction or exponent is an integer when it fits (negative ones a
signed word), and `-0` is the float `-0.0`. Otherwise the float is the significand rounded to a
float, multiplied or divided once by the float nearest to `10^|e|` (a second division by `1e308`
for tiny exponents). An overflow to infinity is an error.

A failure carries the position of the fault: the line (from 1) and the column, counted in bytes
from the last line break. A fault found while looking at the next character is placed after it.
-/

namespace EntitySql

/-- The kinds of malformed JSON text. -/
inductive JsonErrorCode where
  | eofWhileParsingList
  | eofWhileParsingObject
  | eofWhileParsingString
  | eofWhileParsingValue
  | expectedColon
  | expectedListCommaOrEnd
  | expectedObjectCommaOrEnd
  | expectedSomeIdent
  | expectedSomeValue
  | invalidEscape
  | invalidNumber
  | numberOutOfRange
  | invalidUnicodeCodePoint
  | controlCharacterWhileParsingString
  | keyMustBeAString
  | loneLeadingSurrogateInHexEscape
  | trailingComma
  | trailingCharacters
  | unexpectedEndOfHexEscape
  | recursionLimitExceeded
  deriving Repr, DecidableEq

/-- The text of an error kind. -/
def JsonErrorCode.message : JsonErrorCode → String
  | .eofWhileParsingList => "EOF while parsing a list"
  | .eofWhileParsingObject => "EOF while parsing an object"
  | .eofWhileParsingString => "EOF while parsing a string"
  | .eofWhileParsingValue => "EOF while parsing a value"
  | .expectedColon => "expected `:`"
  | .expectedListCommaOrEnd => "expected `,` or `]`"
  | .expectedObjectCommaOrEnd => "expected `,` or `\x7d`"
  | .expectedSomeIdent => "expected ident"
  | .expectedSomeValue => "expected value"
  | .invalidEscape => "invalid escape"
  | .invalidNumber => "invalid number"
  | .numberOutOfRange => "number out of range"
  | .invalidUnicodeCodePoint => "invalid unicode code point"
  | .controlCharacterWhileParsingString =>
    "control character (\\u0000-\\u001F) found while parsing a string"
  | .keyMustBeAString => "key must be a string"
  | .loneLeadingSurrogateInHexEscape => "lone leading surrogate in hex escape"
  | .trailingComma => "trailing comma"
  | .trailingCharacters => "trailing characters"
  | .unexpectedEndOfHexEscape => "unexpected end of hex escape"
  | .recursionLimitExceeded => "recursion limit exceeded"

/-- A reading failure and where it happened. -/
structure JsonError where
  code : JsonErrorCode
  line : Nat
  column : Nat

def JsonError.message (e : JsonError) : String :=
  e.code.message ++ " at line " ++ toString e.line ++ " column " ++ toString e.column

namespace Json

def utf8Width (c : Char) : Nat :=
  if c.toNat < 0x80 then 1 else if c.toNat < 0x800 then 2 else if c.toNat < 0x10000 then 3 else 4

/-- The unread text, the position reached and how many more containers may open. -/
structure Cursor where
  rest : List Char
  line : Nat
  column : Nat
  depth : Nat

def Cursor.step (c : Cursor) (ch : Char) (rest : List Char) : Cursor :=
  if ch = '\n' then { c with rest, line := c.line + 1, column := 0 }
  else { c with rest, column := c.column + utf8Width ch }

@[simp] theorem Cursor.step_rest (c : Cursor) (ch : Char) (r : List Char) :
    (c.step ch r).rest = r := by
  unfold Cursor.step; split <;> rfl

/-- Read one character, if any is left. -/
def Cursor.next? (c : Cursor) : Option (Char × Cursor) :=
  match c.rest with
  | [] => none
  | ch :: rest => some (ch, c.step ch rest)

def Cursor.peek? (c : Cursor) : Option Char := c.rest.head?

def Cursor.fail {α : Type} (c : Cursor) (code : JsonErrorCode) : Except JsonError α :=
  .error ⟨code, c.line, c.column⟩

/-- A failure placed after the next character (at the end when none is left). -/
def Cursor.failAhead {α : Type} (c : Cursor) (code : JsonErrorCode) : Except JsonError α :=
  match c.rest with
  | [] => .error ⟨code, c.line, c.column⟩
  | ch :: _ =>
    if ch = '\n' then .error ⟨code, c.line + 1, 0⟩ else .error ⟨code, c.line, c.column + 1⟩

/-- Skip blanks: space, line feed, carriage return and tab. -/
def skipBlanks (c : Cursor) : Cursor :=
  match _h : c.rest with
  | [] => c
  | ch :: rest =>
    if ch = ' ' ∨ ch = '\n' ∨ ch = '\r' ∨ ch = '\t' then skipBlanks (c.step ch rest) else c
termination_by c.rest.length
decreasing_by simp [_h]

def digitValue (ch : Char) : Nat := ch.toNat - 48

def pow10 (k : Nat) : Float := Float.ofScientific 1 false k

/-- `m · 10^e` by one multiplication or division, as the number reader computes it. -/
def floatOfParts (c : Cursor) (positive : Bool) (m : Nat) (e : Int) :
    Except JsonError Float :=
  let rec go (fuel : Nat) (f : Float) (e : Int) : Except JsonError Float :=
    match fuel with
    | 0 => .ok f
    | fuel + 1 =>
      if e.natAbs ≤ 308 then
        if 0 ≤ e then
          let g := f * pow10 e.natAbs
          if g.isInf then c.fail .numberOutOfRange else .ok g
        else .ok (f / pow10 e.natAbs)
      else if f == 0 then .ok f
      else if 0 ≤ e then c.fail .numberOutOfRange
      else go fuel (f / 1e308) (e + 308)
  match go 8 (Float.ofNat m) e with
  | .ok f => .ok (if positive then f else -f)
  | .error err => .error err

def i32Max : Int := 2147483647

def clampExponent (e : Int) : Int := max (-i32Max - 1) (min i32Max e)

/-- Skip digits. -/
def skipDigits (c : Cursor) : Cursor :=
  match _h : c.rest with
  | ch :: rest => if ch.isDigit then skipDigits (c.step ch rest) else c
  | [] => c
termination_by c.rest.length
decreasing_by simp [_h]

/-- Read the digits of an exponent after its first one; `none` when they overflow 32 bits. -/
def exponentDigits (c : Cursor) (acc : Nat) : Option Nat × Cursor :=
  match h : c.rest with
  | ch :: rest =>
    if ch.isDigit then
      let d := digitValue ch
      if acc ≥ 214748364 ∧ (acc > 214748364 ∨ d > 7) then (none, c.step ch rest)
      else exponentDigits (c.step ch rest) (acc * 10 + d)
    else (some acc, c)
  | [] => (some acc, c)
termination_by c.rest.length
decreasing_by simp [h]

/-- The exponent part of a number, from the `e` on. -/
def readExponent (c : Cursor) (positive : Bool) (m : Nat) (start : Int) :
    Except JsonError (Json × Cursor) :=
  match c.next? with
  | none => c.fail .eofWhileParsingValue
  | some (_, c) =>
    let (positiveExp, c) := match c.rest with
      | '+' :: rest => (true, c.step '+' rest)
      | '-' :: rest => (false, c.step '-' rest)
      | _ => (true, c)
    match c.next? with
    | none => c.fail .eofWhileParsingValue
    | some (ch, c) =>
      if !ch.isDigit then c.fail .invalidNumber
      else
        match exponentDigits c (digitValue ch) with
        | (some e, c) =>
          let total := clampExponent (if positiveExp then start + e else start - e)
          (floatOfParts c positive m total).map fun f => (.float f, c)
        | (none, c) =>
          if m ≠ 0 ∧ positiveExp then c.fail .numberOutOfRange
          else
            let c := skipDigits c
            .ok (.float (if positive then 0.0 else -0.0), c)

def u64MaxNat : Nat := 18446744073709551615

def overflows (acc d : Nat) : Bool :=
  acc ≥ u64MaxNat / 10 ∧ (acc > u64MaxNat / 10 ∨ d > u64MaxNat % 10)

/-- After an exponent-free mantissa: the exponent, if one follows, else the float. -/
def finishFloat (c : Cursor) (positive : Bool) (m : Nat) (e : Int) :
    Except JsonError (Json × Cursor) :=
  match c.peek? with
  | some 'e' => readExponent c positive m e
  | some 'E' => readExponent c positive m e
  | _ => (floatOfParts c positive m e).map fun f => (.float f, c)

def fractionOverflow (c : Cursor) (positive : Bool) (m : Nat) (e : Int) :
    Except JsonError (Json × Cursor) :=
  finishFloat (skipDigits c) positive m e

/-- Fraction digits; `count` digits read so far. -/
def fractionDigits (c : Cursor) (positive : Bool) (m : Nat) (e : Int) (count : Nat) :
    Except JsonError (Json × Cursor) :=
  match _h : c.rest with
  | ch :: rest =>
    if ch.isDigit then
      let d := digitValue ch
      if overflows m d then fractionOverflow c positive m (e - count)
      else fractionDigits (c.step ch rest) positive (m * 10 + d) e (count + 1)
    else if count = 0 then c.failAhead .invalidNumber
    else finishFloat c positive m (e - count)
  | [] =>
    if count = 0 then c.failAhead .eofWhileParsingValue
    else finishFloat c positive m (e - count)
termination_by c.rest.length
decreasing_by simp [_h]

/-- Integer digits past a full significand: each raises the exponent by one. -/
def longInteger (c : Cursor) (positive : Bool) (m : Nat) (e : Int) :
    Except JsonError (Json × Cursor) :=
  match h : c.rest with
  | ch :: rest =>
    if ch.isDigit then longInteger (c.step ch rest) positive m (e + 1)
    else if ch = '.' then fractionDigits (c.step ch rest) positive m e 0
    else if ch = 'e' ∨ ch = 'E' then readExponent c positive m e
    else (floatOfParts c positive m e).map fun f => (.float f, c)
  | [] => (floatOfParts c positive m e).map fun f => (.float f, c)
termination_by c.rest.length
decreasing_by simp [h]

/-- After the integer digits: a fraction, an exponent, or the integer itself. -/
def afterInteger (c : Cursor) (positive : Bool) (m : Nat) : Except JsonError (Json × Cursor) :=
  match c.rest with
  | '.' :: rest => fractionDigits (c.step '.' rest) positive m 0 0
  | 'e' :: _ => readExponent c positive m 0
  | 'E' :: _ => readExponent c positive m 0
  | _ =>
    if positive then .ok (.int m, c)
    else if m = 0 ∨ m > 9223372036854775808 then .ok (.float (-(Float.ofNat m)), c)
    else .ok (.int (-(m : Int)), c)

/-- Integer digits after the first one. -/
def integerDigits (c : Cursor) (positive : Bool) (m : Nat) : Except JsonError (Json × Cursor) :=
  match h : c.rest with
  | ch :: rest =>
    if ch.isDigit then
      let d := digitValue ch
      if overflows m d then longInteger c positive m 0
      else integerDigits (c.step ch rest) positive (m * 10 + d)
    else afterInteger c positive m
  | [] => afterInteger c positive m
termination_by c.rest.length
decreasing_by simp [h]

/-- A number, after its sign. -/
def readNumber (c : Cursor) (positive : Bool) : Except JsonError (Json × Cursor) :=
  match c.next? with
  | none => c.fail .eofWhileParsingValue
  | some (ch, c') =>
    if ch = '0' then
      match c'.peek? with
      | some d => if d.isDigit then c'.failAhead .invalidNumber else afterInteger c' positive 0
      | none => afterInteger c' positive 0
    else if ch.isDigit then integerDigits c' positive (digitValue ch)
    else c'.fail .invalidNumber

/-- The value of a hex digit. -/
def hexValue? (ch : Char) : Option Nat :=
  if ch.isDigit then some (ch.toNat - 48)
  else if 'a' ≤ ch ∧ ch ≤ 'f' then some (ch.toNat - 87)
  else if 'A' ≤ ch ∧ ch ≤ 'F' then some (ch.toNat - 55)
  else none

/-- Four hex digits of a `\u` escape. -/
def readHex4 (c : Cursor) : Except JsonError (Nat × Cursor) :=
  match c.rest with
  | a :: b :: d :: e :: rest =>
    let c' := ((((c.step a (b :: d :: e :: rest)).step b (d :: e :: rest)).step d (e :: rest)).step e rest)
    match hexValue? a, hexValue? b, hexValue? d, hexValue? e with
    | some w, some x, some y, some z => .ok (((w * 16 + x) * 16 + y) * 16 + z, c')
    | _, _, _, _ => c'.fail .invalidEscape
  | _ => { c with rest := [], column := c.column + c.rest.length }.fail .eofWhileParsingString

/-- The character of a `\u` escape, reading a second escape after a leading surrogate. -/
def unicodeEscape (c : Cursor) : Except JsonError (Char × Cursor) := do
  let (n, c) ← readHex4 c
  if 0xD800 ≤ n ∧ n < 0xDC00 then
    match c.rest with
    | '\\' :: 'u' :: rest =>
      let c := (c.step '\\' ('u' :: rest)).step 'u' rest
      let (lo, c) ← readHex4 c
      if 0xDC00 ≤ lo ∧ lo < 0xE000 then
        .ok (Char.ofNat (0x10000 + (n - 0xD800) * 0x400 + (lo - 0xDC00)), c)
      else c.fail .loneLeadingSurrogateInHexEscape
    | _ => c.fail .unexpectedEndOfHexEscape
  else if 0xDC00 ≤ n ∧ n < 0xE000 then c.fail .loneLeadingSurrogateInHexEscape
  else .ok (Char.ofNat n, c)

/-- The character of a one-letter escape such as `\n`. -/
def simpleEscape? (e : Char) : Option Char :=
  if e = '"' then some '"' else if e = '\\' then some '\\' else if e = '/' then some '/'
  else if e = 'b' then some (Char.ofNat 8) else if e = 'f' then some (Char.ofNat 12)
  else if e = 'n' then some '\n' else if e = 'r' then some '\r'
  else if e = 't' then some '\t' else none

/-- The rest of a string after its opening quote. -/
def readString (c : Cursor) (acc : List Char) : Except JsonError (String × Cursor) :=
  match _h : c.rest with
  | [] => c.fail .eofWhileParsingString
  | '"' :: rest => .ok (String.ofList acc.reverse, c.step '"' rest)
  | ['\\'] => (c.step '\\' []).fail .eofWhileParsingString
  | '\\' :: e :: rest =>
    let c' := (c.step '\\' (e :: rest)).step e rest
    match simpleEscape? e with
    | some s => readString c' (s :: acc)
    | none =>
      if e = 'u' then
        match unicodeEscape c' with
        | .ok (u, c'') =>
          if c''.rest.length < c.rest.length then readString c'' (u :: acc)
          else c''.fail .unexpectedEndOfHexEscape
        | .error err => .error err
      else c'.fail .invalidEscape
  | ch :: rest =>
    if ch.toNat < 32 then (c.step ch rest).fail .controlCharacterWhileParsingString
    else readString (c.step ch rest) (ch :: acc)
termination_by c.rest.length
decreasing_by all_goals (simp_all; try omega)

/-- Read the letters of `null`, `true` or `false` after the first one. -/
def readWord (c : Cursor) : List Char → Except JsonError Cursor
  | [] => .ok c
  | w :: ws =>
    match c.next? with
    | none => c.fail .eofWhileParsingValue
    | some (ch, c') => if ch = w then readWord c' ws else c'.fail .expectedSomeIdent

mutual

/-- One value, after blanks. `fuel` bounds the nesting work and is never the limit that stops a
well-formed text. -/
def readValue (fuel : Nat) (c : Cursor) : Except JsonError (Json × Cursor) :=
  match fuel with
  | 0 => c.fail .recursionLimitExceeded
  | fuel + 1 =>
    let c := skipBlanks c
    match c.rest with
    | [] => c.failAhead .eofWhileParsingValue
    | ch :: rest =>
      let c' := c.step ch rest
      if ch = 'n' then (readWord c' ['u', 'l', 'l']).map fun c => (.null, c)
      else if ch = 't' then (readWord c' ['r', 'u', 'e']).map fun c => (.bool true, c)
      else if ch = 'f' then (readWord c' ['a', 'l', 's', 'e']).map fun c => (.bool false, c)
      else if ch = '-' then readNumber c' false
      else if ch.isDigit then readNumber c true
      else if ch = '"' then (readString c' []).map fun (s, c) => (.str s, c)
      else if ch = '[' then
        if c.depth ≤ 1 then c.failAhead .recursionLimitExceeded
        else
          match readItems fuel { c' with depth := c.depth - 1 } true [] with
          | .ok (items, c) => .ok (.arr items, { c with depth := c.depth + 1 })
          | .error e => .error e
      else if ch = '{' then
        if c.depth ≤ 1 then c.failAhead .recursionLimitExceeded
        else
          match readFields fuel { c' with depth := c.depth - 1 } true [] with
          | .ok (fields, c) => .ok (.obj fields, { c with depth := c.depth + 1 })
          | .error e => .error e
      else c.failAhead .expectedSomeValue

/-- Array items up to and including the closing bracket; `acc` holds the items read, last first. -/
def readItems (fuel : Nat) (c : Cursor) (first : Bool) (acc : List Json) :
    Except JsonError (List Json × Cursor) :=
  match fuel with
  | 0 => c.fail .recursionLimitExceeded
  | fuel + 1 =>
    let c := skipBlanks c
    match c.rest with
    | [] => c.failAhead .eofWhileParsingList
    | ']' :: rest => .ok (acc.reverse, c.step ']' rest)
    | ch :: rest =>
      let start : Except JsonError Cursor :=
        if ch = ',' ∧ !first then
          let c := skipBlanks (c.step ',' rest)
          match c.rest with
          | ']' :: _ => c.failAhead .trailingComma
          | [] => c.failAhead .eofWhileParsingValue
          | _ => .ok c
        else if first then .ok c
        else c.failAhead .expectedListCommaOrEnd
      match start with
      | .error e => .error e
      | .ok c =>
        match readValue fuel c with
        | .ok (v, c) => readItems fuel c false (v :: acc)
        | .error e => .error e

/-- Object fields up to and including the closing brace; later duplicates replace earlier ones. -/
def readFields (fuel : Nat) (c : Cursor) (first : Bool) (acc : List (String × Json)) :
    Except JsonError (List (String × Json) × Cursor) :=
  match fuel with
  | 0 => c.fail .recursionLimitExceeded
  | fuel + 1 =>
    let c := skipBlanks c
    match c.rest with
    | [] => c.failAhead .eofWhileParsingObject
    | '}' :: rest => .ok (acc, c.step '}' rest)
    | ch :: rest =>
      let start : Except JsonError Cursor :=
        if ch = ',' ∧ !first then
          let c := skipBlanks (c.step ',' rest)
          match c.rest with
          | '}' :: _ => c.failAhead .trailingComma
          | '"' :: _ => .ok c
          | [] => c.failAhead .eofWhileParsingValue
          | _ => c.failAhead .keyMustBeAString
        else if first then
          if ch = '"' then .ok c else c.failAhead .keyMustBeAString
        else c.failAhead .expectedObjectCommaOrEnd
      match start with
      | .error e => .error e
      | .ok c =>
        match c.rest with
        | '"' :: rest =>
          match readString (c.step '"' rest) [] with
          | .error e => .error e
          | .ok (key, c) =>
            let c := skipBlanks c
            match c.rest with
            | ':' :: rest =>
              match readValue fuel (c.step ':' rest) with
              | .ok (v, c) => readFields fuel c false (insertField key v acc)
              | .error e => .error e
            | [] => c.failAhead .eofWhileParsingObject
            | _ => c.failAhead .expectedColon
        | _ => c.failAhead .keyMustBeAString

end

/-- Read a JSON text: one value, then only blanks. -/
def parse (s : String) : Except JsonError Json :=
  let chars := s.toList
  let c : Cursor := ⟨chars, 1, 0, 128⟩
  match readValue (2 * chars.length + 2) c with
  | .error e => .error e
  | .ok (v, c) =>
    let c := skipBlanks c
    match c.rest with
    | [] => .ok v
    | _ => c.failAhead .trailingCharacters

end Json

end EntitySql
