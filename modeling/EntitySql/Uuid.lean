import EntitySql.Hash.Sha1

/-!
# UUIDs

A UUID is sixteen bytes. It is written in lower-case hex, hyphenated as 8-4-4-4-12 digits, or
plain as 32 digits. `Uuid.parse` reads the plain form, the hyphenated form, the hyphenated form in
braces, and the hyphenated form after `urn:uuid:`, with hex digits of either case. A text of any
other shape is refused with the first fault found: a character that is no hex digit or hyphen, a
plain form of the wrong length, a wrong number of groups, or a group of the wrong length.

`Uuid.v5` is the name-based UUID of RFC 4122: the SHA-1 digest of the namespace bytes and the name,
cut to sixteen bytes, with version 5 and the RFC variant set.
-/

namespace EntitySql

/-- Sixteen bytes. -/
structure Uuid where
  bytes : List UInt8
  deriving DecidableEq, Repr, Inhabited

namespace Uuid

def byteHex (b : UInt8) : String :=
  let d (n : Nat) : Char := if n < 10 then Char.ofNat (48 + n) else Char.ofNat (87 + n)
  String.ofList [d (b.toNat / 16), d (b.toNat % 16)]

def simple (u : Uuid) : String := String.join (u.bytes.map byteHex)

def hyphenated (u : Uuid) : String :=
  let h := fun (i n : Nat) => String.join ((u.bytes.drop i).take n |>.map byteHex)
  h 0 4 ++ "-" ++ h 4 2 ++ "-" ++ h 6 2 ++ "-" ++ h 8 2 ++ "-" ++ h 10 6

def ofBytes? (bs : List UInt8) : Option Uuid :=
  if bs.length = 16 then some ⟨bs⟩ else none

/-- The value of a hex digit. -/
def hexValue? (c : Char) : Option Nat :=
  if c.isDigit then some (c.toNat - 48)
  else if 'a' ≤ c ∧ c ≤ 'f' then some (c.toNat - 87)
  else if 'A' ≤ c ∧ c ≤ 'F' then some (c.toNat - 55)
  else none

/-- Bytes from an even number of hex digits. -/
def hexBytes? : List Char → Option (List UInt8)
  | [] => some []
  | a :: b :: rest =>
    match hexValue? a, hexValue? b with
    | some x, some y => (hexBytes? rest).map fun r => (x * 16 + y).toUInt8 :: r
    | _, _ => none
  | [_] => none

/-- The fault of a text that is no UUID, found as the reader reports it. -/
def parseFault (cs : List Char) : String :=
  let (inner, offset, plain) : List Char × Nat × Bool :=
    if cs.head? = some '{' ∧ cs.getLast? = some '}' ∧ cs.length ≥ 2 then
      ((cs.drop 1).dropLast, 1, false)
    else if cs.take 9 = "urn:uuid:".toList then (cs.drop 9, 9, false)
    else (cs, 0, true)
  let positions := (List.range inner.length).zip inner
  let byteIndex (i : Nat) : Nat := ((inner.take i).map fun c => String.utf8ByteSize (String.singleton c)).foldr (· + ·) 0
  let bad := positions.find? fun (_, c) => c.toNat ≥ 128 ∨ (c ≠ '-' ∧ (hexValue? c).isNone)
  match bad with
  | some (i, c) =>
    "invalid character: expected an optional prefix of `urn:uuid:` followed by [0-9a-fA-F-], found `" ++
      String.singleton c ++ "` at " ++ toString (byteIndex i + offset + 1)
  | none =>
    let hyphens := positions.filter fun (_, c) => c = '-'
    if hyphens.isEmpty ∧ plain then
      "invalid length: expected length 32 for simple format, found " ++
        toString (String.utf8ByteSize (String.ofList cs))
    else if hyphens.length ≠ 4 then
      "invalid group count: expected 5, found " ++ toString (hyphens.length + 1)
    else
      let starts := [0, 9, 14, 19, 24]
      let expected := [8, 4, 4, 4, 12]
      let bounds := hyphens.map Prod.fst
      let wrong := (List.range 4).find? fun i => bounds.getD i 0 ≠ starts.getD (i + 1) 0 - 1
      match wrong with
      | some i =>
        "invalid group length in group " ++ toString i ++ ": expected " ++ toString (expected.getD i 0) ++
          ", found " ++ toString (bounds.getD i 0 - starts.getD i 0)
      | none =>
        "invalid group length in group 4: expected 12, found " ++ toString (cs.length - 24)

/-- Read the hyphenated form of exactly 36 characters. -/
def hyphenatedBytes? (cs : List Char) : Option (List UInt8) :=
  if cs.length = 36 ∧ cs[8]? = some '-' ∧ cs[13]? = some '-' ∧ cs[18]? = some '-' ∧ cs[23]? = some '-' then
    hexBytes? (cs.filter (· ≠ '-')) |>.bind fun bs => if bs.length = 16 then some bs else none
  else none

/-- Read a UUID in any of its written forms. -/
def parse (s : String) : Except String Uuid :=
  let cs := s.toList
  let n := String.utf8ByteSize s
  if n = 32 then
    match hexBytes? cs with
    | some bs => if bs.length = 16 then .ok ⟨bs⟩ else .error (parseFault cs)
    | none => .error (parseFault cs)
  else
    let inner : Option (List Char) :=
      if n = 36 then some cs
      else if n = 38 ∧ cs.head? = some '{' ∧ cs.getLast? = some '}' then some ((cs.drop 1).dropLast)
      else if n = 45 ∧ cs.take 9 = "urn:uuid:".toList then some (cs.drop 9)
      else none
    match inner with
    | some body =>
      match hyphenatedBytes? body with
      | some bs => .ok ⟨bs⟩
      | none => .error (parseFault body)
    | none => .error (parseFault cs)

def namespaceOid : Uuid :=
  ⟨[0x6b, 0xa7, 0xb8, 0x12, 0x9d, 0xad, 0x11, 0xd1, 0x80, 0xb4, 0x00, 0xc0, 0x4f, 0xd4, 0x30, 0xc8]⟩

/-- The name-based UUID (version 5) of a name in a namespace. -/
def v5 (ns : Uuid) (name : List UInt8) : Uuid :=
  let h := (Sha1.digest (ns.bytes ++ name)).take 16
  let set (i : Nat) (f : UInt8 → UInt8) (bs : List UInt8) : List UInt8 :=
    bs.set i (f (bs.getD i 0))
  ⟨h |> set 6 (fun b => (b &&& 0x0f) ||| 0x50) |> set 8 (fun b => (b &&& 0x3f) ||| 0x80)⟩

end Uuid

end EntitySql
