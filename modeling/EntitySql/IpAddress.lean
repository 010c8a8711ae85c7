/-!
# IP addresses

`IpAddress.read?` reads an IPv4 or IPv6 address written in full, with nothing before or after it.

* IPv4 is four decimal octets separated by dots: one to three digits each, at most 255, and no
  leading zero in an octet of more than one digit.
* IPv6 is eight groups of one to four hex digits (either case) separated by colons. One `::`
  may stand for one or more zero groups, and the last two groups may be written as an IPv4
  address, but not before a `::`.

A text that reads as an IPv4 address up to some leftover is no address: the IPv6 form is tried
only when no IPv4 address starts the text.
-/

namespace EntitySql

/-- An IP address: four octets, or eight groups of sixteen bits. -/
inductive IpAddress where
  | v4 (octets : List Nat)
  | v6 (groups : List Nat)
  deriving DecidableEq, Repr

namespace IpAddress

/-- The value of a digit in base 10 or 16. -/
def digitValue (radix : Nat) (c : Char) : Option Nat :=
  if c.isDigit then some (c.toNat - 48)
  else if radix = 16 ∧ 'a' ≤ c ∧ c ≤ 'f' then some (c.toNat - 87)
  else if radix = 16 ∧ 'A' ≤ c ∧ c ≤ 'F' then some (c.toNat - 55)
  else none

/-- A number of at most `maxDigits` digits and at most `bound`; a leading zero is refused in a
number of several digits unless `zeroPrefix`. -/
def readNumber (radix maxDigits bound : Nat) (zeroPrefix : Bool) (cs : List Char) :
    Option (Nat × List Char) :=
  let isDigit := fun c => (digitValue radix c).isSome
  let digits := cs.takeWhile isDigit
  let value := digits.foldl (fun acc c => acc * radix + (digitValue radix c).getD 0) 0
  if digits.isEmpty ∨ maxDigits < digits.length then none
  else if !zeroPrefix ∧ digits.head? = some '0' ∧ 1 < digits.length then none
  else if bound < value then none
  else some (value, cs.dropWhile isDigit)

def after (c : Char) : List Char → Option (List Char)
  | d :: rest => if d = c then some rest else none
  | [] => none

def octet (cs : List Char) : Option (Nat × List Char) := readNumber 10 3 255 false cs

/-- An IPv4 address at the start of the text. -/
def readV4 (cs : List Char) : Option (List Nat × List Char) := do
  let (a, cs) ← octet cs
  let (b, cs) ← octet (← after '.' cs)
  let (c, cs) ← octet (← after '.' cs)
  let (d, cs) ← octet (← after '.' cs)
  pure ([a, b, c, d], cs)

/-- Up to the given number of colon-separated groups (the first without a colon before it when
`first`), the last two of which may be an IPv4 address: the groups, whether that happened, and
the rest after the last group read. -/
def readGroups : Nat → Bool → List Char → List Nat × Bool × List Char
  | 0, _, cs => ([], false, cs)
  | n + 1, first, cs =>
    let start := if first then some cs else after ':' cs
    match (if 1 ≤ n then start.bind readV4 else none) with
    | some (os, rest) =>
      ([os.getD 0 0 * 256 + os.getD 1 0, os.getD 2 0 * 256 + os.getD 3 0], true, rest)
    | none =>
      match start.bind (readNumber 16 4 65535 true) with
      | some (g, rest) =>
        let (gs, embedded, rest) := readGroups n false rest
        (g :: gs, embedded, rest)
      | none => ([], false, cs)

/-- An IPv6 address at the start of the text. -/
def readV6 (cs : List Char) : Option (List Nat × List Char) :=
  let (head, headV4, rest) := readGroups 8 true cs
  if head.length = 8 then some (head, rest)
  else if headV4 then none
  else
    match rest with
    | ':' :: ':' :: rest =>
      let (tail, _, rest) := readGroups (8 - (head.length + 1)) true rest
      some (head ++ List.replicate (8 - head.length - tail.length) 0 ++ tail, rest)
    | _ => none

/-- The address a whole text writes. -/
def read? (s : String) : Option IpAddress :=
  let cs := s.toList
  match readV4 cs with
  | some (os, []) => some (.v4 os)
  | some _ => none
  | none =>
    match readV6 cs with
    | some (gs, []) => some (.v6 gs)
    | _ => none

example : read? "127.0.0.1" = some (.v4 [127, 0, 0, 1]) := by decide +kernel
example : read? "::1" = some (.v6 [0, 0, 0, 0, 0, 0, 0, 1]) := by decide +kernel
example : read? "01.2.3.4" = none := by decide +kernel

end IpAddress

end EntitySql
