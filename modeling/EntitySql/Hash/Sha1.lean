/-!
# SHA-1

The SHA-1 digest of a byte string (FIPS 180-4). The message is padded with `0x80`, zeros and its
bit length as a big-endian 64-bit number to a multiple of 64 bytes; each block of sixteen words
is expanded to eighty and mixed into the five-word state. Arithmetic on words wraps modulo
`2^32`, as the standard defines it.
-/

namespace EntitySql

namespace Sha1

def rotl (x : UInt32) (n : UInt32) : UInt32 := (x <<< n) ||| (x >>> (32 - n))

def word (a b c d : UInt8) : UInt32 :=
  (a.toUInt32 <<< 24) ||| (b.toUInt32 <<< 16) ||| (c.toUInt32 <<< 8) ||| d.toUInt32

def blockWords : List UInt8 → List UInt32
  | a :: b :: c :: d :: rest => word a b c d :: blockWords rest
  | _ => []

/-- The eighty words of the message schedule. -/
def schedule (ws : List UInt32) : Array UInt32 :=
  (List.range 64).foldl (fun (w : Array UInt32) _ =>
    let t := w.size
    w.push (rotl (w.getD (t - 3) 0 ^^^ w.getD (t - 8) 0 ^^^ w.getD (t - 14) 0 ^^^ w.getD (t - 16) 0) 1)) ws.toArray

/-- The state after one block. -/
def compress (h : UInt32 × UInt32 × UInt32 × UInt32 × UInt32) (block : List UInt8) :
    UInt32 × UInt32 × UInt32 × UInt32 × UInt32 :=
  let w := schedule (blockWords block)
  let (h0, h1, h2, h3, h4) := h
  let (a, b, c, d, e) := (List.range 80).foldl (fun (s : UInt32 × UInt32 × UInt32 × UInt32 × UInt32) t =>
    let (a, b, c, d, e) := s
    let (f, k) :=
      if t < 20 then ((b &&& c) ||| ((~~~ b) &&& d), (0x5A827999 : UInt32))
      else if t < 40 then (b ^^^ c ^^^ d, (0x6ED9EBA1 : UInt32))
      else if t < 60 then ((b &&& c) ||| (b &&& d) ||| (c &&& d), (0x8F1BBCDC : UInt32))
      else (b ^^^ c ^^^ d, (0xCA62C1D6 : UInt32))
    let temp := rotl a 5 + f + e + k + w.getD t 0
    (temp, a, rotl b 30, c, d)) (h0, h1, h2, h3, h4)
  (h0 + a, h1 + b, h2 + c, h3 + d, h4 + e)

/-- The message padded to whole blocks. -/
def pad (msg : List UInt8) : List UInt8 :=
  let len := msg.length
  let zeros := (119 - len % 64) % 64
  let bits := len * 8
  msg ++ [0x80] ++ List.replicate zeros 0 ++
    (List.range 8).reverse.map fun i => ((bits / Nat.pow 2 (8 * i)) % 256).toUInt8

/-- Split into 64-byte blocks. -/
def blocks (bs : List UInt8) : List (List UInt8) :=
  let rec go (fuel : Nat) (bs : List UInt8) : List (List UInt8) :=
    match fuel with
    | 0 => []
    | fuel + 1 => if bs.isEmpty then [] else bs.take 64 :: go fuel (bs.drop 64)
  go (bs.length / 64 + 1) bs

def wordBytes (x : UInt32) : List UInt8 :=
  [(x >>> 24).toUInt8, (x >>> 16).toUInt8, (x >>> 8).toUInt8, x.toUInt8]

/-- The 20-byte digest of a message. -/
def digest (msg : List UInt8) : List UInt8 :=
  let init : UInt32 × UInt32 × UInt32 × UInt32 × UInt32 :=
    (0x67452301, 0xEFCDAB89, 0x98BADCFE, 0x10325476, 0xC3D2E1F0)
  let (h0, h1, h2, h3, h4) := (blocks (pad msg)).foldl compress init
  wordBytes h0 ++ wordBytes h1 ++ wordBytes h2 ++ wordBytes h3 ++ wordBytes h4

end Sha1

end EntitySql
