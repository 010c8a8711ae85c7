import EntitySql.Postgres.Encode
import Mathlib

/-!
# Reading the binary forms back

The binary forms of parameters are made of three kinds of bytes: a number over a fixed width,
most significant byte first; a signed number in two's complement over such a width; and text in
UTF-8. Here each has its reader, and each reader gives back what was written: `ofBigEndian`
gives the number modulo the width (`ofBigEndian_bigEndian`), `ofTwosComplement` gives every
number of the signed range (`ofTwosComplement_twosComplement`), and decoding the UTF-8 bytes of
a text gives the text (`fromUTF8?_toUTF8`). A text of ASCII characters is one byte a character,
its code (`toUTF8_toList_of_ascii`).
-/

namespace EntitySql

def ofBigEndian (bs : List UInt8) : Nat := bs.foldl (fun acc b => acc * 256 + b.toNat) 0

def ofTwosComplement (bs : List UInt8) : Int := (ofBigEndian bs : Int).bmod (256 ^ bs.length)

theorem foldl_bytes_acc (bs : List UInt8) (acc : Nat) :
    bs.foldl (fun acc b => acc * 256 + b.toNat) acc = acc * 256 ^ bs.length + ofBigEndian bs := by
  induction bs generalizing acc with
  | nil => simp [ofBigEndian]
  | cons b bs ih =>
    simp only [List.foldl_cons, ofBigEndian]
    rw [ih, ih (0 * 256 + b.toNat), List.length_cons, pow_succ]
    ring

theorem ofBigEndian_cons (b : UInt8) (bs : List UInt8) :
    ofBigEndian (b :: bs) = b.toNat * 256 ^ bs.length + ofBigEndian bs := by
  rw [ofBigEndian, List.foldl_cons, foldl_bytes_acc]
  simp

theorem bigEndian_succ (w n : Nat) :
    bigEndian (w + 1) n = (n / 256 ^ w % 256).toUInt8 :: bigEndian w n := by
  simp [bigEndian, List.range_succ, Nat.pow_eq]

theorem ofBigEndian_bigEndian (w n : Nat) : ofBigEndian (bigEndian w n) = n % 256 ^ w := by
  induction w with
  | zero => simp [bigEndian, ofBigEndian, Nat.mod_one]
  | succ w ih =>
    rw [bigEndian_succ, ofBigEndian_cons, bigEndian_length, ih, Nat.mod_pow_succ]
    simp [Nat.toUInt8]
    ring

theorem ofTwosComplement_twosComplement (w : Nat) {n : Int}
    (h1 : -((256 ^ w : Nat) : Int) ≤ 2 * n) (h2 : 2 * n < ((256 ^ w : Nat) : Int)) :
    ofTwosComplement (twosComplement w n) = n := by
  have hpos : (0 : Int) < ((256 ^ w : Nat) : Int) := by positivity
  rw [ofTwosComplement, twosComplement, ofBigEndian_bigEndian, bigEndian_length, Nat.pow_eq]
  have hmod : 0 ≤ n % ((256 ^ w : Nat) : Int) := Int.emod_nonneg _ (by omega)
  have hlt : n % ((256 ^ w : Nat) : Int) < ((256 ^ w : Nat) : Int) := Int.emod_lt_of_pos _ hpos
  rw [Nat.mod_eq_of_lt (by omega), Int.toNat_of_nonneg hmod, Int.emod_bmod]
  exact Int.bmod_eq_of_le (by omega) (by omega)

theorem ByteArray.toList_loop (a : ByteArray) (i : Nat) (r : List UInt8) :
    ByteArray.toList.loop a i r = r.reverse ++ a.data.toList.drop i := by
  fun_induction ByteArray.toList.loop a i r with
  | case1 i r hi ih =>
    have hlen : i < a.data.toList.length := by simpa using hi
    rw [ih, List.drop_eq_getElem_cons hlen]
    simp [ByteArray.get!, getElem!_pos a.data i (by simpa using hi)]
  | case2 i r hi =>
    simp
    omega

theorem ByteArray.toList_eq (a : ByteArray) : a.toList = a.data.toList := by
  simp [ByteArray.toList, ByteArray.toList_loop]

theorem toByteArray_toList (a : ByteArray) : a.toList.toByteArray = a := by
  apply ByteArray.ext
  apply Array.toList_inj.mp
  rw [List.toList_data_toByteArray, ByteArray.toList_eq]

theorem fromUTF8?_toUTF8 (s : String) :
    String.fromUTF8? s.toUTF8.toList.toByteArray = some s := by
  rw [toByteArray_toList, String.fromUTF8?, dif_pos (by simpa using s.isValidUTF8)]
  rfl

/-! ## Texts of ASCII characters -/

theorem toUTF8_toList (s : String) : s.toUTF8.toList = s.toList.flatMap String.utf8EncodeChar := by
  obtain ⟨l, rfl⟩ := s.exists_eq_ofList
  rw [String.toUTF8_eq_toByteArray, String.toByteArray_ofList, ByteArray.toList_eq,
    List.utf8Encode, List.toList_data_toByteArray, String.toList_ofList]

theorem utf8Size_eq_one_of_ascii {c : Char} (h : c.toNat < 128) : c.utf8Size = 1 := by
  have hval : c.toNat = c.val.toNat := rfl
  rw [Char.utf8Size_eq_one_iff, UInt32.le_iff_toNat_le]
  exact Nat.le_of_lt_succ (hval ▸ h)

theorem flatMap_utf8EncodeChar_of_ascii {cs : List Char} (h : ∀ c ∈ cs, c.toNat < 128) :
    cs.flatMap String.utf8EncodeChar = cs.map Char.toUInt8 := by
  induction cs with
  | nil => rfl
  | cons c cs ih =>
    rw [List.flatMap_cons, String.utf8EncodeChar_eq_singleton (utf8Size_eq_one_of_ascii
      (h c (by simp))), List.map_cons, ih (fun d hd => h d (by simp [hd]))]
    rfl

theorem toUTF8_toList_of_ascii {s : String} (h : ∀ c ∈ s.toList, c.toNat < 128) :
    s.toUTF8.toList = s.toList.map Char.toUInt8 := by
  rw [toUTF8_toList, flatMap_utf8EncodeChar_of_ascii h]

end EntitySql
