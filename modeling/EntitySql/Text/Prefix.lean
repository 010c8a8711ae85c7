/-!
# Byte-bounded prefixes

Names and log texts are limited in bytes of UTF-8, and a cut never splits a character.
-/

namespace EntitySql

/-- The longest prefix of a text whose UTF-8 form has at most `n` bytes. -/
def utf8Prefix (s : String) (n : Nat) : String :=
  let step := fun (acc : List Char × Nat × Bool) (c : Char) =>
    let (kept, used, open_) := acc
    if open_ ∧ used + c.utf8Size ≤ n then (c :: kept, used + c.utf8Size, true)
    else (kept, used, false)
  String.ofList (s.toList.foldl step ([], 0, true)).1.reverse

end EntitySql
