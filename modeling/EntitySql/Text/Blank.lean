/-!
# Blank characters

`Text.isBlank` is the Unicode property White_Space: the ASCII blanks (tab, line feed, vertical
tab, form feed, carriage return, space), next line, no-break space, the ogham space mark, the
spaces from en quad to hair space, the line and paragraph separators, the narrow no-break space,
the medium mathematical space and the ideographic space. Connection strings separate their
settings by such characters.

Every character that core's `Char.isWhitespace` accepts is blank (`isBlank_of_isWhitespace`), and
no decimal digit is.
-/

namespace EntitySql

namespace Text

/-- Whether a character has the Unicode property White_Space. -/
def isBlank (c : Char) : Bool :=
  let n := c.toNat
  (9 ≤ n && n ≤ 13) || n == 32 || n == 0x85 || n == 0xA0 || n == 0x1680 ||
    (0x2000 ≤ n && n ≤ 0x200A) || n == 0x2028 || n == 0x2029 || n == 0x202F || n == 0x205F ||
    n == 0x3000

theorem isBlank_of_isWhitespace (c : Char) (h : c.isWhitespace = true) : isBlank c = true := by
  simp only [Char.isWhitespace, Bool.or_eq_true, decide_eq_true_eq] at h
  have hv : ∀ d : Char, c = d → c.toNat = d.toNat := fun d e => by rw [e]
  rcases h with ((h | h) | h) | h <;> simp [isBlank, hv _ h]

theorem not_isWhitespace_of_isDigit {c : Char} (hc : c.isDigit = true) : c.isWhitespace = false := by
  cases hw : c.isWhitespace with
  | false => rfl
  | true =>
    simp only [Char.isWhitespace, Bool.or_eq_true, decide_eq_true_eq] at hw
    rcases hw with ((h | h) | h) | h <;> subst h <;> simp at hc

example : isBlank ' ' = true ∧ isBlank '　' = true ∧ isBlank 'a' = false := by decide

end Text

end EntitySql
