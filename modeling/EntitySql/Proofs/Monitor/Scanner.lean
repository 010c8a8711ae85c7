import Mathlib
import EntitySql.Monitor.Statement
import EntitySql.Text.Blank
import EntitySql.Proofs.Postgres.Bytes

/-!
# Statement words, byte by byte

`StatementClass.words` reads the bare words of a statement character by character. The scanner
it stands for works on the statement's UTF-8 bytes: it keeps a byte position, tests the byte
there, moves the position by byte counts (the length of a comment, of a quoted run, of a word)
and cuts the text at byte positions. Cutting at a position inside a character, or past the end,
is an error of the program. `Scanner.scan` is that scanner, every cut checked (`Scanner.cut?`),
and this module shows:

* a cut succeeds exactly between two characters (`Scanner.cut?_eq_some_iff`);
* every turn of its loop moves the position forward (`Scanner.step_advances`), which is what
  ends the scan;
* on every text the scan cuts only between characters and reads the same words, at the same
  parenthesis depths, as `words` (`Scanner.scan_eq_words`);
* the kind of a statement does not change when blanks, a closed block comment or a line comment
  come before it (`ofSql_blank_append`, `ofSql_blockComment_append`,
  `ofSql_lineComment_append`).
-/

namespace EntitySql

namespace StatementClass

namespace Scanner

/-! ## Bytes of characters -/

def byteLen (cs : List Char) : Nat := (cs.map Char.utf8Size).sum

@[simp] theorem byteLen_nil : byteLen [] = 0 := rfl

@[simp] theorem byteLen_cons (c : Char) (cs : List Char) :
    byteLen (c :: cs) = c.utf8Size + byteLen cs := by
  simp [byteLen]

@[simp] theorem byteLen_append (cs ds : List Char) :
    byteLen (cs ++ ds) = byteLen cs + byteLen ds := by
  simp [byteLen]

/-- The text cut at byte `p`: the characters before it and those from it on; `none` when `p`
falls inside a character or past the end, where the program fails taking the slice. -/
def cut? : List Char → Nat → Option (List Char × List Char)
  | cs, 0 => some ([], cs)
  | [], _ + 1 => none
  | c :: cs, p + 1 =>
    if c.utf8Size ≤ p + 1 then (cut? cs (p + 1 - c.utf8Size)).map fun (l, r) => (c :: l, r)
    else none

theorem cut?_byteLen (pre cs : List Char) : cut? (pre ++ cs) (byteLen pre) = some (pre, cs) := by
  induction pre with
  | nil => simp [cut?]
  | cons c pre ih =>
    have hc := Char.utf8Size_pos c
    obtain ⟨q, hq⟩ : ∃ q, byteLen (c :: pre) = q + 1 := ⟨byteLen (c :: pre) - 1, by simp; omega⟩
    rw [List.cons_append, hq, cut?, if_pos (by simp at hq; omega)]
    have : q + 1 - c.utf8Size = byteLen pre := by simp at hq; omega
    simp [this, ih]

theorem cut?_eq_some {cs : List Char} {p : Nat} {l r : List Char}
    (h : cut? cs p = some (l, r)) : l ++ r = cs ∧ byteLen l = p := by
  induction cs, p using cut?.induct generalizing l r with
  | case1 cs =>
    simp only [cut?, Option.some.injEq, Prod.mk.injEq] at h
    simp [← h.1, ← h.2]
  | case2 p => simp [cut?] at h
  | case3 c cs p hle ih =>
    simp only [cut?, if_pos hle, Option.map_eq_some_iff, Prod.exists] at h
    obtain ⟨l', r', hcut, rfl, rfl⟩ := h
    obtain ⟨rfl, hlen⟩ := ih hcut
    simp only [List.cons_append, byteLen_cons, hlen, true_and]
    omega
  | case4 c cs p hlt => simp [cut?, hlt] at h

/-- A cut succeeds exactly between two characters: at the byte count of the characters before
it. -/
theorem cut?_eq_some_iff {cs : List Char} {p : Nat} {l r : List Char} :
    cut? cs p = some (l, r) ↔ l ++ r = cs ∧ byteLen l = p := by
  constructor
  · exact cut?_eq_some
  · rintro ⟨rfl, rfl⟩
    exact cut?_byteLen l r

/-! ## The first byte of a character

The scanner tests the byte at its position, not the character. A character below 128 is one
byte, its own code; every other character starts with a byte of 128 or more. So a test against an
ASCII byte is the same test on the character. -/

def firstByte (c : Char) : UInt8 := (String.utf8EncodeChar c).headD 0

theorem firstByte_toNat_of_lt {c : Char} (h : c.toNat < 128) : (firstByte c).toNat = c.toNat := by
  have hval : c.toNat = c.val.toNat := rfl
  simp only [firstByte, String.utf8EncodeChar_eq_singleton (utf8Size_eq_one_of_ascii h), List.headD_cons,
    UInt32.toNat_toUInt8]
  omega

theorem le_firstByte_toNat {c : Char} (h : 128 ≤ c.toNat) : 128 ≤ (firstByte c).toNat := by
  have hval : c.toNat = c.val.toNat := rfl
  have hone : c.utf8Size ≠ 1 := by
    rw [Ne, Char.utf8Size_eq_one_iff, UInt32.le_iff_toNat_le]
    have : (127 : UInt32).toNat = 127 := rfl
    omega
  have hle := Char.utf8Size_le_four c
  have hpos := Char.utf8Size_pos c
  obtain h2 | h3 | h4 : c.utf8Size = 2 ∨ c.utf8Size = 3 ∨ c.utf8Size = 4 := by omega
  · simp only [firstByte, String.utf8EncodeChar_eq_cons_cons h2, List.headD_cons, UInt8.toNat_or]
    exact le_trans (by decide) Nat.right_le_or
  · simp only [firstByte, String.utf8EncodeChar_eq_cons_cons_cons h3, List.headD_cons,
      UInt8.toNat_or]
    exact le_trans (by decide) Nat.right_le_or
  · simp only [firstByte, String.utf8EncodeChar_eq_cons_cons_cons_cons h4, List.headD_cons,
      UInt8.toNat_or]
    exact le_trans (by decide) Nat.right_le_or

theorem firstByte_eq_iff {c : Char} {b : UInt8} (hb : b.toNat < 128) :
    firstByte c = b ↔ c.toNat = b.toNat := by
  rw [← UInt8.toNat_inj]
  rcases Nat.lt_or_ge c.toNat 128 with h | h
  · rw [firstByte_toNat_of_lt h]
  · have := le_firstByte_toNat h
    omega

theorem firstByte_eq_firstByte {c d : Char} (hd : d.toNat < 128) :
    firstByte c = firstByte d ↔ c = d := by
  have hb := firstByte_toNat_of_lt hd
  rw [firstByte_eq_iff (hb ▸ hd), hb, Char.toNat_inj]

theorem isAlpha_iff (c : Char) :
    c.isAlpha = true ↔ (65 ≤ c.toNat ∧ c.toNat ≤ 90) ∨ (97 ≤ c.toNat ∧ c.toNat ≤ 122) := by
  have hval : c.toNat = c.val.toNat := rfl
  simp only [Char.isAlpha, Char.isUpper, Char.isLower, Bool.or_eq_true, Bool.and_eq_true,
    decide_eq_true_eq, UInt32.le_iff_toNat_le, ge_iff_le, hval]
  rfl

def isAsciiAlpha (b : UInt8) : Bool := (65 ≤ b && b ≤ 90) || (97 ≤ b && b ≤ 122)

def isAsciiDigit (b : UInt8) : Bool := 48 ≤ b && b ≤ 57

theorem isAsciiAlpha_firstByte (c : Char) : isAsciiAlpha (firstByte c) = c.isAlpha := by
  have hiff : isAsciiAlpha (firstByte c) = true ↔
      (65 ≤ (firstByte c).toNat ∧ (firstByte c).toNat ≤ 90) ∨
        (97 ≤ (firstByte c).toNat ∧ (firstByte c).toNat ≤ 122) := by
    simp only [isAsciiAlpha, Bool.or_eq_true, Bool.and_eq_true, decide_eq_true_eq,
      UInt8.le_iff_toNat_le]
    rfl
  rw [Bool.eq_iff_iff, hiff, isAlpha_iff]
  rcases Nat.lt_or_ge c.toNat 128 with h | h
  · rw [firstByte_toNat_of_lt h]
  · have := le_firstByte_toNat h
    omega

theorem isAsciiDigit_firstByte (c : Char) : isAsciiDigit (firstByte c) = c.isDigit := by
  have hiff : isAsciiDigit (firstByte c) = true ↔
      48 ≤ (firstByte c).toNat ∧ (firstByte c).toNat ≤ 57 := by
    simp only [isAsciiDigit, Bool.and_eq_true, decide_eq_true_eq, UInt8.le_iff_toNat_le]
    rfl
  rw [Bool.eq_iff_iff, hiff]
  simp only [Char.isDigit_iff_toNat, Char.reduceToNat]
  rcases Nat.lt_or_ge c.toNat 128 with h | h
  · rw [firstByte_toNat_of_lt h]
  · have := le_firstByte_toNat h
    omega

/-- The closing quote of an opening quote byte: `'`, `"`, a backquote, or `]` for `[`. -/
def closingQuote (b : UInt8) : Option Char :=
  if b = firstByte '\'' then some '\''
  else if b = firstByte '"' then some '"'
  else if b = firstByte '`' then some '`'
  else if b = firstByte '[' then some ']'
  else none

theorem closingQuote_firstByte (c : Char) : closingQuote (firstByte c) = closingQuote? c := by
  simp (disch := decide) only [closingQuote, closingQuote?, firstByte_eq_firstByte]

/-! ## Searches by byte index -/

def findChar (p : Char → Bool) : List Char → Option Nat
  | [] => none
  | c :: cs => if p c then some 0 else (findChar p cs).map (c.utf8Size + ·)

theorem findChar_getD (p : Char → Bool) (cs : List Char) :
    (findChar p cs).getD (byteLen cs) = byteLen (cs.takeWhile fun c => !p c) := by
  induction cs with
  | nil => rfl
  | cons c cs ih =>
    by_cases hc : p c
    · simp [findChar, hc]
    · cases h : findChar p cs <;> simp_all [findChar]

def findPair (a b : Char) : List Char → Option Nat
  | c :: d :: cs => if c = a ∧ d = b then some 0 else (findPair a b (d :: cs)).map (c.utf8Size + ·)
  | _ => none

theorem findPair_cons (a b c : Char) (cs : List Char) :
    findPair a b (c :: cs) =
      if c = a ∧ cs.head? = some b then some 0 else (findPair a b cs).map (c.utf8Size + ·) := by
  cases cs with
  | nil => simp [findPair]
  | cons d cs => simp [findPair]

theorem findPair_skipBlock (cs : List Char) :
    ∃ used, cs = used ++ skipBlock cs ∧
      ((findPair '*' '/' cs).map (· + 2)).getD (byteLen cs) = byteLen used := by
  fun_induction skipBlock cs with
  | case1 => exact ⟨[], rfl, rfl⟩
  | case2 rest => exact ⟨['*', '/'], rfl, by simp [findPair]; rfl⟩
  | case3 c rest hnot ih =>
    obtain ⟨used, hrest, hlen⟩ := ih
    refine ⟨c :: used, by simp [← hrest], ?_⟩
    have hhead : ¬(c = '*' ∧ rest.head? = some '/') := by
      rintro ⟨rfl, hd⟩
      obtain ⟨r, rfl⟩ : ∃ r, rest = '/' :: r := by
        cases rest with
        | nil => simp at hd
        | cons d r => simp at hd; exact ⟨r, by rw [hd]⟩
      exact hnot r rfl rfl
    rw [findPair_cons, if_neg hhead, byteLen_cons, byteLen_cons, ← hlen]
    cases findPair '*' '/' rest <;> simp; omega

/-- The bytes of a word at the start of a text: up to its first character that is not an ASCII
letter, digit or `_`. -/
def wordLen (text : List Char) : Nat := (findChar (fun c => !isWordChar c) text).getD (byteLen text)

theorem wordLen_eq (text : List Char) : wordLen text = byteLen (text.takeWhile isWordChar) := by
  simp [wordLen, findChar_getD]

/-- The end of a quoted run, reading its characters after the opening quote from byte `i` on:
just past the first closing quote that is not doubled, or `total` when there is none. -/
def quotedFrom (close : Char) (total : Nat) : Nat → List Char → Nat
  | _, [] => total
  | i, c :: cs =>
    if c = close then
      match cs with
      | c2 :: cs2 => if c2 = close then quotedFrom close total (i + c.utf8Size + c2.utf8Size) cs2
        else i + c.utf8Size
      | [] => i + c.utf8Size
    else quotedFrom close total (i + c.utf8Size) cs

theorem quotedFrom_cons_of_ne {close c : Char} (hc : c ≠ close) (total i : Nat) (cs : List Char) :
    quotedFrom close total i (c :: cs) = quotedFrom close total (i + c.utf8Size) cs := by
  cases cs <;> simp [quotedFrom, hc]

/-- The bytes of a quoted run at the start of a text, its opening quote included. -/
def quotedLen (text : List Char) (close : Char) : Nat :=
  match text with
  | [] => 0
  | q :: cs => quotedFrom close (byteLen text) q.utf8Size cs

theorem quotedFrom_skipQuoted (close : Char) (cs : List Char) (i : Nat) :
    ∃ used, cs = used ++ skipQuoted close cs ∧
      quotedFrom close (i + byteLen cs) i cs = i + byteLen used := by
  fun_induction skipQuoted close cs generalizing i with
  | case1 => exact ⟨[], rfl, rfl⟩
  | case2 rest2 ih =>
    obtain ⟨used, hrest, hlen⟩ := ih (i + close.utf8Size + close.utf8Size)
    refine ⟨close :: close :: used, by simp [← hrest], ?_⟩
    have htotal : i + byteLen (close :: close :: rest2) =
        i + close.utf8Size + close.utf8Size + byteLen rest2 := by
      simp; omega
    rw [htotal]
    simp only [quotedFrom, if_true]
    rw [hlen]
    simp only [byteLen_cons]
    omega
  | case3 c2 rest2 hc2 => exact ⟨[close], rfl, by simp [quotedFrom, hc2]⟩
  | case4 => exact ⟨[close], rfl, by simp [quotedFrom]⟩
  | case5 c rest hc ih =>
    obtain ⟨used, hrest, hlen⟩ := ih (i + c.utf8Size)
    refine ⟨c :: used, by simp [← hrest], ?_⟩
    have htotal : i + byteLen (c :: rest) = i + c.utf8Size + byteLen rest := by simp; omega
    rw [htotal, quotedFrom_cons_of_ne hc, hlen]
    simp only [byteLen_cons]
    omega

/-! ## One turn of the scanner -/

/-- One turn of the scanner at a position where the text left is `rest`: how many bytes it moves
forward, the parenthesis depth after it and the word it yields, if any. The tests are made on the
first byte, in the program's order; `none` when a slice it takes is not on a character boundary,
or when no text is left. -/
def advance (rest : List Char) (depth : Nat) : Option (Nat × Nat × Option (String × Nat)) :=
  match rest with
  | [] => none
  | c :: _ =>
    let byte := firstByte c
    if rest.take 2 = ['-', '-'] then
      some ((findChar (· = '\n') rest).getD (byteLen rest), depth, none)
    else if rest.take 2 = ['/', '*'] then do
      let (_, body) ← cut? rest 2
      some (((findPair '*' '/' body).map (· + 4)).getD (byteLen rest), depth, none)
    else
      match closingQuote byte with
      | some close => some (quotedLen rest close, depth, none)
      | none =>
        if byte = firstByte '(' then some (1, depth + 1, none)
        else if byte = firstByte ')' then some (1, depth - 1, none)
        else if isAsciiAlpha byte || byte = firstByte '_' then do
          let len := wordLen rest
          let (word, _) ← cut? rest len
          some (len, depth, some (String.ofList word, depth))
        else if isAsciiDigit byte || byte = firstByte '$' || byte = firstByte '@' ||
            byte = firstByte ':' || byte = firstByte '?' then do
          let (_, tail) ← cut? rest 1
          some (1 + wordLen tail, depth, none)
        else some (c.utf8Size, depth, none)

theorem take_two_ne {a b c : Char} {rest : List Char} (h : ∀ r, c = a → rest = b :: r → False) :
    ¬(c :: rest).take 2 = [a, b] := by
  cases rest with
  | nil => simp
  | cons d r =>
    simp only [List.take_succ_cons, List.take_zero, List.cons.injEq, and_true]
    rintro ⟨rfl, rfl⟩
    exact h r rfl rfl

theorem advance_reads (cs : List Char) (d : Nat) (hcs : cs ≠ []) :
    ∃ used rest d' w, cs = used ++ rest ∧ used ≠ [] ∧
      advance cs d = some (byteLen used, d', w) ∧ words cs d = w.toList ++ words rest d' := by
  fun_cases words cs d with
  | case1 => contradiction
  | case2 rest _ =>
    refine ⟨'-' :: '-' :: rest.takeWhile (· ≠ '\n'), skipLine rest, d, none,
      by simp [skipLine, List.takeWhile_append_dropWhile], by simp, ?_, by simp⟩
    simp only [advance, List.take_succ_cons, List.take_zero, if_true]
    rw [findChar_getD]
    simp
  | case3 rest _ =>
    obtain ⟨used, hrest, hlen⟩ := findPair_skipBlock rest
    refine ⟨'/' :: '*' :: used, skipBlock rest, d, none, by simp [← hrest], by simp, ?_, by simp⟩
    have hcut : cut? ('/' :: '*' :: rest) 2 = some (['/', '*'], rest) := cut?_byteLen ['/', '*'] rest
    simp (disch := decide) [advance, hcut, utf8Size_eq_one_of_ascii]
    cases h : findPair '*' '/' rest <;> simp only [h, Option.map_none, Option.map_some,
      Option.getD_none, Option.getD_some] at hlen ⊢ <;> omega
  | case4 c rest h1 h2 close hq _ =>
    obtain ⟨used, hrest, hlen⟩ := quotedFrom_skipQuoted close rest c.utf8Size
    refine ⟨c :: used, skipQuoted close rest, d, none, by simp [← hrest], by simp, ?_, by simp⟩
    simp only [advance, if_neg (take_two_ne h1), if_neg (take_two_ne h2), closingQuote_firstByte, hq,
      quotedLen, byteLen_cons, hlen]
  | case5 rest h1 h2 hq =>
    refine ⟨['('], rest, d + 1, none, rfl, by simp, ?_, rfl⟩
    simp (disch := decide) [advance, utf8Size_eq_one_of_ascii, closingQuote_firstByte, hq]
  | case6 rest h1 h2 hq hne =>
    refine ⟨[')'], rest, d - 1, none, rfl, by simp, ?_, rfl⟩
    simp (disch := decide) [advance, utf8Size_eq_one_of_ascii, closingQuote_firstByte, hq,
      firstByte_eq_firstByte]
  | case7 c rest h1 h2 hq hne1 hne2 halpha _ =>
    have hword : isWordChar c = true := by
      simp only [isWordChar, Char.isAlphanum, decide_eq_true_eq, Bool.or_eq_true]
      tauto
    have hsplit : c :: rest = (c :: rest.takeWhile isWordChar) ++ rest.dropWhile isWordChar := by
      simp
    refine ⟨c :: rest.takeWhile isWordChar, rest.dropWhile isWordChar, d,
      some (String.ofList (c :: rest.takeWhile isWordChar), d), hsplit, by simp, ?_, rfl⟩
    have hlen : wordLen (c :: rest) = byteLen (c :: rest.takeWhile isWordChar) := by
      rw [wordLen_eq, List.takeWhile_cons_of_pos hword]
    have hcut := cut?_byteLen (c :: rest.takeWhile isWordChar) (rest.dropWhile isWordChar)
    rw [← hsplit] at hcut
    simp (disch := decide) only [advance, if_neg (take_two_ne h1), if_neg (take_two_ne h2),
      closingQuote_firstByte, hq, firstByte_eq_firstByte, isAsciiAlpha_firstByte, hlen, hcut, hne1,
      hne2]
    simp [halpha]
  | case8 c rest h1 h2 hq hne1 hne2 hnalpha hdigit _ =>
    have hascii : c.toNat < 128 := by
      rcases hdigit with h | rfl | rfl | rfl | rfl
      · simp only [Char.isDigit_iff_toNat, Char.reduceToNat] at h
        omega
      all_goals decide
    have hone := utf8Size_eq_one_of_ascii hascii
    have hdig : (c.isDigit || decide (c = '$') || decide (c = '@') || decide (c = ':') ||
        decide (c = '?')) = true := by
      simpa [or_assoc] using hdigit
    have hcut : cut? (c :: rest) 1 = some ([c], rest) := by
      simpa [hone] using cut?_byteLen [c] rest
    refine ⟨c :: rest.takeWhile isWordChar, rest.dropWhile isWordChar, d, none, by simp, by simp,
      ?_, rfl⟩
    simp (disch := decide) only [advance, if_neg (take_two_ne h1), if_neg (take_two_ne h2),
      closingQuote_firstByte, hq, firstByte_eq_firstByte, isAsciiAlpha_firstByte,
      isAsciiDigit_firstByte, hcut, hne1, hne2, wordLen_eq]
    simp [hnalpha, hdig, hone]
  | case9 c rest h1 h2 hq hne1 hne2 hnalpha hndigit =>
    refine ⟨[c], rest, d, none, rfl, by simp, ?_, rfl⟩
    simp (disch := decide) only [advance, if_neg (take_two_ne h1), if_neg (take_two_ne h2),
      closingQuote_firstByte, hq, firstByte_eq_firstByte, isAsciiAlpha_firstByte,
      isAsciiDigit_firstByte, hne1, hne2]
    simp_all

theorem advance_pos {rest : List Char} {d len d' : Nat} {w : Option (String × Nat)}
    (h : advance rest d = some (len, d', w)) : 0 < len := by
  cases rest with
  | nil => simp [advance] at h
  | cons c cs =>
    obtain ⟨used, rest', d'', w', -, hne, hadv, -⟩ := advance_reads (c :: cs) d (by simp)
    rw [hadv, Option.some.injEq, Prod.mk.injEq] at h
    obtain ⟨u, us, rfl⟩ := List.exists_cons_of_ne_nil hne
    have := Char.utf8Size_pos u
    simp only [byteLen_cons] at h
    omega

/-! ## The loop -/

/-- One turn of the loop at byte `pos` of the text: the position, depth and word after it. -/
def step (cs : List Char) (pos depth : Nat) : Option (Nat × Nat × Option (String × Nat)) := do
  let (_, rest) ← cut? cs pos
  let (len, depth', word) ← advance rest depth
  pure (pos + len, depth', word)

theorem step_advances {cs : List Char} {pos depth next depth' : Nat} {word : Option (String × Nat)}
    (h : step cs pos depth = some (next, depth', word)) : pos < next := by
  simp only [step, Option.pure_def, Option.bind_eq_bind, Option.bind_eq_some_iff] at h
  obtain ⟨⟨_, rest⟩, -, ⟨len, d, w⟩, hadv, heq⟩ := h
  simp only [Option.some.injEq, Prod.mk.injEq] at heq
  have := advance_pos hadv
  omega

/-- The words the scanner yields from byte `pos` on, at parenthesis depth `depth`; `none` when a
slice it takes is not on a character boundary. The loop ends because every turn moves the
position forward. -/
def scan (cs : List Char) (pos depth : Nat) : Option (List (String × Nat)) :=
  if pos < byteLen cs then
    match hstep : step cs pos depth with
    | none => none
    | some (next, depth', word) =>
      have := step_advances hstep
      (scan cs next depth').map (word.toList ++ ·)
  else some []
termination_by byteLen cs - pos
decreasing_by omega

theorem scan_of_step {cs : List Char} {pos d next d' : Nat} {w : Option (String × Nat)}
    (hlt : pos < byteLen cs) (h : step cs pos d = some (next, d', w)) :
    scan cs pos d = (scan cs next d').map (w.toList ++ ·) := by
  rw [scan, if_pos hlt]
  split
  · simp_all
  · rename_i heq
    rw [h, Option.some.injEq, Prod.mk.injEq, Prod.mk.injEq] at heq
    obtain ⟨rfl, rfl, rfl⟩ := heq
    rfl

theorem scan_append (pre cs : List Char) (d : Nat) :
    scan (pre ++ cs) (byteLen pre) d = some (words cs d) := by
  induction hn : cs.length using Nat.strong_induction_on generalizing pre cs d with
  | _ n ih =>
    cases cs with
    | nil =>
      rw [scan, if_neg (by simp)]
      simp [words]
    | cons c rest =>
      obtain ⟨used, rest', d', w, hsplit, hne, hadv, hwords⟩ :=
        advance_reads (c :: rest) d (by simp)
      have hstep : step (pre ++ c :: rest) (byteLen pre) d =
          some (byteLen pre + byteLen used, d', w) := by
        simp [step, cut?_byteLen, hadv]
      have hlt : byteLen pre < byteLen (pre ++ c :: rest) := by
        have := Char.utf8Size_pos c
        simp
        omega
      have hshorter : rest'.length < n := by
        obtain ⟨u, us, rfl⟩ := List.exists_cons_of_ne_nil hne
        rw [← hn, hsplit]
        simp
      rw [scan_of_step hlt hstep, hsplit, ← List.append_assoc, ← byteLen_append,
        ih _ hshorter (pre ++ used) rest' d' rfl, ← hsplit, hwords]
      rfl

theorem scan_eq_words (cs : List Char) (d : Nat) : scan cs 0 d = some (words cs d) :=
  scan_append [] cs d

end Scanner

/-! ## What may come before a statement -/

theorem words_cons_of_inert {c : Char} (hc : c.toNat < 33 ∨ 127 < c.toNat) (cs : List Char)
    (d : Nat) : words (c :: cs) d = words cs d := by
  have hne : ∀ e : Char, 33 ≤ e.toNat → e.toNat ≤ 127 → c ≠ e := by
    rintro e h1 h2 rfl
    omega
  rw [words.eq_4 d c cs (fun _ h _ => hne '-' (by decide) (by decide) h)
    (fun _ h _ => hne '/' (by decide) (by decide) h)]
  have hq : closingQuote? c = none := by
    simp [closingQuote?, hne '\'' (by decide) (by decide), hne '"' (by decide) (by decide),
      hne '`' (by decide) (by decide), hne '[' (by decide) (by decide)]
  have halpha : ¬c.isAlpha = true := by
    rw [Scanner.isAlpha_iff]
    omega
  have hdigit : ¬c.isDigit = true := by
    simp only [Char.isDigit_iff_toNat, Char.reduceToNat]
    omega
  simp [hq, halpha, hdigit, hne '(' (by decide) (by decide), hne ')' (by decide) (by decide),
    hne '_' (by decide) (by decide), hne '$' (by decide) (by decide),
    hne '@' (by decide) (by decide), hne ':' (by decide) (by decide),
    hne '?' (by decide) (by decide)]

theorem words_blank_append {pre : List Char} (h : ∀ c ∈ pre, Text.isBlank c = true)
    (cs : List Char) (d : Nat) : words (pre ++ cs) d = words cs d := by
  induction pre with
  | nil => rfl
  | cons c pre ih =>
    have hc : c.toNat < 33 ∨ 127 < c.toNat := by
      have := h c (by simp)
      simp only [Text.isBlank, Bool.or_eq_true, Bool.and_eq_true, decide_eq_true_eq,
        beq_iff_eq] at this
      omega
    rw [List.cons_append, words_cons_of_inert hc, ih (fun c hc => h c (by simp [hc]))]

theorem skipBlock_append {body : List Char} (h : ¬['*', '/'] <:+: body) (cs : List Char) :
    skipBlock (body ++ '*' :: '/' :: cs) = cs := by
  induction body with
  | nil => simp [skipBlock]
  | cons b body ih =>
    have hbody : ¬['*', '/'] <:+: body := fun hi => h (hi.trans (List.suffix_cons b body).isInfix)
    rw [List.cons_append, skipBlock.eq_3, ih hbody]
    rintro rest rfl hrest
    cases body with
    | nil => simp at hrest
    | cons e body =>
      obtain ⟨rfl, -⟩ := List.cons.inj hrest
      exact h (List.prefix_append ['*', '/'] body).isInfix

theorem skipLine_append {line : List Char} (h : '\n' ∉ line) (cs : List Char) :
    skipLine (line ++ '\n' :: cs) = '\n' :: cs := by
  induction line with
  | nil => simp [skipLine]
  | cons c line ih =>
    have hc : c ≠ '\n' := fun hc => h (by simp [hc])
    simp only [skipLine, List.cons_append, List.dropWhile_cons, ne_eq, hc, not_false_eq_true,
      decide_true, if_true] at ih ⊢
    exact ih (fun hl => h (by simp [hl]))

theorem words_blockComment_append {body : List Char} (h : ¬['*', '/'] <:+: body) (cs : List Char)
    (d : Nat) : words ('/' :: '*' :: (body ++ '*' :: '/' :: cs)) d = words cs d := by
  rw [words.eq_3, skipBlock_append h]

theorem words_lineComment_append {line : List Char} (h : '\n' ∉ line) (cs : List Char) (d : Nat) :
    words ('-' :: '-' :: (line ++ '\n' :: cs)) d = words cs d := by
  rw [words.eq_2, skipLine_append h, words_cons_of_inert (by decide)]

theorem ofSql_of_words {a b : String} (h : words a.toList 0 = words b.toList 0) :
    ofSql a = ofSql b := by
  unfold ofSql
  rw [h]

theorem ofSql_blank_append {w : String} (h : ∀ c ∈ w.toList, Text.isBlank c = true) (s : String) :
    ofSql (w ++ s) = ofSql s :=
  ofSql_of_words (by rw [String.toList_append, words_blank_append h])

theorem ofSql_blockComment_append {body : String} (h : ¬['*', '/'] <:+: body.toList) (s : String) :
    ofSql ("/*" ++ body ++ "*/" ++ s) = ofSql s := by
  apply ofSql_of_words
  have hopen : "/*".toList = ['/', '*'] := rfl
  have hclose : "*/".toList = ['*', '/'] := rfl
  simp only [String.toList_append, hopen, hclose, List.append_assoc, List.cons_append,
    List.nil_append]
  exact words_blockComment_append h s.toList 0

theorem ofSql_lineComment_append {line : String} (h : '\n' ∉ line.toList) (s : String) :
    ofSql ("--" ++ line ++ "\n" ++ s) = ofSql s := by
  apply ofSql_of_words
  have hopen : "--".toList = ['-', '-'] := rfl
  have hnewline : "\n".toList = ['\n'] := rfl
  simp only [String.toList_append, hopen, hnewline, List.append_assoc, List.cons_append,
    List.nil_append]
  exact words_lineComment_append h s.toList 0

/-- The statement scanner is safe on every text and blind to what may come before a statement:
a cut succeeds exactly between characters, every turn of the loop moves forward, the scan of any
statement cuts only between characters and reads its words, and blanks, a closed block comment
or a line comment before a statement leave its kind as it is. -/
theorem ofSql_scans_safely_past_comments :
    (∀ (cs : List Char) (p : Nat) (l r : List Char),
      Scanner.cut? cs p = some (l, r) ↔ l ++ r = cs ∧ Scanner.byteLen l = p) ∧
    (∀ (cs : List Char) (pos depth next depth' : Nat) (word : Option (String × Nat)),
      Scanner.step cs pos depth = some (next, depth', word) → pos < next) ∧
    (∀ s : String, Scanner.scan s.toList 0 0 = some (words s.toList 0)) ∧
    (∀ w s : String, (∀ c ∈ w.toList, Text.isBlank c = true) → ofSql (w ++ s) = ofSql s) ∧
    (∀ body s : String, ¬['*', '/'] <:+: body.toList →
      ofSql ("/*" ++ body ++ "*/" ++ s) = ofSql s) ∧
    (∀ line s : String, '\n' ∉ line.toList → ofSql ("--" ++ line ++ "\n" ++ s) = ofSql s) :=
  ⟨fun _ _ _ _ => Scanner.cut?_eq_some_iff, fun _ _ _ _ _ _ => Scanner.step_advances,
    fun s => Scanner.scan_eq_words s.toList 0, fun _ s h => ofSql_blank_append h s,
    fun _ s h => ofSql_blockComment_append h s, fun _ s h => ofSql_lineComment_append h s⟩

theorem ofSql_scans_safely_past_comments_select :
    Scanner.step "SELECT 1".toList 0 0 = some (6, 0, some ("SELECT", 0)) ∧ 0 < 6 ∧
      ofSql (" \t" ++ "SELECT 1") = ofSql "SELECT 1" ∧
      ofSql ("/*" ++ " * / " ++ "*/" ++ "DELETE") = ofSql "DELETE" ∧
      ofSql ("--" ++ " é" ++ "\n" ++ "UPDATE t") = ofSql "UPDATE t" := by
  have hstep : Scanner.step "SELECT 1".toList 0 0 = some (6, 0, some ("SELECT", 0)) := by decide
  have hblank : ∀ c ∈ " \t".toList, Text.isBlank c = true := by
    have hlist : " \t".toList = [' ', '\t'] := rfl
    intro c hc
    rw [hlist, List.mem_pair] at hc
    rcases hc with rfl | rfl <;> rfl
  exact ⟨hstep, ofSql_scans_safely_past_comments.2.1 _ 0 0 6 0 _ hstep,
    ofSql_scans_safely_past_comments.2.2.2.1 _ _ hblank,
    ofSql_scans_safely_past_comments.2.2.2.2.1 _ _ (by decide),
    ofSql_scans_safely_past_comments.2.2.2.2.2 _ _ (by decide)⟩

end StatementClass

end EntitySql
