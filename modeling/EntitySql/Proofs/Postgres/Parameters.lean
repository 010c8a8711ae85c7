import EntitySql.Proofs.Postgres.Bytes

/-!
# What a parameter of a numeric or character type stands for

A parameter sent in the binary form of a type stands for a datum of that type: a truth value, an
integer, the bits of a float, or a text. `PgScalar.read?` reads a payload as the server does for
the ten numeric and character types (`bool`, the integer types, `oid`, the float types, `text`,
`varchar` and `bpchar`), and refuses a payload of the wrong width or not in UTF-8.

`Value.Converts v t d` says, by the rules of the types and not by the encoder's branches, which
datum `d` of type `t` a value stands for: integers exactly and within the type's range, booleans
as themselves or as 0 and 1 in the integer types, floats rounded to the type, texts read as the
number a numeric type asks for, and values with a text form as that text in a character type.

`Value.encode` is faithful where it converts (`Value.encode_faithful`): a payload it writes
reads as a datum the value converts to, and it fails only where the value converts to none; in
particular an integer out of range is refused and never wrapped. It does not convert every pair:
a value that falls through to its own form is sent as that form whatever the type, so a boolean
asked as `float8` is one byte, which `float8` cannot read (`Value.encode_bool_float8`).
-/

namespace EntitySql

/-- A datum of a numeric or character type. -/
inductive PgDatum where
  | bool (b : Bool)
  | int (n : Int)
  /-- A single-precision float, by its bits. -/
  | float4 (bits : UInt32)
  /-- A double-precision float, by its bits. -/
  | float8 (bits : UInt64)
  | text (s : String)

namespace PgScalar

def numericOrCharacter : List PgScalar :=
  [.bool, .int2, .int4, .int8, .oid, .float4, .float8, .text, .varchar, .bpchar]

/-- The datum a payload stands for in the binary form of a type, if it is one: a byte for `bool`
(true unless zero), two, four or eight bytes of two's complement for the signed integers, four
bytes of an unsigned number for `oid`, four or eight bytes of IEEE bits for the floats, UTF-8
for the character types. Other types are not read here. -/
def read? : PgScalar → List UInt8 → Option PgDatum
  | .bool, [b] => some (.bool (b != 0))
  | .int2, bs => if bs.length = 2 then some (.int (ofTwosComplement bs)) else none
  | .int4, bs => if bs.length = 4 then some (.int (ofTwosComplement bs)) else none
  | .int8, bs => if bs.length = 8 then some (.int (ofTwosComplement bs)) else none
  | .oid, bs => if bs.length = 4 then some (.int (ofBigEndian bs)) else none
  | .float4, bs => if bs.length = 4 then some (.float4 (UInt32.ofNat (ofBigEndian bs))) else none
  | .float8, bs => if bs.length = 8 then some (.float8 (UInt64.ofNat (ofBigEndian bs))) else none
  | .text, bs | .varchar, bs | .bpchar, bs => (String.fromUTF8? bs.toByteArray).map .text
  | _, _ => none

/-- The integers a type holds: two, four and eight bytes signed, four bytes unsigned for `oid`. -/
def IntRange : PgScalar → Int → Prop
  | .int2, n => -32768 ≤ n ∧ n ≤ 32767
  | .int4, n => -2147483648 ≤ n ∧ n ≤ 2147483647
  | .int8, n => Json.i64Min ≤ n ∧ n ≤ Json.i64Max
  | .oid, n => 0 ≤ n ∧ n ≤ 4294967295
  | _, _ => False

def isInteger : PgScalar → Bool
  | .int2 | .int4 | .int8 | .oid => true
  | _ => false

end PgScalar

namespace Value

/-- The text a value stands for in a character type: the digits of an integer, the shortest
positional text of a float, a text itself, and the written forms of a UUID, an instant and a
JSON document. -/
def textForm? : Value → Option String
  | .int n => some (toString n)
  | .float x => some (Float.plainText x)
  | .text s => some s
  | .uuid u => some u.hyphenated
  | .timestamp ts => some ts.rfc3339
  | .json j => some (Json.render j)
  | _ => none

/-- The datum of a numeric or character type that a value converts to. -/
inductive Converts : Value → PgScalar → PgDatum → Prop
  | bool (b : Bool) : Converts (.bool b) .bool (.bool b)
  | boolToInt {t : PgScalar} (b : Bool) (ht : t.IntRange (if b then 1 else 0)) :
      Converts (.bool b) t (.int (if b then 1 else 0))
  | int {t : PgScalar} (n : Int) (ht : t.IntRange n) : Converts (.int n) t (.int n)
  | intToBool (n : Int) : Converts (.int n) .bool (.bool (n != 0))
  | intToFloat4 (n : Int) : Converts (.int n) .float4 (.float4 (Float32.ofInt n).toBits)
  | intToFloat8 (n : Int) : Converts (.int n) .float8 (.float8 (Float.ofInt n).toBits)
  | floatToFloat4 (x : Float) : Converts (.float x) .float4 (.float4 x.toFloat32.toBits)
  | float8 (x : Float) : Converts (.float x) .float8 (.float8 x.toBits)
  | textToInt {t : PgScalar} {s : String} {n : Int} {d : PgDatum} (ht : t.isInteger = true)
      (hs : Decimal.readI64 s = .ok n) (h : Converts (.int n) t d) : Converts (.text s) t d
  | textToFloat {t : PgScalar} {s : String} {x : Float} {d : PgDatum}
      (ht : t = .float4 ∨ t = .float8) (hs : Decimal.readF64 s = .ok x)
      (h : Converts (.float x) t d) : Converts (.text s) t d
  | toText {t : PgScalar} {v : Value} {s : String} (ht : t.isCharacter = true)
      (hs : v.textForm? = some s) : Converts v t (.text s)

/-- An outcome of encoding is faithful to the conversions when a payload reads as a datum the
value converts to, no payload is sent for null only, and an error comes only where the value
converts to nothing. -/
def Faithful (t : PgScalar) (v : Value) : Except EncodeError (Option (List UInt8)) → Prop
  | .ok (some bs) => ∃ d, t.read? bs = some d ∧ Converts v t d
  | .ok none => v = .null
  | .error _ => ∀ d, ¬ Converts v t d

def FitsI64 : Value → Prop
  | .int n => Json.i64Min ≤ n ∧ n ≤ Json.i64Max
  | _ => True

/-- The pairs of a value and a numeric or character type that the encoder converts, rather than
sending the value's own form. -/
def Adapts : Value → PgScalar → Prop
  | .null, _ | .int _, _ | .array _, _ => True
  | .bool _, t => t = .bool ∨ t = .int2 ∨ t = .int4 ∨ t = .int8
  | .float _, t => t = .float4 ∨ t = .float8 ∨ t.isCharacter = true
  | .text _, t => t ≠ .bool ∧ t ≠ .oid
  | .uuid _, t | .json _, t => t.isCharacter = true
  | .timestamp _, t => t = .text ∨ t = .varchar
  | _, _ => False

end Value

section Payloads

open PgScalar

theorem narrow_of_le {lo hi n : Int} (h1 : lo ≤ n) (h2 : n ≤ hi) : narrow lo hi n = .ok n := by
  simp [narrow, show ¬ n < lo by omega, show ¬ hi < n by omega]

theorem narrow_isError {lo hi n : Int} (h : n < lo ∨ hi < n) : ∃ e, narrow lo hi n = .error e := by
  unfold narrow
  split
  · exact ⟨_, rfl⟩
  · split
    · exact ⟨_, rfl⟩
    · omega

theorem read?_text {t : PgScalar} (ht : t.isCharacter = true) (s : String) :
    t.read? (WireValue.text s).payload = some (.text s) := by
  cases t <;> simp [PgScalar.isCharacter] at ht <;>
    simp only [PgScalar.read?, WireValue.payload, fromUTF8?_toUTF8, Option.map_some]

theorem read?_bool (b : Bool) : PgScalar.bool.read? (WireValue.bool b).payload = some (.bool b) := by
  cases b <;> rfl

theorem read?_float4 (x : Float32) :
    PgScalar.float4.read? (WireValue.float4 x).payload = some (.float4 x.toBits) := by
  simp [PgScalar.read?, WireValue.payload, ofBigEndian_bigEndian]

theorem read?_float8 (x : Float) :
    PgScalar.float8.read? (WireValue.float8 x).payload = some (.float8 x.toBits) := by
  simp [PgScalar.read?, WireValue.payload, ofBigEndian_bigEndian]

theorem ofInt_read? {t : PgScalar} {n : Int} (hn : t.IntRange n) :
    ∃ w, WireValue.ofInt (.scalar t) n = .ok w ∧ t.read? w.payload = some (.int n) := by
  cases t <;> simp only [PgScalar.IntRange] at hn
  case int2 =>
    refine ⟨.int2 n, by simp [WireValue.ofInt, narrow_of_le hn.1 hn.2], ?_⟩
    simp [PgScalar.read?, WireValue.payload]
    exact ofTwosComplement_twosComplement 2 (by norm_num; omega) (by norm_num; omega)
  case int4 =>
    refine ⟨.int4 n, by simp [WireValue.ofInt, narrow_of_le hn.1 hn.2], ?_⟩
    simp [PgScalar.read?, WireValue.payload]
    exact ofTwosComplement_twosComplement 4 (by norm_num; omega) (by norm_num; omega)
  case int8 =>
    refine ⟨.int8 n, rfl, ?_⟩
    simp only [Json.i64Min, Json.i64Max] at hn
    simp [PgScalar.read?, WireValue.payload]
    exact ofTwosComplement_twosComplement 8 (by norm_num; omega) (by norm_num; omega)
  case oid =>
    refine ⟨.oid n.toNat, by simp [WireValue.ofInt, narrow_of_le hn.1 hn.2], ?_⟩
    simp [PgScalar.read?, WireValue.payload, ofBigEndian_bigEndian]
    omega

theorem ofInt_isError {t : PgScalar} (ht : t.isInteger = true) {n : Int}
    (hfits : Json.i64Min ≤ n ∧ n ≤ Json.i64Max) (hn : ¬ t.IntRange n) :
    ∃ e, WireValue.ofInt (.scalar t) n = .error e := by
  cases t <;> simp [PgScalar.isInteger] at ht <;> simp only [PgScalar.IntRange] at hn
  case int2 =>
    obtain ⟨e, he⟩ := narrow_isError (show n < -32768 ∨ 32767 < n by omega)
    exact ⟨e, by simp [WireValue.ofInt, he]⟩
  case int4 =>
    obtain ⟨e, he⟩ := narrow_isError (show n < -2147483648 ∨ 2147483647 < n by omega)
    exact ⟨e, by simp [WireValue.ofInt, he]⟩
  case int8 => exact absurd hfits hn
  case oid =>
    obtain ⟨e, he⟩ := narrow_isError (show n < 0 ∨ 4294967295 < n by omega)
    exact ⟨e, by simp [WireValue.ofInt, he]⟩

end Payloads

namespace Decimal

theorem digitsWithin_le {bound : Nat} {neg : Bool} {cs : List Char} {acc n : Nat} (hacc : acc ≤ bound)
    (h : digitsWithin bound neg cs acc = .ok n) : n ≤ bound := by
  induction cs generalizing acc with
  | nil =>
    simp only [digitsWithin, Except.ok.injEq] at h
    omega
  | cons c rest ih =>
    simp only [digitsWithin] at h
    split at h
    · split at h
      · cases h
      · exact ih (by omega) h
    · cases h

theorem readI64_range {s : String} {n : Int} (h : readI64 s = .ok n) :
    Json.i64Min ≤ n ∧ n ≤ Json.i64Max := by
  unfold readI64 readIntIn at h
  simp only [Json.i64Min, Json.i64Max]
  split at h
  · cases h
  · cases h
  · cases h
  all_goals
    generalize hD : digitsWithin _ _ _ 0 = D at h
    cases D with
    | error e => cases h
    | ok m =>
      have := digitsWithin_le (Nat.zero_le _) hD
      simp [Except.map] at h this
      omega

end Decimal

namespace Value

open PgScalar

theorem encode_scalar_int (t : PgScalar) (n : Int) :
    (Value.int n).encode (.scalar t) = (fun w => some w.payload) <$> WireValue.ofInt (.scalar t) n := by
  simp [Value.encode, Value.toWire]

theorem faithful_of_ok {t : PgScalar} {v : Value} {w : WireValue}
    (h : ∃ d, t.read? w.payload = some d ∧ Converts v t d) :
    Faithful t v ((fun w => some w.payload) <$> (.ok w : Except EncodeError WireValue)) := h

theorem faithful_of_error {t : PgScalar} {v : Value} {e : EncodeError} (h : ∀ d, ¬ Converts v t d) :
    Faithful t v ((fun w => some w.payload) <$> (.error e : Except EncodeError WireValue)) := h

theorem not_converts_int {t : PgScalar} (ht : t.isInteger = true) {n : Int} (hn : ¬ t.IntRange n)
    (d : PgDatum) : ¬ Converts (.int n) t d := by
  intro h
  cases t <;> cases h <;> simp_all [PgScalar.isInteger, PgScalar.isCharacter]

theorem faithful_ofInt {t : PgScalar} (ht : t ∈ numericOrCharacter) {n : Int}
    (hfits : Json.i64Min ≤ n ∧ n ≤ Json.i64Max) :
    Faithful t (.int n) ((fun w => some w.payload) <$> WireValue.ofInt (.scalar t) n) := by
  by_cases hint : t.isInteger = true
  · by_cases hn : t.IntRange n
    · obtain ⟨w, hw, hread⟩ := ofInt_read? hn
      rw [hw]
      exact faithful_of_ok ⟨_, hread, .int n hn⟩
    · obtain ⟨e, he⟩ := ofInt_isError hint hfits hn
      rw [he]
      exact faithful_of_error (not_converts_int hint hn)
  · simp only [numericOrCharacter, List.mem_cons, List.not_mem_nil, or_false] at ht
    rcases ht with rfl | rfl | rfl | rfl | rfl | rfl | rfl | rfl | rfl | rfl <;>
      simp [PgScalar.isInteger] at hint
    · exact faithful_of_ok ⟨_, read?_bool _, .intToBool n⟩
    · exact faithful_of_ok ⟨_, read?_float4 _, .intToFloat4 n⟩
    · exact faithful_of_ok ⟨_, read?_float8 _, .intToFloat8 n⟩
    all_goals exact faithful_of_ok ⟨_, read?_text rfl _, .toText rfl rfl⟩

theorem encode_scalar {t : PgScalar} {v : Value} (hnull : v ≠ .null) (harr : ∀ items, v ≠ .array items) :
    v.encode (.scalar t) = (fun w => some w.payload) <$> v.toWire (.scalar t) := by
  cases v <;> simp_all [Value.encode]

theorem converts_text_integer {t : PgScalar} (ht : t.isInteger = true) {s : String} {d : PgDatum} :
    Converts (.text s) t d ↔ ∃ n, Decimal.readI64 s = .ok n ∧ Converts (.int n) t d := by
  constructor
  · intro h
    cases h with
    | textToInt _ hs h => exact ⟨_, hs, h⟩
    | textToFloat hf => rcases hf with rfl | rfl <;> simp [PgScalar.isInteger] at ht
    | toText hc => cases t <;> simp_all [PgScalar.isInteger, PgScalar.isCharacter]
  · rintro ⟨n, hs, h⟩
    exact .textToInt ht hs h

theorem converts_text_float {t : PgScalar} (ht : t = .float4 ∨ t = .float8) {s : String}
    {d : PgDatum} :
    Converts (.text s) t d ↔ ∃ x, Decimal.readF64 s = .ok x ∧ Converts (.float x) t d := by
  constructor
  · intro h
    cases h with
    | textToInt hi => rcases ht with rfl | rfl <;> simp [PgScalar.isInteger] at hi
    | textToFloat _ hs h => exact ⟨_, hs, h⟩
    | toText hc => rcases ht with rfl | rfl <;> simp [PgScalar.isCharacter] at hc
  · rintro ⟨x, hs, h⟩
    exact .textToFloat ht hs h

theorem Faithful.congr {t : PgScalar} {v v' : Value} {r : Except EncodeError (Option (List UInt8))}
    (h : ∀ d, Converts v t d ↔ Converts v' t d) (hv : v ≠ .null) (hf : Faithful t v r) :
    Faithful t v' r := by
  match r, hf with
  | .ok (some _), ⟨d, hread, hd⟩ => exact ⟨d, hread, (h d).mp hd⟩
  | .ok none, hnull => exact absurd hnull hv
  | .error _, hnone => exact fun d hd => hnone d ((h d).mpr hd)

theorem faithful_ofFloat {t : PgScalar} (ht : t = .float4 ∨ t = .float8 ∨ t.isCharacter = true)
    (x : Float) :
    Faithful t (.float x) ((fun w => some w.payload) <$> WireValue.ofFloat (.scalar t) x) := by
  rcases ht with rfl | rfl | hc
  · exact faithful_of_ok ⟨_, read?_float4 _, .floatToFloat4 x⟩
  · exact faithful_of_ok ⟨_, read?_float8 _, .float8 x⟩
  · cases t <;> simp [PgScalar.isCharacter] at hc <;>
      exact faithful_of_ok ⟨_, read?_text rfl _, .toText rfl rfl⟩

theorem ofText_integer {t : PgScalar} (ht : t = .int2 ∨ t = .int4 ∨ t = .int8) (s : String) :
    WireValue.ofText (.scalar t) s = match Decimal.readI64 s with
      | .ok n => WireValue.ofInt (.scalar t) n
      | .error e => .error (.intText e) := by
  rcases ht with rfl | rfl | rfl <;> rfl

theorem ofText_float {t : PgScalar} (ht : t = .float4 ∨ t = .float8) (s : String) :
    WireValue.ofText (.scalar t) s = match Decimal.readF64 s with
      | .ok x => WireValue.ofFloat (.scalar t) x
      | .error m => .error (.floatText m) := by
  rcases ht with rfl | rfl <;> rfl

theorem faithful_text_integer {t : PgScalar} (ht : t = .int2 ∨ t = .int4 ∨ t = .int8)
    (s : String) : Faithful t (.text s) ((Value.text s).encode (.scalar t)) := by
  have hint : t.isInteger = true := by rcases ht with rfl | rfl | rfl <;> rfl
  have hmem : t ∈ numericOrCharacter := by rcases ht with rfl | rfl | rfl <;> decide
  rw [encode_scalar (by simp) (by simp), toWire, ofText_integer ht]
  cases hr : Decimal.readI64 s with
  | ok n =>
    refine Faithful.congr (fun d => ?_) (by simp) (faithful_ofInt hmem (Decimal.readI64_range hr))
    rw [converts_text_integer hint]
    exact ⟨fun h => ⟨n, hr, h⟩, fun ⟨m, hm, h⟩ => by cases hr.symm.trans hm; exact h⟩
  | error e =>
    exact faithful_of_error fun d h => by
      obtain ⟨n, hn, -⟩ := (converts_text_integer hint).mp h
      cases hr.symm.trans hn

theorem faithful_text_float {t : PgScalar} (ht : t = .float4 ∨ t = .float8) (s : String) :
    Faithful t (.text s) ((Value.text s).encode (.scalar t)) := by
  rw [encode_scalar (by simp) (by simp), toWire, ofText_float ht]
  cases hr : Decimal.readF64 s with
  | ok x =>
    refine Faithful.congr (fun d => ?_) (by simp) (faithful_ofFloat (ht.elim .inl (.inr ∘ .inl)) x)
    rw [converts_text_float ht]
    exact ⟨fun h => ⟨x, hr, h⟩, fun ⟨y, hy, h⟩ => by cases hr.symm.trans hy; exact h⟩
  | error m =>
    exact faithful_of_error fun d h => by
      obtain ⟨x, hx, -⟩ := (converts_text_float ht).mp h
      cases hr.symm.trans hx

theorem faithful_of_text_payload {t : PgScalar} (hc : t.isCharacter = true) {v : Value}
    {s : String} (hs : v.textForm? = some s) {w : WireValue} (hw : w.payload = (WireValue.text s).payload) :
    Faithful t v ((fun w => some w.payload) <$> (.ok w : Except EncodeError WireValue)) :=
  faithful_of_ok ⟨_, hw ▸ read?_text hc s, .toText hc hs⟩

theorem faithful_bool {t : PgScalar} (ht : t = .bool ∨ t = .int2 ∨ t = .int4 ∨ t = .int8)
    (b : Bool) : Faithful t (.bool b) ((Value.bool b).encode (.scalar t)) := by
  rw [encode_scalar (by simp) (by simp)]
  rcases ht with rfl | hint
  · exact faithful_of_ok ⟨_, read?_bool b, .bool b⟩
  · have hrange : t.IntRange (if b then 1 else 0) := by
      rcases hint with rfl | rfl | rfl <;> cases b <;> simp [PgScalar.IntRange, Json.i64Min, Json.i64Max]
    obtain ⟨w, hw, hread⟩ := ofInt_read? hrange
    have hwire : (Value.bool b).toWire (.scalar t) = .ok w := by
      rcases hint with rfl | rfl | rfl <;> exact hw
    rw [hwire]
    exact faithful_of_ok ⟨_, hread, .boolToInt b hrange⟩

theorem faithful_textForm {t : PgScalar} (hc : t.isCharacter = true) {v : Value}
    (hv : (∃ u, v = .uuid u) ∨ (∃ j, v = .json j) ∨ ((∃ ts, v = .timestamp ts) ∧ t ≠ .bpchar))
    : Faithful t v (v.encode (.scalar t)) := by
  cases t <;> simp [PgScalar.isCharacter] at hc <;>
    rcases hv with ⟨u, rfl⟩ | ⟨j, rfl⟩ | ⟨⟨ts, rfl⟩, hb⟩ <;>
    rw [encode_scalar (by simp) (by simp)] <;>
    first
      | exact absurd rfl hb
      | exact faithful_of_text_payload rfl rfl (by
          simp [WireValue.payload, WireValue.ofJson, PgType.isCharacter, PgScalar.isCharacter])

/-- Where the encoder converts a value for one of the ten numeric or character types, its
outcome is faithful: a payload reads as a datum the value converts to, null is sent as no
payload, and an error comes only where the value converts to nothing. -/
theorem encode_faithful {t : PgScalar} (ht : t ∈ numericOrCharacter) {v : Value}
    (hv : v.FitsI64) (hadapts : v.Adapts t) : Faithful t v (v.encode (.scalar t)) := by
  have hmem := ht
  simp only [numericOrCharacter, List.mem_cons, List.not_mem_nil, or_false] at hmem
  cases v with
  | null => rfl
  | array items =>
    simp only [Value.encode]
    intro d h
    cases h
    simp [textForm?] at *
  | int n =>
    rw [encode_scalar_int]
    exact faithful_ofInt ht hv
  | bool b => exact faithful_bool hadapts b
  | float x =>
    rw [encode_scalar (by simp) (by simp)]
    exact faithful_ofFloat hadapts x
  | text s =>
    obtain ⟨hb, ho⟩ := hadapts
    rcases hmem with rfl | rfl | rfl | rfl | rfl | rfl | rfl | rfl | rfl | rfl
    · exact absurd rfl hb
    · exact faithful_text_integer (.inl rfl) s
    · exact faithful_text_integer (.inr (.inl rfl)) s
    · exact faithful_text_integer (.inr (.inr rfl)) s
    · exact absurd rfl ho
    · exact faithful_text_float (.inl rfl) s
    · exact faithful_text_float (.inr rfl) s
    all_goals
      rw [encode_scalar (by simp) (by simp)]
      exact faithful_of_text_payload rfl rfl rfl
  | uuid u => exact faithful_textForm hadapts (.inl ⟨u, rfl⟩)
  | json j => exact faithful_textForm hadapts (.inr (.inl ⟨j, rfl⟩))
  | timestamp ts =>
    rcases hadapts with rfl | rfl <;>
      exact faithful_textForm rfl (.inr (.inr ⟨⟨ts, rfl⟩, by decide⟩))
  | bytes _ | date _ | time _ => exact hadapts.elim

theorem encode_faithful_text_int2 :
    PgScalar.int2 ∈ PgScalar.numericOrCharacter ∧ (Value.text "12").FitsI64 ∧
      (Value.text "12").Adapts .int2 ∧
      Faithful .int2 (.text "12") ((Value.text "12").encode (.scalar .int2)) :=
  ⟨by decide, trivial, ⟨by decide, by decide⟩,
    encode_faithful (by decide) trivial ⟨by decide, by decide⟩⟩

/-- A boolean asked as `float8` falls through to its own form: one byte, which is no `float8`
payload, where the rules of the types would send 1.0 or refuse it. -/
theorem encode_bool_float8 :
    (Value.bool true).encode (.scalar .float8) = .ok (some [1]) ∧
      ¬ Faithful .float8 (.bool true) ((Value.bool true).encode (.scalar .float8)) := by
  have hbytes : (Value.bool true).encode (.scalar .float8) = .ok (some [1]) := rfl
  refine ⟨hbytes, ?_⟩
  rw [hbytes]
  rintro ⟨d, hread, -⟩
  simp [PgScalar.read?] at hread

end Value

end EntitySql
