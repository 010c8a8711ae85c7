import EntitySql.Text.Blank
import EntitySql.IpAddress
import EntitySql.Decimal.Read

/-!
# Connection strings

A connection string is written in one of two forms.

* A URL, after `postgres://` or `postgresql://`: `user:password@` up to the first `@`, then the
  hosts up to the first `/` or `?` (separated by commas, each `host:port` or `[address]:port`,
  the port 5432 when missing), then `/dbname` up to the first `?`, then `?key=value&...`. Every
  part is percent-decoded, and must then be UTF-8 (the password and a socket path excepted).
  A `host` parameter adds one host, commas and all.
* Otherwise settings `key=value` separated by blanks, with blanks allowed around `=`. A value is
  a run of non-blanks or a text in single quotes; in both a backslash takes the next character as
  it is. Reading stops at the first setting with no key. A `host` or `port` setting lists
  several values separated by commas, and an empty port is 5432.

A host that starts with `/` is the directory of a Unix socket. Each setting must be known and its
value valid: `sslmode` is `disable`, `prefer` or `require`; ports are 16-bit; `hostaddr` lists
IP addresses; timeouts are signed 64-bit seconds (only positive ones count); and so on.

Reading a URL ends because each parameter consumes at least its `=`, and reading settings ends
because each consumes a non-empty key: both recurse on the length of the unread text.
-/

namespace EntitySql

/-- Whether and how TLS is used. -/
inductive SslMode where
  | disable | prefer | require
  deriving DecidableEq, Repr

/-- How TLS is started. -/
inductive SslNegotiation where
  | postgres | direct
  deriving DecidableEq, Repr

/-- Which servers a connection accepts. -/
inductive TargetSessionAttrs where
  | any | readWrite | readOnly
  deriving DecidableEq, Repr

/-- Whether channel binding is used in authentication. -/
inductive ChannelBinding where
  | disable | prefer | require
  deriving DecidableEq, Repr

/-- Whether hosts are tried in a random order. -/
inductive LoadBalanceHosts where
  | disable | random
  deriving DecidableEq, Repr

/-- Where a server is found: a host name or address, or the directory of a Unix socket. -/
inductive PgHost where
  | tcp (name : String)
  | socket (path : List UInt8)
  deriving DecidableEq, Repr

namespace PgHost

def ofText (s : String) : PgHost :=
  if s.startsWith "/" then .socket s.toUTF8.toList else .tcp s

end PgHost

/-- The settings of a connection. -/
structure ConnConfig where
  user : Option String := none
  password : Option (List UInt8) := none
  dbname : Option String := none
  options : Option String := none
  applicationName : Option String := none
  sslMode : SslMode := .prefer
  sslNegotiation : SslNegotiation := .postgres
  hosts : List PgHost := []
  hostAddrs : List IpAddress := []
  ports : List Nat := []
  /-- Seconds. -/
  connectTimeout : Option Nat := none
  /-- Seconds. -/
  tcpUserTimeout : Option Nat := none
  keepalives : Bool := true
  /-- Seconds. -/
  keepalivesIdle : Nat := 7200
  /-- Seconds. -/
  keepalivesInterval : Option Nat := none
  keepalivesRetries : Option Nat := none
  targetSessionAttrs : TargetSessionAttrs := .any
  channelBinding : ChannelBinding := .prefer
  loadBalanceHosts : LoadBalanceHosts := .disable
  deriving Repr

/-- Why a connection string is refused. -/
inductive ConnStringError where
  | unknownOption (key : String)
  | invalidValue (key : String)
  | unexpectedEnd
  | unexpectedChar (expected found : Char)
  | unterminatedQuote
  | unterminatedParameter
  | invalidUtf8
  deriving DecidableEq, Repr

namespace ConnString

/-- An unsigned decimal number of at most `bound`, with an optional `+`. -/
def readUnsigned (bound : Nat) (s : String) : Option Nat :=
  let digits := match s.toList with
    | '+' :: rest => rest
    | cs => cs
  if digits.isEmpty ∨ !digits.all Char.isDigit then none
  else
    let n := digits.foldl (fun acc c => acc * 10 + (c.toNat - 48)) 0
    if bound < n then none else some n

/-- The value of a hex digit byte. -/
def hexNibble? (b : UInt8) : Option Nat :=
  if 48 ≤ b ∧ b ≤ 57 then some (b.toNat - 48)
  else if 97 ≤ b ∧ b ≤ 102 then some (b.toNat - 87)
  else if 65 ≤ b ∧ b ≤ 70 then some (b.toNat - 55)
  else none

/-- Replace each `%` followed by two hex digits by the byte they write. -/
def percentDecode (bs : List UInt8) : List UInt8 :=
  match bs with
  | [] => []
  | b :: rest =>
    match rest with
    | h :: l :: more =>
      if b = 37 then
        match hexNibble? h, hexNibble? l with
        | some x, some y => (x * 16 + y).toUInt8 :: percentDecode more
        | _, _ => b :: percentDecode (h :: l :: more)
      else b :: percentDecode (h :: l :: more)
    | [h] => [b, h]
    | [] => [b]
termination_by bs.length

/-- A percent-decoded text, which must be UTF-8. -/
def percentText (s : String) : Except ConnStringError String :=
  match String.fromUTF8? ⟨(percentDecode s.toUTF8.toList).toArray⟩ with
  | some t => .ok t
  | none => .error .invalidUtf8

end ConnString

namespace ConnConfig

/-- A timeout in seconds: only a positive one is kept. -/
def positiveSeconds (key value : String) (current : Option Nat) :
    Except ConnStringError (Option Nat) :=
  match Decimal.readI64 value with
  | .ok n => .ok (if 0 < n then some n.toNat else current)
  | .error _ => .error (.invalidValue key)

/-- The ports of a `port` setting: an empty one is 5432. -/
def readPorts (value : String) : Except ConnStringError (List Nat) :=
  (value.splitOn ",").mapM fun p =>
    if p.isEmpty then .ok 5432
    else match ConnString.readUnsigned 65535 p with
      | some n => .ok n
      | none => .error (.invalidValue "port")

/-- Apply one setting. -/
def setParam (c : ConnConfig) (key value : String) : Except ConnStringError ConnConfig :=
  let bad {α : Type} : Except ConnStringError α := .error (.invalidValue key)
  match key with
  | "user" => .ok { c with user := some value }
  | "password" => .ok { c with password := some value.toUTF8.toList }
  | "dbname" => .ok { c with dbname := some value }
  | "options" => .ok { c with options := some value }
  | "application_name" => .ok { c with applicationName := some value }
  | "sslmode" =>
    match value with
    | "disable" => .ok { c with sslMode := .disable }
    | "prefer" => .ok { c with sslMode := .prefer }
    | "require" => .ok { c with sslMode := .require }
    | _ => bad
  | "sslnegotiation" =>
    match value with
    | "postgres" => .ok { c with sslNegotiation := .postgres }
    | "direct" => .ok { c with sslNegotiation := .direct }
    | _ => bad
  | "host" => .ok { c with hosts := c.hosts ++ (value.splitOn ",").map PgHost.ofText }
  | "hostaddr" => do
    let addrs ← (value.splitOn ",").mapM fun a => match IpAddress.read? a with
      | some ip => .ok ip
      | none => bad
    pure { c with hostAddrs := c.hostAddrs ++ addrs }
  | "port" => do pure { c with ports := c.ports ++ (← readPorts value) }
  | "connect_timeout" => do
    pure { c with connectTimeout := ← positiveSeconds key value c.connectTimeout }
  | "tcp_user_timeout" => do
    pure { c with tcpUserTimeout := ← positiveSeconds key value c.tcpUserTimeout }
  | "keepalives" =>
    match ConnString.readUnsigned 18446744073709551615 value with
    | some n => .ok { c with keepalives := n != 0 }
    | none => bad
  | "keepalives_idle" => do
    pure { c with keepalivesIdle := (← positiveSeconds key value (some c.keepalivesIdle)).getD 0 }
  | "keepalives_interval" => do
    pure { c with keepalivesInterval := ← positiveSeconds key value c.keepalivesInterval }
  | "keepalives_retries" =>
    match ConnString.readUnsigned 4294967295 value with
    | some n => .ok { c with keepalivesRetries := some n }
    | none => bad
  | "target_session_attrs" =>
    match value with
    | "any" => .ok { c with targetSessionAttrs := .any }
    | "read-write" => .ok { c with targetSessionAttrs := .readWrite }
    | "read-only" => .ok { c with targetSessionAttrs := .readOnly }
    | _ => bad
  | "channel_binding" =>
    match value with
    | "disable" => .ok { c with channelBinding := .disable }
    | "prefer" => .ok { c with channelBinding := .prefer }
    | "require" => .ok { c with channelBinding := .require }
    | _ => bad
  | "load_balance_hosts" =>
    match value with
    | "disable" => .ok { c with loadBalanceHosts := .disable }
    | "random" => .ok { c with loadBalanceHosts := .random }
    | _ => bad
  | _ => .error (.unknownOption key)

/-- Add one host written in a URL: percent-decoded, a socket directory when its first byte is
`/`, else a name that must be UTF-8. -/
def hostParam (c : ConnConfig) (s : String) : Except ConnStringError ConnConfig :=
  let bytes := ConnString.percentDecode s.toUTF8.toList
  if bytes.head? = some 47 then .ok { c with hosts := c.hosts ++ [.socket bytes] }
  else
    match String.fromUTF8? ⟨bytes.toArray⟩ with
    | some t => .ok { c with hosts := c.hosts ++ [.tcp t] }
    | none => .error .invalidUtf8

end ConnConfig

namespace ConnString

/-- The characters before the first `c`, and those after it when there is one. -/
def cutAt (c : Char) : List Char → List Char × Option (List Char)
  | [] => ([], none)
  | d :: ds =>
    if d = c then ([], some ds)
    else
      let r := cutAt c ds
      (d :: r.1, r.2)

theorem cutAt_rest_lt (c : Char) (cs rest : List Char) (h : (cutAt c cs).2 = some rest) :
    rest.length < cs.length := by
  induction cs with
  | nil => simp [cutAt] at h
  | cons d ds ih =>
    simp only [cutAt] at h
    split at h
    · simp at h
      subst h
      simp
    · have := ih h
      simp only [List.length_cons]
      omega

theorem cutAt_rest_le (c : Char) (cs : List Char) :
    ((cutAt c cs).2.getD []).length ≤ cs.length := by
  cases h : (cutAt c cs).2 with
  | none => simp
  | some rest =>
    have := cutAt_rest_lt c cs rest h
    simp only [Option.getD_some]
    omega

/-- The address part of a URL connection string. -/
def urlBody? (s : String) : Option (List Char) :=
  let cs := s.toList
  if "postgres://".toList.isPrefixOf cs then some (cs.drop 11)
  else if "postgresql://".toList.isPrefixOf cs then some (cs.drop 13)
  else none

/-- The user and password before the first `@`, if there is one, and the rest after it. -/
def credentials (c : ConnConfig) (cs : List Char) : Except ConnStringError (ConnConfig × List Char) :=
  match cutAt '@' cs with
  | (_, none) => .ok (c, cs)
  | (creds, some rest) => do
    let (userPart, password) := cutAt ':' creds
    let user ← percentText (String.ofList userPart)
    let c := { c with user := some user }
    let c := match password with
      | some p => { c with password := some (percentDecode (String.ofList p).toUTF8.toList) }
      | none => c
    pure (c, rest)

/-- One host of a URL, with its port. -/
def hostChunk (c : ConnConfig) (chunk : String) : Except ConnStringError ConnConfig := do
  let cs := chunk.toList
  let (host, port) ← match cs with
    | '[' :: inner =>
      match cutAt ']' inner with
      | (h, some []) => pure (h, none)
      | (h, some (':' :: p)) => pure (h, some p)
      | _ => throw (.invalidValue "host")
    | _ => pure (cutAt ':' cs)
  let c ← c.hostParam (String.ofList host)
  let port ← percentText (String.ofList (port.getD "5432".toList))
  c.setParam "port" port

/-- The hosts of a URL, up to the first `/` or `?`, and the rest from there. -/
def hosts (c : ConnConfig) (cs : List Char) : Except ConnStringError (ConnConfig × List Char) :=
  let part := cs.takeWhile fun ch => ch ≠ '/' ∧ ch ≠ '?'
  let rest := cs.dropWhile fun ch => ch ≠ '/' ∧ ch ≠ '?'
  if part.isEmpty then .ok (c, rest)
  else do
    let c ← ((String.ofList part).splitOn ",").foldlM hostChunk c
    pure (c, rest)

/-- The database name after `/`, up to the first `?`, and the rest from there. -/
def path (c : ConnConfig) : List Char → Except ConnStringError (ConnConfig × List Char)
  | '/' :: cs =>
    let db := cs.takeWhile (· ≠ '?')
    let rest := cs.dropWhile (· ≠ '?')
    if db.isEmpty then .ok (c, rest)
    else do pure ({ c with dbname := some (← percentText (String.ofList db)) }, rest)
  | cs => .ok (c, cs)

/-- The parameters `key=value` separated by `&`. -/
def params (c : ConnConfig) (cs : List Char) : Except ConnStringError ConnConfig :=
  if cs.isEmpty then .ok c
  else
    match _h : cutAt '=' cs with
    | (_, none) => .error .unterminatedParameter
    | (keyPart, some after) => do
      let v := cutAt '&' after
      let key ← percentText (String.ofList keyPart)
      let c ← if key = "host" then c.hostParam (String.ofList v.1)
        else c.setParam key (← percentText (String.ofList v.1))
      params c (v.2.getD [])
termination_by cs.length
decreasing_by
  have h1 := cutAt_rest_lt '=' cs after (by rw [_h])
  have h2 := cutAt_rest_le '&' after
  omega

/-- A connection string in URL form, after its scheme. -/
def readUrl (cs : List Char) : Except ConnStringError ConnConfig := do
  let (c, cs) ← credentials {} cs
  let (c, cs) ← hosts c cs
  let (c, cs) ← path c cs
  match cs with
  | '?' :: rest => params c rest
  | _ => pure c

/-- A plain value up to the first blank, a backslash taking the next character as it is: the
value and the rest. -/
def plainValue : List Char → List Char × List Char
  | [] => ([], [])
  | c :: cs =>
    if Text.isBlank c then ([], c :: cs)
    else if c = '\\' then
      match cs with
      | [] => ([], [])
      | d :: ds =>
        let r := plainValue ds
        (d :: r.1, r.2)
    else
      let r := plainValue cs
      (c :: r.1, r.2)

/-- A quoted value after its opening quote, a backslash taking the next character as it is: the
value and the rest after the closing quote, if there is one. -/
def quotedValue : List Char → Option (List Char × List Char)
  | [] => none
  | c :: cs =>
    if c = '\'' then some ([], cs)
    else if c = '\\' then
      match cs with
      | [] => none
      | d :: ds => (quotedValue ds).map fun r => (d :: r.1, r.2)
    else (quotedValue cs).map fun r => (c :: r.1, r.2)

theorem plainValue_rest_le : ∀ cs : List Char, (plainValue cs).2.length ≤ cs.length
  | [] => by simp [plainValue]
  | c :: cs => by
    have ih := plainValue_rest_le cs
    rw [plainValue.eq_def]
    dsimp only
    split
    · simp
    · split
      · cases cs with
        | nil => simp
        | cons d ds =>
          have := plainValue_rest_le ds
          dsimp only
          simp only [List.length_cons] at ih ⊢
          omega
      · simp only [List.length_cons]
        omega

theorem quotedValue_rest_le : ∀ (cs v rest : List Char), quotedValue cs = some (v, rest) →
    rest.length ≤ cs.length
  | [], _, _, h => by simp [quotedValue] at h
  | c :: cs, v, rest, h => by
    rw [quotedValue.eq_def] at h
    dsimp only at h
    split at h
    · simp only [Option.some.injEq, Prod.mk.injEq] at h
      obtain ⟨-, rfl⟩ := h
      simp
    · split at h
      · cases cs with
        | nil => simp at h
        | cons d ds =>
          dsimp only at h
          simp only [Option.map_eq_some_iff, Prod.mk.injEq] at h
          obtain ⟨⟨v', r'⟩, h1, -, rfl⟩ := h
          have := quotedValue_rest_le ds v' r' h1
          simp only [List.length_cons]
          omega
      · simp only [Option.map_eq_some_iff, Prod.mk.injEq] at h
        obtain ⟨⟨v', r'⟩, h1, -, rfl⟩ := h
        have := quotedValue_rest_le cs v' r' h1
        simp only [List.length_cons]
        omega

/-- A value after `=`: quoted or plain, never empty when plain. -/
def value (cs : List Char) : Except ConnStringError (List Char × List Char) :=
  match cs with
  | '\'' :: q =>
    match quotedValue q with
    | some r => .ok r
    | none => .error .unterminatedQuote
  | _ => if (plainValue cs).1.isEmpty then .error .unexpectedEnd else .ok (plainValue cs)

theorem value_rest_le (cs v rest : List Char) (h : value cs = .ok (v, rest)) :
    rest.length ≤ cs.length := by
  unfold value at h
  split at h
  · rename_i q
    split at h
    · rename_i r hq
      cases h
      have := quotedValue_rest_le q v rest hq
      simp only [List.length_cons]
      omega
    · cases h
  · split at h
    · cases h
    · simp only [Except.ok.injEq] at h
      have := plainValue_rest_le cs
      rw [h] at this
      exact this

def isKeyChar (c : Char) : Bool := !Text.isBlank c && c != '='

theorem dropWhile_length_le (p : Char → Bool) (cs : List Char) :
    (cs.dropWhile p).length ≤ cs.length :=
  (List.dropWhile_suffix p).length_le

theorem dropWhile_length_lt (p : Char → Bool) (cs : List Char) (h : (cs.takeWhile p).isEmpty = false) :
    (cs.dropWhile p).length < cs.length := by
  have e := congrArg List.length (List.takeWhile_append_dropWhile (p := p) (l := cs))
  rw [List.length_append] at e
  have : 0 < (cs.takeWhile p).length := by
    cases hw : cs.takeWhile p with
    | nil => simp [hw] at h
    | cons _ _ => simp
  omega

/-- Settings `key=value` separated by blanks, up to the first setting with no key. -/
def settings (c : ConnConfig) (cs : List Char) : Except ConnStringError ConnConfig :=
  let start := cs.dropWhile Text.isBlank
  if _hk : (start.takeWhile isKeyChar).isEmpty then .ok c
  else
    let key := start.takeWhile isKeyChar
    match _hr : (start.dropWhile isKeyChar).dropWhile Text.isBlank with
    | '=' :: after =>
      match _hv : value (after.dropWhile Text.isBlank) with
      | .ok (v, rest) => do
        let c ← c.setParam (String.ofList key) (String.ofList v)
        settings c rest
      | .error e => .error e
    | ch :: _ => .error (.unexpectedChar '=' ch)
    | [] => .error .unexpectedEnd
termination_by cs.length
decreasing_by
  have h1 := value_rest_le _ v rest _hv
  have h2 := dropWhile_length_le Text.isBlank after
  have h3 := dropWhile_length_le Text.isBlank (start.dropWhile isKeyChar)
  rw [_hr] at h3
  have h4 := dropWhile_length_lt isKeyChar start (by simpa using _hk)
  have h5 : start.length ≤ cs.length := dropWhile_length_le Text.isBlank cs
  simp only [List.length_cons] at h3
  omega

end ConnString

namespace ConnConfig

/-- Read a connection string in either form. -/
def parse (s : String) : Except ConnStringError ConnConfig :=
  match ConnString.urlBody? s with
  | some body => ConnString.readUrl body
  | none => ConnString.settings {} s.toList

end ConnConfig

end EntitySql
