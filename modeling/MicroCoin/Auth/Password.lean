import MicroCoin.Auth.Base64

/-!
# Password hashes: `HashPassword`, `decodeHash`, `VerifyPassword`

`HashPassword` (`internal/auth/middleware.go`, lines 121–139) derives a 32-byte key from the
password and a 16-byte random salt with `argon2.IDKey`, and writes
`$argon2id$v=19$m=65536,t=3,p=2$<salt>$<key>` with `fmt.Sprintf`, salt and key in
`RawStdEncoding`. `VerifyPassword` (lines 141–157) reads the parameters, the salt and the key
back with `decodeHash` (lines 228–272): `strings.Split` on `$`, `fmt.Sscanf` of the version and
of the three parameters, `DecodeString` of salt and key. It then derives a key again and compares
the two in constant time.

`argon2.IDKey` is not modelled: the functions take it as an argument, and the results hold for
every key derivation function that returns `keyLen` bytes, as `IDKey` does. A Go string is a
list of characters here; the password, which only `IDKey` reads, is its bytes.

Results:
* `split_append`, `sscanf_hashFields`: the string `HashPassword` writes splits into its six
  fields, because `RawStdEncoding` never writes `$`, and `Sscanf` reads back the numbers
  `Sprintf` printed.
* `decodeHash_sprintf`: `decodeHash` of the string `HashPassword` formats from a salt and a key
  returns the parameters, that salt and that key.
* `hashPassword_verifies`: with a 16-byte salt and a 32-byte key, `decodeHash` gives back
  65536, 3, 2, 16, 32, the salt and the key; and `VerifyPassword(p, HashPassword(p))` is
  `(true, nil)` for every password and every salt.
-/

namespace MicroCoin

namespace Auth

/-! ## `fmt` and `strings` -/

/-- An argument of `fmt.Sprintf`, of the kinds `HashPassword` passes. -/
inductive FmtArg
  | int (n : ℤ)
  | str (s : List Char)
  deriving DecidableEq, Repr

/-- `fmt.Sprintf(format, a...)` for the verbs `%d` with an integer (in decimal) and `%s` with a
    string; every other character of the format is copied. -/
def sprintf : List Char → List FmtArg → List Char
  | '%' :: 'd' :: format, .int n :: a => (toString n).toList ++ sprintf format a
  | '%' :: 's' :: format, .str s :: a => s ++ sprintf format a
  | c :: format, a => c :: sprintf format a
  | [], _ => []

/-- `strings.Split(s, sep)` for a one-character separator: the pieces between the separators,
    empty ones included. -/
def split (sep : Char) : List Char → List (List Char)
  | [] => [[]]
  | c :: s =>
    if c = sep then [] :: split sep s
    else
      match split sep s with
      | [] => [[c]]
      | w :: ws => (c :: w) :: ws

/-- Why `fmt.Sscanf` stopped. -/
inductive ScanError
  /-- `"input does not match format"` -/
  | inputDoesNotMatchFormat
  /-- `io.ErrUnexpectedEOF`: the input ended at a verb or at a character of the format
      (`mustReadRune` in `advance`). -/
  | unexpectedEOF
  /-- `"unexpected newline"` -/
  | unexpectedNewline
  /-- `"expected integer"` -/
  | expectedInteger
  /-- The `strconv.ErrRange` of `ParseInt(tok, 10, 64)`. -/
  | valueOutOfRange
  deriving DecidableEq, Repr

/-- `s.SkipSpace()` of `Sscanf`, where a newline is not a space. -/
def skipSpace : List Char → Except ScanError (List Char)
  | '\n' :: _ => .error .unexpectedNewline
  | c :: s => if c.isWhitespace then skipSpace s else .ok (c :: s)
  | [] => .ok []

/-- The value of a run of decimal digits. -/
def digitsValue (ds : List Char) : ℕ := ds.foldl (fun n c => 10 * n + (c.toNat - '0'.toNat)) 0

/-- `s.scanInt('d', 64)`: spaces, an optional sign, then as many decimal digits as there are,
    at least one, read by `strconv.ParseInt(tok, 10, 64)`. -/
def scanInt (input : List Char) : Except ScanError (ℤ × List Char) := do
  let input ← skipSpace input
  if input = [] then throw .unexpectedEOF
  let (neg, input) : Bool × List Char :=
    match input with
    | '+' :: r => (false, r)
    | '-' :: r => (true, r)
    | r => (false, r)
  if input = [] then throw .unexpectedEOF
  let (ds, rest) := input.span Char.isDigit
  if ds = [] then throw .expectedInteger
  let i : ℤ := if neg then -(digitsValue ds : ℤ) else digitsValue ds
  if i < -2 ^ 63 ∨ 2 ^ 63 ≤ i then throw .valueOutOfRange
  return (i, rest)

/-- `fmt.Sscanf(input, format, ...)` for formats of `%d` verbs and characters that are neither
    spaces nor newlines: each `%d` reads an integer, each other character must come next in the
    input. Input left over after the format is not looked at. -/
def sscanf : List Char → List Char → Except ScanError (List ℤ)
  | '%' :: 'd' :: format, input => do
    let (i, input) ← scanInt input
    return i :: (← sscanf format input)
  | c :: format, d :: input => if c = d then sscanf format input else .error .inputDoesNotMatchFormat
  | _ :: _, [] => .error .unexpectedEOF
  | [], _ => .ok []

/-! ## `HashPassword`, `decodeHash`, `VerifyPassword` -/

/-- `argon2.Version`. -/
def argon2Version : ℤ := 0x13

/-- The Argon2id settings (lines 97–102). -/
def memory : ℕ := 64 * 1024
def iterations : ℕ := 3
def parallelism : ℕ := 2
def saltLength : ℕ := 16
def keyLength : ℕ := 32

/-- The format of an encoded hash. -/
def hashFormat : List Char := "$argon2id$v=%d$m=%d,t=%d,p=%d$%s$%s".toList

/-- `Argon2idParams` (lines 112–119). -/
structure Argon2idParams where
  memory : UInt32
  iterations : UInt32
  parallelism : UInt8
  saltLength : UInt32
  keyLength : UInt32
  deriving DecidableEq, Repr

/-- The errors of `decodeHash`. -/
inductive HashError
  /-- `"invalid hash format"` -/
  | invalidHashFormat
  | scan (e : ScanError)
  /-- `"incompatible version"` -/
  | incompatibleVersion
  | corruptInput (e : Base64.CorruptInputError)
  deriving DecidableEq, Repr

/-- `uint32(i)` of a Go `int`: its low 32 bits. -/
def uint32 (i : ℤ) : UInt32 := UInt32.ofNat (i % 2 ^ 32).toNat

/-- `uint8(i)` of a Go `int`: its low 8 bits. -/
def uint8 (i : ℤ) : UInt8 := UInt8.ofNat (i % 2 ^ 8).toNat

/-- `decodeHash(encodedHash)` (lines 228–272). -/
def decodeHash (encodedHash : List Char) :
    Except HashError (Argon2idParams × List UInt8 × List UInt8) := do
  let parts := split '$' encodedHash
  if parts.length ≠ 6 ∨ parts.getD 0 [] ≠ [] ∨ parts.getD 1 [] ≠ "argon2id".toList then
    throw .invalidHashFormat
  let version := (← (sscanf "v=%d".toList (parts.getD 2 [])).mapError .scan).getD 0 0
  if version ≠ argon2Version then throw .incompatibleVersion
  let ps ← (sscanf "m=%d,t=%d,p=%d".toList (parts.getD 3 [])).mapError .scan
  let salt ← (Base64.decodeString (parts.getD 4 [])).mapError .corruptInput
  let hash ← (Base64.decodeString (parts.getD 5 [])).mapError .corruptInput
  return (⟨uint32 (ps.getD 0 0), uint32 (ps.getD 1 0), uint8 (ps.getD 2 0),
    UInt32.ofNat salt.length, UInt32.ofNat hash.length⟩, salt, hash)

/-- `subtle.ConstantTimeCompare(x, y)`: 1 when the slices are equal, 0 otherwise. -/
def constantTimeCompare (x y : List UInt8) : ℕ := if x = y then 1 else 0

section Argon2

-- `argon2.IDKey(password, salt, time, memory, threads, keyLen)`
variable (IDKey : List UInt8 → List UInt8 → UInt32 → UInt32 → UInt8 → UInt32 → List UInt8)

/-- `HashPassword(password)` (lines 121–139), `salt` being the `SaltLength` bytes
    `generateRandomBytes` read. -/
def hashPassword (password salt : List UInt8) : List Char :=
  let hash := IDKey password salt (UInt32.ofNat iterations) (UInt32.ofNat memory)
    (UInt8.ofNat parallelism) (UInt32.ofNat keyLength)
  let b64Salt := Base64.encodeToString salt
  let b64Hash := Base64.encodeToString hash
  sprintf hashFormat [.int argon2Version, .int memory, .int iterations, .int parallelism,
    .str b64Salt, .str b64Hash]

/-- `VerifyPassword(password, encodedHash)` (lines 141–157). -/
def verifyPassword (password : List UInt8) (encodedHash : List Char) : Except HashError Bool := do
  let (params, salt, hash) ← decodeHash encodedHash
  let otherHash := IDKey password salt params.iterations params.memory params.parallelism
    params.keyLength
  return constantTimeCompare hash otherHash = 1

end Argon2

/-! ## Reading back what was written -/

theorem split_of_not_mem {sep : Char} : ∀ {s : List Char}, sep ∉ s → split sep s = [s]
  | [], _ => rfl
  | c :: s, h => by
    rw [List.mem_cons, not_or] at h
    rw [split, if_neg (Ne.symm h.1), split_of_not_mem h.2]

/-- A piece without the separator, then the separator, split off first. -/
theorem split_append {sep : Char} {b : List Char} :
    ∀ {a : List Char}, sep ∉ a → split sep (a ++ sep :: b) = a :: split sep b
  | [], _ => by simp [split]
  | c :: a, h => by
    rw [List.mem_cons, not_or] at h
    rw [List.cons_append, split, if_neg (Ne.symm h.1), split_append h.2]

/-- What `HashPassword` prints: the fixed head, then the salt and the key. -/
theorem sprintf_hashFormat (s k : List Char) :
    sprintf hashFormat [.int argon2Version, .int memory, .int iterations, .int parallelism,
      .str s, .str k] =
      '$' :: ("argon2id".toList ++ '$' :: ("v=19".toList ++ '$' ::
        ("m=65536,t=3,p=2".toList ++ '$' :: (s ++ '$' :: k)))) := by
  simp [sprintf, hashFormat, argon2Version, memory, iterations, parallelism]
  rfl

/-- `Sscanf` reads back the numbers `Sprintf` printed. -/
theorem sscanf_hashFields :
    sscanf "v=%d".toList "v=19".toList = .ok [19] ∧
      sscanf "m=%d,t=%d,p=%d".toList "m=65536,t=3,p=2".toList = .ok [65536, 3, 2] :=
  ⟨rfl, rfl⟩

theorem dollar_not_mem_encodeToString (src : List UInt8) : '$' ∉ Base64.encodeToString src :=
  fun h => absurd (Base64.mem_encodeStd_of_mem_encodeToString h) (by decide)

/-- `decodeHash` of the string `HashPassword` formats from a salt and a key returns the
    parameters it printed, that salt and that key. -/
theorem decodeHash_sprintf (salt key : List UInt8) :
    decodeHash (sprintf hashFormat [.int argon2Version, .int memory, .int iterations,
      .int parallelism, .str (Base64.encodeToString salt), .str (Base64.encodeToString key)]) =
      .ok (⟨65536, 3, 2, UInt32.ofNat salt.length, UInt32.ofNat key.length⟩, salt, key) := by
  have hsplit : split '$' (sprintf hashFormat [.int argon2Version, .int memory, .int iterations,
      .int parallelism, .str (Base64.encodeToString salt), .str (Base64.encodeToString key)]) =
      [[], "argon2id".toList, "v=19".toList, "m=65536,t=3,p=2".toList,
        Base64.encodeToString salt, Base64.encodeToString key] := by
    rw [sprintf_hashFormat, ← List.nil_append ('$' :: _), split_append (List.not_mem_nil _),
      split_append (by decide), split_append (by decide), split_append (by decide),
      split_append (dollar_not_mem_encodeToString salt),
      split_of_not_mem (dollar_not_mem_encodeToString key)]
  simp only [decodeHash, hsplit, List.length_cons, List.length_nil, List.getD_cons_zero,
    List.getD_cons_succ, sscanf_hashFields, Base64.decodeString_encodeToString]
  rfl

section Argon2

variable {IDKey : List UInt8 → List UInt8 → UInt32 → UInt32 → UInt8 → UInt32 → List UInt8}

/-- A password verifies against its own hash: with a 16-byte salt and a 32-byte key, the hash
    `HashPassword` formats decodes to its parameters, salt and key; and for every password and
    every salt, `VerifyPassword(p, HashPassword(p))` is `(true, nil)`, for a key derivation
    function that returns `keyLen` bytes. -/
theorem hashPassword_verifies
    (hIDKey : ∀ p s t m th k, (IDKey p s t m th k).length = k.toNat) :
    (∀ salt key : List UInt8, salt.length = saltLength → key.length = keyLength →
      decodeHash (sprintf hashFormat [.int argon2Version, .int memory, .int iterations,
        .int parallelism, .str (Base64.encodeToString salt), .str (Base64.encodeToString key)]) =
        .ok (⟨65536, 3, 2, 16, 32⟩, salt, key)) ∧
    ∀ password salt : List UInt8,
      verifyPassword IDKey password (hashPassword IDKey password salt) = .ok true := by
  refine ⟨fun salt key hs hk => by rw [decodeHash_sprintf, hs, hk]; rfl, fun password salt => ?_⟩
  have hlen := hIDKey password salt (UInt32.ofNat iterations) (UInt32.ofNat memory)
    (UInt8.ofNat parallelism) (UInt32.ofNat keyLength)
  simp only [verifyPassword, hashPassword, decodeHash_sprintf, hlen]
  simp [constantTimeCompare]
  -- the parameters `decodeHash` read back are those `HashPassword` derived the key with
  rfl

end Argon2

/-- A key derivation function that returns `keyLen` zero bytes verifies a password against its
    hash. -/
theorem hashPassword_verifies_zeroKey :
    verifyPassword (fun _ _ _ _ _ k => List.replicate k.toNat 0) [112, 119]
      (hashPassword (fun _ _ _ _ _ k => List.replicate k.toNat 0) [112, 119]
        (List.replicate 16 7)) = .ok true :=
  (hashPassword_verifies fun _ _ _ _ _ _ => List.length_replicate _ _).2 _ _

end Auth

end MicroCoin
