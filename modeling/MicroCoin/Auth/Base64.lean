import Mathlib.Data.UInt
import Mathlib.Data.List.GetD

/-!
# `encoding/base64`: `RawStdEncoding`

`HashPassword` writes the salt and the key with `base64.RawStdEncoding.EncodeToString`, and
`decodeHash` reads them back with `DecodeString`. `RawStdEncoding` is the standard alphabet
`A–Z a–z 0–9 + /` with no padding: every 3 bytes become 4 characters, a last 1 or 2 bytes
become 2 or 3 characters. `Decode` reads quanta of 4 characters, skipping `\n` and `\r`; a
character outside the alphabet, `=` included, or a last quantum of one character, is a
`CorruptInputError`. `RawStdEncoding` is not `Strict`: the unused low bits of a last quantum are
not checked.

Results:
* `decodeString_encodeToString`: decoding what was encoded gives the bytes back.
* `mem_encodeStd_of_mem_encodeToString`: an encoding uses only the alphabet, so in particular
  never `$`.
-/

namespace MicroCoin

namespace Base64

/-- `encodeStd`, the alphabet of `StdEncoding` and `RawStdEncoding`. -/
def encodeStd : List Char :=
  "ABCDEFGHIJKLMNOPQRSTUVWXYZabcdefghijklmnopqrstuvwxyz0123456789+/".toList

/-- `enc.encode[i]`, for `i < 64`. -/
def encodeChar (i : ℕ) : Char := encodeStd.getD i 'A'

/-- `enc.decodeMap[c]`: the position of `c` in the alphabet; `none` stands for the `0xFF`
    entries. -/
def decodeMap (c : Char) : Option ℕ := encodeStd.indexOf? c

/-- `RawStdEncoding.EncodeToString(src)` (`Encode`):
    `val := uint(src[si+0])<<16 | uint(src[si+1])<<8 | uint(src[si+2])`, then
    `enc.encode[val>>18&0x3F]`, `enc.encode[val>>12&0x3F]`, `enc.encode[val>>6&0x3F]`,
    `enc.encode[val&0x3F]`; the last one or two bytes give the first two or three of these, and
    no padding. The shifts and masks are written as divisions and remainders. -/
def encodeToString : List UInt8 → List Char
  | b0 :: b1 :: b2 :: src =>
    let val := b0.toNat * 2 ^ 16 + b1.toNat * 2 ^ 8 + b2.toNat
    [val / 2 ^ 18 % 64, val / 2 ^ 12 % 64, val / 2 ^ 6 % 64, val % 64].map encodeChar ++
      encodeToString src
  | [b0, b1] =>
    let val := b0.toNat * 2 ^ 16 + b1.toNat * 2 ^ 8
    [val / 2 ^ 18 % 64, val / 2 ^ 12 % 64, val / 2 ^ 6 % 64].map encodeChar
  | [b0] =>
    let val := b0.toNat * 2 ^ 16
    [val / 2 ^ 18 % 64, val / 2 ^ 12 % 64].map encodeChar
  | [] => []

/-- `CorruptInputError`: the offset of the input where decoding failed. -/
structure CorruptInputError where
  offset : ℕ
  deriving DecidableEq, Repr

/-- The bytes of a quantum of `dlen = dbuf.length` sextets, `2 ≤ dlen ≤ 4` (`decodeQuantum`):
    `val := uint(dbuf[0])<<18 | uint(dbuf[1])<<12 | uint(dbuf[2])<<6 | uint(dbuf[3])`, then
    `byte(val>>16)`, `byte(val>>8)`, `byte(val>>0)`, of which the first `dlen - 1`. -/
def quantumBytes (dbuf : List ℕ) : List UInt8 :=
  let val := dbuf.getD 0 0 * 2 ^ 18 + dbuf.getD 1 0 * 2 ^ 12 + dbuf.getD 2 0 * 2 ^ 6 +
    dbuf.getD 3 0
  ([val / 2 ^ 16 % 256, val / 2 ^ 8 % 256, val % 256].take (dbuf.length - 1)).map UInt8.ofNat

/-- `enc.Decode` from the offset `si` of the input, `dbuf` holding the sextets of the quantum
    read so far: a full quantum gives 3 bytes; `\n` and `\r` are skipped; any other character
    outside the alphabet is corrupt; at the end, a quantum of 2 or 3 sextets gives 1 or 2 bytes
    and one of a single sextet is corrupt (`CorruptInputError(si - j)`). -/
def decode (si : ℕ) (dbuf : List ℕ) : List Char → Except CorruptInputError (List UInt8)
  | [] =>
    match dbuf with
    | [] => .ok []
    | [_] => .error ⟨si - 1⟩
    | _ => .ok (quantumBytes dbuf)
  | c :: src =>
    match decodeMap c with
    | some v =>
      if dbuf.length = 3 then (quantumBytes (dbuf ++ [v]) ++ ·) <$> decode (si + 1) [] src
      else decode (si + 1) (dbuf ++ [v]) src
    | none => if c = '\n' ∨ c = '\r' then decode (si + 1) dbuf src else .error ⟨si⟩

/-- `RawStdEncoding.DecodeString(s)`. -/
def decodeString (s : List Char) : Except CorruptInputError (List UInt8) := decode 0 [] s

/-! ## The round trip -/

/-- The alphabet has no repeated character: a position reads back as itself. -/
theorem decodeMap_encodeChar {i : ℕ} (h : i < 64) : decodeMap (encodeChar i) = some i := by
  have key : ∀ j : Fin 64, decodeMap (encodeChar j) = some j := by decide
  exact key ⟨i, h⟩

/-- A byte is the value it was read from: `byte(x)` of a value `x` whose low byte is `b`. -/
theorem ofNat_eq {x : ℕ} {b : UInt8} (h : x % 256 = b.toNat) : UInt8.ofNat x = b := by
  apply UInt8.eq_of_toBitVec_eq
  apply BitVec.eq_of_toNat_eq
  simpa [UInt8.ofNat, UInt8.toNat] using h

/-- Four characters of the alphabet make one quantum. -/
theorem decode_quantum (si : ℕ) (s0 s1 s2 s3 : ℕ) (h0 : s0 < 64) (h1 : s1 < 64) (h2 : s2 < 64)
    (h3 : s3 < 64) (src : List Char) :
    decode si [] ([s0, s1, s2, s3].map encodeChar ++ src) =
      (quantumBytes [s0, s1, s2, s3] ++ ·) <$> decode (si + 4) [] src := by
  simp [decode, decodeMap_encodeChar, h0, h1, h2, h3, Nat.add_assoc]

theorem decode_encodeToString (si : ℕ) (src : List UInt8) :
    decode si [] (encodeToString src) = .ok src := by
  induction src using encodeToString.induct generalizing si with
  | case1 b0 b1 b2 src ih =>
    have hb0 : b0.toNat < 256 := b0.toNat_lt_size
    have hb1 : b1.toNat < 256 := b1.toNat_lt_size
    have hb2 : b2.toNat < 256 := b2.toNat_lt_size
    rw [encodeToString, decode_quantum _ _ _ _ _ (Nat.mod_lt _ (by decide))
      (Nat.mod_lt _ (by decide)) (Nat.mod_lt _ (by decide)) (Nat.mod_lt _ (by decide)), ih]
    simp only [quantumBytes, List.getD_cons_zero, List.getD_cons_succ, List.length_cons,
      List.length_nil, List.take, List.map_cons, List.map_nil, Except.map_ok, List.cons_append,
      List.nil_append]
    rw [@ofNat_eq _ b0 (by omega), @ofNat_eq _ b1 (by omega), @ofNat_eq _ b2 (by omega)]
  | case2 b0 b1 =>
    have hb0 : b0.toNat < 256 := b0.toNat_lt_size
    have hb1 : b1.toNat < 256 := b1.toNat_lt_size
    simp [encodeToString, decode, decodeMap_encodeChar, Nat.mod_lt, quantumBytes]
    exact ⟨ofNat_eq (by omega), ofNat_eq (by omega)⟩
  | case3 b0 =>
    have hb0 : b0.toNat < 256 := b0.toNat_lt_size
    simp [encodeToString, decode, decodeMap_encodeChar, Nat.mod_lt, quantumBytes]
    exact ofNat_eq (by omega)
  | case4 => rfl

/-- Decoding what `EncodeToString` wrote gives the bytes back. -/
theorem decodeString_encodeToString (src : List UInt8) :
    decodeString (encodeToString src) = .ok src :=
  decode_encodeToString 0 src

theorem encodeChar_mem {i : ℕ} (h : i < 64) : encodeChar i ∈ encodeStd := by
  rw [encodeChar, List.getD_eq_getElem encodeStd 'A' (by simpa [encodeStd] using h)]
  exact List.getElem_mem _

/-- An encoding uses only the alphabet. -/
theorem mem_encodeStd_of_mem_encodeToString {c : Char} :
    ∀ {src : List UInt8}, c ∈ encodeToString src → c ∈ encodeStd := by
  intro src
  induction src using encodeToString.induct with
  | case1 b0 b1 b2 src ih =>
    simp only [encodeToString, List.map_cons, List.map_nil, List.cons_append, List.nil_append,
      List.mem_cons]
    rintro (rfl | rfl | rfl | rfl | h)
    all_goals first | exact encodeChar_mem (Nat.mod_lt _ (by decide)) | exact ih h
  | case2 b0 b1 =>
    simp only [encodeToString, List.map_cons, List.map_nil, List.mem_cons,
      List.not_mem_nil, or_false]
    rintro (rfl | rfl | rfl) <;> exact encodeChar_mem (Nat.mod_lt _ (by decide))
  | case3 b0 =>
    simp only [encodeToString, List.map_cons, List.map_nil, List.mem_cons,
      List.not_mem_nil, or_false]
    rintro (rfl | rfl) <;> exact encodeChar_mem (Nat.mod_lt _ (by decide))
  | case4 => simp [encodeToString]

end Base64

end MicroCoin
