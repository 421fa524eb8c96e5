import Mathlib.Algebra.GroupWithZero.Nat
import Mathlib.Data.Nat.Notation

/-!
# Digests

SHA-256 and HMAC over lists of bytes, and their hexadecimal text.
-/

namespace Digest

/-! ### SHA-256 -/

/-- The round constants. -/
def roundConstants : List UInt32 :=
  [0x428a2f98, 0x71374491, 0xb5c0fbcf, 0xe9b5dba5, 0x3956c25b, 0x59f111f1,
    0x923f82a4, 0xab1c5ed5, 0xd807aa98, 0x12835b01, 0x243185be, 0x550c7dc3,
    0x72be5d74, 0x80deb1fe, 0x9bdc06a7, 0xc19bf174, 0xe49b69c1, 0xefbe4786,
    0x0fc19dc6, 0x240ca1cc, 0x2de92c6f, 0x4a7484aa, 0x5cb0a9dc, 0x76f988da,
    0x983e5152, 0xa831c66d, 0xb00327c8, 0xbf597fc7, 0xc6e00bf3, 0xd5a79147,
    0x06ca6351, 0x14292967, 0x27b70a85, 0x2e1b2138, 0x4d2c6dfc, 0x53380d13,
    0x650a7354, 0x766a0abb, 0x81c2c92e, 0x92722c85, 0xa2bfe8a1, 0xa81a664b,
    0xc24b8b70, 0xc76c51a3, 0xd192e819, 0xd6990624, 0xf40e3585, 0x106aa070,
    0x19a4c116, 0x1e376c08, 0x2748774c, 0x34b0bcb5, 0x391c0cb3, 0x4ed8aa4a,
    0x5b9cca4f, 0x682e6ff3, 0x748f82ee, 0x78a5636f, 0x84c87814, 0x8cc70208,
    0x90befffa, 0xa4506ceb, 0xbef9a3f7, 0xc67178f2]

/-- The eight words of the hash value. -/
structure Words where
  a : UInt32
  b : UInt32
  c : UInt32
  d : UInt32
  e : UInt32
  f : UInt32
  g : UInt32
  h : UInt32

/-- The initial hash value. -/
def initial : Words :=
  ⟨0x6a09e667, 0xbb67ae85, 0x3c6ef372, 0xa54ff53a,
    0x510e527f, 0x9b05688c, 0x1f83d9ab, 0x5be0cd19⟩

def rotateRight (word count : UInt32) : UInt32 :=
  (word >>> count) ||| (word <<< (32 - count))

/-- The message schedule, newest word first, with `count` words to go. -/
def schedule : ℕ → List UInt32 → List UInt32
  | 0, words => words
  | count + 1, words =>
      let recent := words.getD 1 0
      let old := words.getD 14 0
      let mixedRecent := rotateRight recent 17 ^^^ rotateRight recent 19 ^^^ (recent >>> 10)
      let mixedOld := rotateRight old 7 ^^^ rotateRight old 18 ^^^ (old >>> 3)
      schedule count ((mixedRecent + words.getD 6 0 + mixedOld + words.getD 15 0) :: words)

/-- One round with its constant and its word of the schedule. -/
def round (words : Words) (constant word : UInt32) : Words :=
  let choice := (words.e &&& words.f) ^^^ (~~~words.e &&& words.g)
  let majority := (words.a &&& words.b) ^^^ (words.a &&& words.c) ^^^ (words.b &&& words.c)
  let sumE := rotateRight words.e 6 ^^^ rotateRight words.e 11 ^^^ rotateRight words.e 25
  let sumA := rotateRight words.a 2 ^^^ rotateRight words.a 13 ^^^ rotateRight words.a 22
  let first := words.h + sumE + choice + constant + word
  ⟨first + (sumA + majority), words.a, words.b, words.c, words.d + first, words.e, words.f,
    words.g⟩

/-- The big-endian word of four bytes. -/
def wordOfBytes (bytes : List UInt8) : UInt32 :=
  bytes.foldl (fun word byte => (word <<< 8) ||| byte.toUInt32) 0

/-- The big-endian bytes of a number. -/
def bytesOf (width value : ℕ) : List UInt8 :=
  (List.range width).map fun place => UInt8.ofNat (value / 256 ^ (width - 1 - place))

/-- The part of the bytes at a place of parts of the same size. -/
def part (size : ℕ) (bytes : List UInt8) (place : ℕ) : List UInt8 :=
  (bytes.drop (size * place)).take size

/-- The compression of one block of 64 bytes. -/
def compress (words : Words) (block : List UInt8) : Words :=
  let message := (List.range 16).map fun place => wordOfBytes (part 4 block place)
  let rounds := roundConstants.zip (schedule 48 message.reverse).reverse
  let mixed := rounds.foldl (fun words (constant, word) => round words constant word) words
  ⟨words.a + mixed.a, words.b + mixed.b, words.c + mixed.c, words.d + mixed.d,
    words.e + mixed.e, words.f + mixed.f, words.g + mixed.g, words.h + mixed.h⟩

/-- The message with its padding, a multiple of 64 bytes. -/
def padded (message : List UInt8) : List UInt8 :=
  message ++ 0x80 :: List.replicate ((119 - message.length % 64) % 64) 0 ++
    bytesOf 8 (8 * message.length)

/-- `hashlib.sha256(message).digest()`. -/
def sha256 (message : List UInt8) : List UInt8 :=
  let blocks := padded message
  let words := (List.range (blocks.length / 64)).foldl
    (fun words place => compress words (part 64 blocks place)) initial
  [words.a, words.b, words.c, words.d, words.e, words.f, words.g, words.h].flatMap
    fun word => bytesOf 4 word.toNat

theorem length_bytesOf (width value : ℕ) : (bytesOf width value).length = width := by
  simp [bytesOf]

theorem length_sha256 (message : List UInt8) : (sha256 message).length = 32 := by
  simp [sha256, length_bytesOf]

/-! ### HMAC -/

/-- `hmac.new(key, message, digestmod="sha256").digest()`. -/
def hmac (key message : List UInt8) : List UInt8 :=
  let short := if 64 < key.length then sha256 key else key
  let block := short ++ List.replicate (64 - short.length) 0
  sha256 (block.map (· ^^^ 0x5c) ++ sha256 (block.map (· ^^^ 0x36) ++ message))

/-! ### Text -/

/-- The two digits of a byte. -/
def hexOfByte (byte : UInt8) : List Char :=
  [Nat.digitChar (byte.toNat / 16), Nat.digitChar (byte.toNat % 16)]

/-- `bytes.hex()`. -/
def hex (bytes : List UInt8) : String := String.ofList (bytes.flatMap hexOfByte)

/-- The alphabet of base 64. -/
def base64Alphabet : List Char :=
  "ABCDEFGHIJKLMNOPQRSTUVWXYZabcdefghijklmnopqrstuvwxyz0123456789+/".toList

/-- The letter of a six-bit number. -/
def base64Letter (value : ℕ) : Char := base64Alphabet.getD value '='

/-- `base64.b64encode(bytes).decode("ascii")`, without the padding. -/
def base64 : List UInt8 → List Char
  | [] => []
  | [first] =>
      [base64Letter (first.toNat / 4), base64Letter (first.toNat % 4 * 16)]
  | [first, second] =>
      [base64Letter (first.toNat / 4),
        base64Letter (first.toNat % 4 * 16 + second.toNat / 16),
        base64Letter (second.toNat % 16 * 4)]
  | first :: second :: third :: rest =>
      base64Letter (first.toNat / 4) ::
        base64Letter (first.toNat % 4 * 16 + second.toNat / 16) ::
        base64Letter (second.toNat % 16 * 4 + third.toNat / 64) ::
        base64Letter (third.toNat % 64) :: base64 rest

/-- `text.isascii()`. -/
def isAscii (text : String) : Bool := text.toList.all (·.toNat < 128)

theorem length_hex (bytes : List UInt8) : (hex bytes).toList.length = 2 * bytes.length := by
  induction bytes with
  | nil => rfl
  | cons byte rest ih =>
      simp only [hex, String.toList_ofList, List.flatMap_cons, List.length_append,
        List.length_cons] at ih ⊢
      rw [ih]
      simp only [hexOfByte, List.length_cons, List.length_nil]
      omega

theorem toNat_digitChar : ∀ digit < 16, (Nat.digitChar digit).toNat < 128 := by
  decide

/-- A hexadecimal text is ASCII. -/
theorem isAscii_hex (bytes : List UInt8) : isAscii (hex bytes) = true := by
  rw [isAscii, hex, String.toList_ofList, List.all_eq_true]
  intro letter letterMem
  rcases List.mem_flatMap.mp letterMem with ⟨byte, _, digitMem⟩
  have bound := byte.toNat_lt
  simp only [hexOfByte, List.mem_cons, List.not_mem_nil, or_false] at digitMem
  rcases digitMem with rfl | rfl
  · have digit : byte.toNat / 16 < 16 := by omega
    exact decide_eq_true (toNat_digitChar _ digit)
  · have digit : byte.toNat % 16 < 16 := by omega
    exact decide_eq_true (toNat_digitChar _ digit)

end Digest
