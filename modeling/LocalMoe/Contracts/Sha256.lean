/-
  The standard library as CPython implements it.

  Theorems hold for every `Stdlib`.
-/
import LocalMoe.Contracts.VerifiedRouting

namespace LocalMoe.Contracts

namespace Sha256

/-- Addition of words. -/
def add (x y : Nat) : Nat := (x + y) % 2 ^ 32

/-- Rotation to the right. -/
def rotr (x n : Nat) : Nat := (x >>> n ||| x <<< (32 - n)) % 2 ^ 32

/-- Σ₀. -/
def upper0 (x : Nat) : Nat := rotr x 2 ^^^ rotr x 13 ^^^ rotr x 22

/-- Σ₁. -/
def upper1 (x : Nat) : Nat := rotr x 6 ^^^ rotr x 11 ^^^ rotr x 25

/-- σ₀. -/
def lower0 (x : Nat) : Nat := rotr x 7 ^^^ rotr x 18 ^^^ x >>> 3

/-- σ₁. -/
def lower1 (x : Nat) : Nat := rotr x 17 ^^^ rotr x 19 ^^^ x >>> 10

def choose (x y z : Nat) : Nat := (x &&& y) ^^^ ((2 ^ 32 - 1 - x) &&& z)

def majority (x y z : Nat) : Nat := (x &&& y) ^^^ (x &&& z) ^^^ (y &&& z)

def constants : List Nat :=
  [0x428a2f98, 0x71374491, 0xb5c0fbcf, 0xe9b5dba5, 0x3956c25b, 0x59f111f1, 0x923f82a4,
   0xab1c5ed5, 0xd807aa98, 0x12835b01, 0x243185be, 0x550c7dc3, 0x72be5d74, 0x80deb1fe,
   0x9bdc06a7, 0xc19bf174, 0xe49b69c1, 0xefbe4786, 0x0fc19dc6, 0x240ca1cc, 0x2de92c6f,
   0x4a7484aa, 0x5cb0a9dc, 0x76f988da, 0x983e5152, 0xa831c66d, 0xb00327c8, 0xbf597fc7,
   0xc6e00bf3, 0xd5a79147, 0x06ca6351, 0x14292967, 0x27b70a85, 0x2e1b2138, 0x4d2c6dfc,
   0x53380d13, 0x650a7354, 0x766a0abb, 0x81c2c92e, 0x92722c85, 0xa2bfe8a1, 0xa81a664b,
   0xc24b8b70, 0xc76c51a3, 0xd192e819, 0xd6990624, 0xf40e3585, 0x106aa070, 0x19a4c116,
   0x1e376c08, 0x2748774c, 0x34b0bcb5, 0x391c0cb3, 0x4ed8aa4a, 0x5b9cca4f, 0x682e6ff3,
   0x748f82ee, 0x78a5636f, 0x84c87814, 0x8cc70208, 0x90befffa, 0xa4506ceb, 0xbef9a3f7,
   0xc67178f2]

structure Chain where
  a : Nat
  b : Nat
  c : Nat
  d : Nat
  e : Nat
  f : Nat
  g : Nat
  h : Nat

def initial : Chain :=
  ⟨0x6a09e667, 0xbb67ae85, 0x3c6ef372, 0xa54ff53a, 0x510e527f, 0x9b05688c, 0x1f83d9ab,
   0x5be0cd19⟩

/-- The next word of the message schedule after a window of sixteen. -/
def nextWord (window : List Nat) : Nat :=
  add (add (lower1 (window.getD 14 0)) (window.getD 9 0))
    (add (lower0 (window.getD 1 0)) (window.getD 0 0))

/-- The message schedule from a window of sixteen words on. -/
def schedule : Nat → List Nat → List Nat
  | 0, _ => []
  | n + 1, window => window.headD 0 :: schedule n (window.tail ++ [nextWord window])

/-- One round with a constant and a schedule word. -/
def round (s : Chain) (kw : Nat × Nat) : Chain :=
  let t1 := add (add s.h (upper1 s.e)) (add (choose s.e s.f s.g) (add kw.1 kw.2))
  let t2 := add (upper0 s.a) (majority s.a s.b s.c)
  ⟨add t1 t2, s.a, s.b, s.c, add s.d t1, s.e, s.f, s.g⟩

/-- The compression of one block of sixteen words. -/
def compress (s : Chain) (block : List Nat) : Chain :=
  let r := (constants.zip (schedule 64 block)).foldl round s
  ⟨add s.a r.a, add s.b r.b, add s.c r.c, add s.d r.d, add s.e r.e, add s.f r.f,
    add s.g r.g, add s.h r.h⟩

/-- Bytes as big-endian words. -/
def words : List Nat → List Nat
  | a :: b :: c :: d :: rest => (((a * 256 + b) * 256 + c) * 256 + d) :: words rest
  | _ => []

/-- The padding of a message of this many bytes. -/
def padding (length : Nat) : List Nat :=
  let bits := length * 8
  128 :: List.replicate ((119 - length % 64) % 64) 0 ++
    [7, 6, 5, 4, 3, 2, 1, 0].map fun i => bits / 256 ^ i % 256

/-- Compression of the blocks of a padded message, given at least their number. -/
def blocks : Nat → Chain → List Nat → Chain
  | 0, s, _ => s
  | n + 1, s, message =>
    match message with
    | [] => s
    | _ => blocks n (compress s (message.take 16)) (message.drop 16)

def wordDigits (word : Nat) : List Char := hex4 (word / 65536) ++ hex4 (word % 65536)

def hexdigest (data : List UInt8) : String :=
  let bytes := data.map UInt8.toNat
  let message := words (bytes ++ padding bytes.length)
  let s := blocks message.length initial message
  String.ofList ([s.a, s.b, s.c, s.d, s.e, s.f, s.g, s.h].flatMap wordDigits)

theorem isLowerHex_hexDigit {n : Nat} (h : n < 16) : isLowerHex (hexDigit n) = true := by
  interval_cases n <;> decide

theorem wordDigits_length (word : Nat) : (wordDigits word).length = 8 := rfl

theorem isLowerHex_wordDigits (word : Nat) : (wordDigits word).all isLowerHex = true := by
  simp [wordDigits, hex4, isLowerHex_hexDigit, Nat.mod_lt]

theorem isSha256_hexdigest (data : List UInt8) : isSha256 (hexdigest data) = true := by
  simp [isSha256, hexdigest, wordDigits_length, isLowerHex_wordDigits, ← String.length_toList]

end Sha256

/-! ## Timestamps -/

/-- `datetime.fromisoformat` on the form `isoformat` writes for a UTC second, and on the
same with `Z`.  The other forms of ISO 8601 count as malformed here. -/
def parseUtcSecond (text : String) : ParsedTimestamp :=
  match DateTime.readUtc text with
  | some d => .utc d
  | none => .malformed

/-- The library the program runs with. -/
def Stdlib.cpython : Stdlib where
  sha256 := Sha256.hexdigest
  parseTimestamp := parseUtcSecond
  sha256_hex := Sha256.isSha256_hexdigest
  parseTimestamp_isoformat d := by
    unfold parseUtcSecond
    rw [DateTime.readUtc_isoformat]

example : Sha256.hexdigest [97, 98, 99] =
    "ba7816bf8f01cfea414140de5dae2223b00361a396177a9cb410ff61f20015ad" := by
  decide +kernel

end LocalMoe.Contracts
