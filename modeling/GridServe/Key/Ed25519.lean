import GridServe.Key.Pkcs8
import GridServe.Number.ModArith

/-!
Ed25519 private keys in PKCS #8 (algorithm 1.3.101.112). The private key is an OCTET STRING
holding a 32-byte seed. A version 1 key is taken without checks; a version 2 key carries its
public key, which must be the one the seed gives: the SHA-512 digest of the seed, its first half
clamped and read little-endian as a scalar, times the base point of the twisted Edwards curve
`-x² + y² = 1 + d·x²·y²` modulo `2^255 - 19`, written as `y` little-endian with the parity of
`x` in the top bit. The affine addition law is complete on this curve, so no case is special.

SHA-512 (FIPS 180-4) over bytes. The message is padded with a one bit, zeros and its length in
bits as a 128-bit big-endian number, to a multiple of 128 bytes; each block of sixteen
big-endian 64-bit words is expanded to eighty and mixed into the eight-word state by eighty
rounds. The digest is the final state, big-endian.
-/

namespace GridServe

namespace Sha512

/-- The round constants: the first 64 bits of the fractional parts of the cube roots of the
first eighty primes. -/
def roundConstants : Array UInt64 := #[
  0x428a2f98d728ae22, 0x7137449123ef65cd, 0xb5c0fbcfec4d3b2f,
  0xe9b5dba58189dbbc, 0x3956c25bf348b538, 0x59f111f1b605d019,
  0x923f82a4af194f9b, 0xab1c5ed5da6d8118, 0xd807aa98a3030242,
  0x12835b0145706fbe, 0x243185be4ee4b28c, 0x550c7dc3d5ffb4e2,
  0x72be5d74f27b896f, 0x80deb1fe3b1696b1, 0x9bdc06a725c71235,
  0xc19bf174cf692694, 0xe49b69c19ef14ad2, 0xefbe4786384f25e3,
  0x0fc19dc68b8cd5b5, 0x240ca1cc77ac9c65, 0x2de92c6f592b0275,
  0x4a7484aa6ea6e483, 0x5cb0a9dcbd41fbd4, 0x76f988da831153b5,
  0x983e5152ee66dfab, 0xa831c66d2db43210, 0xb00327c898fb213f,
  0xbf597fc7beef0ee4, 0xc6e00bf33da88fc2, 0xd5a79147930aa725,
  0x06ca6351e003826f, 0x142929670a0e6e70, 0x27b70a8546d22ffc,
  0x2e1b21385c26c926, 0x4d2c6dfc5ac42aed, 0x53380d139d95b3df,
  0x650a73548baf63de, 0x766a0abb3c77b2a8, 0x81c2c92e47edaee6,
  0x92722c851482353b, 0xa2bfe8a14cf10364, 0xa81a664bbc423001,
  0xc24b8b70d0f89791, 0xc76c51a30654be30, 0xd192e819d6ef5218,
  0xd69906245565a910, 0xf40e35855771202a, 0x106aa07032bbd1b8,
  0x19a4c116b8d2d0c8, 0x1e376c085141ab53, 0x2748774cdf8eeb99,
  0x34b0bcb5e19b48a8, 0x391c0cb3c5c95a63, 0x4ed8aa4ae3418acb,
  0x5b9cca4f7763e373, 0x682e6ff3d6b2b8a3, 0x748f82ee5defb2fc,
  0x78a5636f43172f60, 0x84c87814a1f0ab72, 0x8cc702081a6439ec,
  0x90befffa23631e28, 0xa4506cebde82bde9, 0xbef9a3f7b2c67915,
  0xc67178f2e372532b, 0xca273eceea26619c, 0xd186b8c721c0c207,
  0xeada7dd6cde0eb1e, 0xf57d4f7fee6ed178, 0x06f067aa72176fba,
  0x0a637dc5a2c898a6, 0x113f9804bef90dae, 0x1b710b35131c471b,
  0x28db77f523047d84, 0x32caab7b40c72493, 0x3c9ebe0a15c9bebc,
  0x431d67c49c100d4c, 0x4cc5d4becb3e42b6, 0x597f299cfc657e2a,
  0x5fcb6fab3ad6faec, 0x6c44198c4a475817]

def initialState : List UInt64 := [
  0x6a09e667f3bcc908, 0xbb67ae8584caa73b, 0x3c6ef372fe94f82b,
  0xa54ff53a5f1d36f1, 0x510e527fade682d1, 0x9b05688c2b3e6c1f,
  0x1f83d9abfb41bd6b, 0x5be0cd19137e2179]

def rotr (x : UInt64) (n : UInt64) : UInt64 := (x >>> n) ||| (x <<< (64 - n))

def smallSigma0 (x : UInt64) : UInt64 := rotr x 1 ^^^ rotr x 8 ^^^ (x >>> 7)
def smallSigma1 (x : UInt64) : UInt64 := rotr x 19 ^^^ rotr x 61 ^^^ (x >>> 6)
def bigSigma0 (x : UInt64) : UInt64 := rotr x 28 ^^^ rotr x 34 ^^^ rotr x 39
def bigSigma1 (x : UInt64) : UInt64 := rotr x 14 ^^^ rotr x 18 ^^^ rotr x 41

def wordOf (bytes : List UInt8) : UInt64 :=
  bytes.foldl (fun acc b => (acc <<< 8) ||| b.toUInt64) 0

def blockWords (block : List UInt8) : Array UInt64 :=
  ((List.range 16).map fun i => wordOf ((block.drop (8 * i)).take 8)).toArray

def schedule (block : List UInt8) : Array UInt64 :=
  (List.range 64).foldl (fun w i =>
    let t := i + 16
    w.push (smallSigma1 (w.getD (t - 2) 0) + w.getD (t - 7) 0 +
      smallSigma0 (w.getD (t - 15) 0) + w.getD (t - 16) 0)) (blockWords block)

structure Working where
  a : UInt64
  b : UInt64
  c : UInt64
  d : UInt64
  e : UInt64
  f : UInt64
  g : UInt64
  h : UInt64

def Working.round (v : Working) (k w : UInt64) : Working :=
  let choose := (v.e &&& v.f) ^^^ (~~~v.e &&& v.g)
  let majority := (v.a &&& v.b) ^^^ (v.a &&& v.c) ^^^ (v.b &&& v.c)
  let t1 := v.h + bigSigma1 v.e + choose + k + w
  let t2 := bigSigma0 v.a + majority
  ⟨t1 + t2, v.a, v.b, v.c, v.d + t1, v.e, v.f, v.g⟩

def compress (state : List UInt64) (block : List UInt8) : List UInt64 :=
  let w := schedule block
  let s := fun i => state.getD i 0
  let v := (List.range 80).foldl (fun v i => v.round (roundConstants.getD i 0) (w.getD i 0))
    (⟨s 0, s 1, s 2, s 3, s 4, s 5, s 6, s 7⟩ : Working)
  [s 0 + v.a, s 1 + v.b, s 2 + v.c, s 3 + v.d, s 4 + v.e, s 5 + v.f, s 6 + v.g, s 7 + v.h]

def padded (message : List UInt8) : List UInt8 :=
  let len := message.length
  let zeros := (239 - len % 128) % 128
  message ++ [0x80] ++ List.replicate zeros 0 ++
    (List.range 16).reverse.map fun i => UInt8.ofNat (8 * len / Nat.pow 256 i % 256)

def blocks : Nat → List UInt8 → List (List UInt8)
  | 0, _ => []
  | _, [] => []
  | fuel + 1, bytes => bytes.take 128 :: blocks fuel (bytes.drop 128)

def digest (message : List UInt8) : List UInt8 :=
  let input := padded message
  let state := (blocks input.length input).foldl compress initialState
  state.flatMap fun word => (List.range 8).reverse.map fun i => (word >>> (8 * i).toUInt64).toUInt8

end Sha512

namespace Ed25519

def prime : Nat := Nat.pow 2 255 - 19

/-- The curve constant `d = -121665 / 121666`. -/
def curveD : Nat := 37095705934669439343138083508754565189542113879843219016388785533085940283555

def base : Nat × Nat :=
  (15112221349535400772501151409588531511454012693041857206046113283949847762202,
    46316835694926478169428394003475163141307993866256225615783033603165251855960)

def add (p q : Nat × Nat) : Nat × Nat :=
  let (x1, y1) := p
  let (x2, y2) := q
  let t := curveD * (x1 * x2 % prime) % prime * (y1 * y2 % prime) % prime
  let x3 := (x1 * y2 + y1 * x2) % prime * ModArith.inverse prime ((1 + t) % prime) % prime
  let y3 := (y1 * y2 + x1 * x2) % prime * ModArith.inverse prime ((1 + prime - t) % prime) % prime
  (x3, y3)

def multiplyFrom (q : Nat × Nat) (k : Nat) : Nat → Nat × Nat → Nat × Nat
  | 0, acc => acc
  | bit + 1, acc =>
    let acc := add acc acc
    multiplyFrom q k bit (if k / Nat.pow 2 bit % 2 = 1 then add acc q else acc)

def multiply (k : Nat) (q : Nat × Nat) : Nat × Nat :=
  multiplyFrom q k (ModArith.bitLength k) (0, 1)

def scalarOf (seed : List UInt8) : Nat :=
  let half := ModArith.natOfLE ((Sha512.digest seed).take 32)
  half % Nat.pow 2 255 - half % 8 + (if half / Nat.pow 2 254 % 2 = 1 then 0 else Nat.pow 2 254)

def publicKey (seed : List UInt8) : List UInt8 :=
  let (x, y) := multiply (scalarOf seed) base
  ModArith.bytesLE 32 (y + (x % 2) * Nat.pow 2 255)

def algorithm : List UInt8 := [0x06, 0x03, 0x2B, 0x65, 0x70]

def accepts (bytes : List UInt8) : Bool :=
  match Pkcs8.unwrap algorithm true bytes with
  | some (key, pub) =>
    match Der.whole Der.octetStringTag key with
    | some seed => seed.length == 32 && pub.all (· == publicKey seed)
    | none => false
  | none => false

end Ed25519

end GridServe
