import GridServe.Key.Pkcs8
import GridServe.Number.ModArith

/-!
EC private keys on P-256 and P-384, as an ECPrivateKey (SEC 1) or one wrapped in PKCS #8. An
ECPrivateKey is a SEQUENCE of version 1, the private scalar as an OCTET STRING, optional curve
parameters `[0]` that must name the curve, and the public key `[1]`, which is required. The
scalar must have exactly the curve's size, lie between 1 and the order less one, and the public
key must be the one the scalar gives. A bare ECPrivateKey is read by wrapping it in PKCS #8
first, so the wrapping must stay within two-byte DER lengths.

The NIST prime curves P-256 and P-384, `y² = x³ + a·x + b` over the integers modulo a prime, and
the public key of a private scalar: the scalar times the curve's base point, written uncompressed
as `0x04`, then `x` and `y` big-endian in the curve's coordinate size. Points are affine; the
point at infinity is its own constructor. Division is by Fermat inverses, which is exact because
the field modulus is prime.
-/

namespace GridServe

namespace Curve

structure Params where
  prime : Nat
  a : Nat
  order : Nat
  baseX : Nat
  baseY : Nat
  size : Nat
  oid : List UInt8
  deriving Repr

def p256 : Params where
  prime := 0xffffffff00000001000000000000000000000000ffffffffffffffffffffffff
  a := 0xffffffff00000001000000000000000000000000fffffffffffffffffffffffc
  order := 0xffffffff00000000ffffffffffffffffbce6faada7179e84f3b9cac2fc632551
  baseX := 0x6b17d1f2e12c4247f8bce6e563a440f277037d812deb33a0f4a13945d898c296
  baseY := 0x4fe342e2fe1a7f9b8ee7eb4a7c0f9e162bce33576b315ececbb6406837bf51f5
  size := 32
  oid := [0x06, 0x08, 0x2A, 0x86, 0x48, 0xCE, 0x3D, 0x03, 0x01, 0x07]

def p384 : Params where
  prime := 0xfffffffffffffffffffffffffffffffffffffffffffffffffffffffffffffffeffffffff0000000000000000ffffffff
  a := 0xfffffffffffffffffffffffffffffffffffffffffffffffffffffffffffffffeffffffff0000000000000000fffffffc
  order := 0xffffffffffffffffffffffffffffffffffffffffffffffffc7634d81f4372ddf581a0db248b0a77aecec196accc52973
  baseX := 0xaa87ca22be8b05378eb1c71ef320ad746e1d3b628ba79b9859f741e082542a385502f25dbf55296c3a545e3872760ab7
  baseY := 0x3617de4a96262c6f5d9e98bf9292dc29f8f41dbd289a147ce9da3113b5f0b8c00a60b1ce1d7e819d7a431d7c90ea0e5f
  size := 48
  oid := [0x06, 0x05, 0x2B, 0x81, 0x04, 0x00, 0x22]

inductive Point where
  | infinity
  | affine (x y : Nat)
  deriving Repr, DecidableEq

def Params.double (c : Params) : Point → Point
  | .infinity => .infinity
  | .affine x y =>
    let p := c.prime
    if y % p = 0 then .infinity
    else
      let l := (3 * x * x + c.a) % p * ModArith.inverse p (2 * y % p) % p
      let x3 := (l * l % p + 2 * p - x - x) % p
      let y3 := (l * ((x + p - x3) % p) % p + p - y) % p
      .affine x3 y3

def Params.add (c : Params) : Point → Point → Point
  | .infinity, q => q
  | q, .infinity => q
  | .affine x1 y1, .affine x2 y2 =>
    let p := c.prime
    if x1 = x2 then
      if (y1 + y2) % p = 0 then .infinity else c.double (.affine x1 y1)
    else
      let l := (y2 + p - y1) % p * ModArith.inverse p ((x2 + p - x1) % p) % p
      let x3 := (l * l % p + 2 * p - x1 - x2) % p
      let y3 := (l * ((x1 + p - x3) % p) % p + p - y1) % p
      .affine x3 y3

/-- `acc` doubled once per remaining bit of `k` and plus `q` for each set bit, most significant
bit first; `bit` is the position of the next bit. -/
def Params.multiplyFrom (c : Params) (q : Point) (k : Nat) : Nat → Point → Point
  | 0, acc => acc
  | bit + 1, acc =>
    let acc := c.double acc
    c.multiplyFrom q k bit (if k / Nat.pow 2 bit % 2 = 1 then c.add acc q else acc)

def Params.multiply (c : Params) (k : Nat) (q : Point) : Point :=
  c.multiplyFrom q k (ModArith.bitLength k) .infinity

def Params.publicKey (c : Params) (d : Nat) : List UInt8 :=
  match c.multiply d (.affine c.baseX c.baseY) with
  | .affine x y => 0x04 :: ModArith.bytesBE c.size x ++ ModArith.bytesBE c.size y
  | .infinity => [0x00]

end Curve

namespace EcKey

open Curve

def algorithm (c : Params) : List UInt8 :=
  [0x06, 0x07, 0x2A, 0x86, 0x48, 0xCE, 0x3D, 0x02, 0x01] ++ c.oid

def fields (c : Params) (bytes : List UInt8) : Option (List UInt8 × List UInt8) := do
  let body ← Der.whole Der.sequenceTag bytes
  let (version, rest) ← Der.small body
  guard (version = 1)
  let (secret, rest) ← Der.expect Der.octetStringTag rest
  let rest ← match rest with
    | 0xA0 :: _ => do
      let (params, rest) ← Der.expect Der.context0Tag rest
      guard (params = c.oid)
      pure rest
    | _ => some rest
  let (outer, rest) ← Der.expect Der.context1Tag rest
  let (pub, inner) ← Der.bitString outer
  guard (inner.isEmpty ∧ rest.isEmpty)
  pure (secret, pub)

def pairOk (c : Params) (secret pub : List UInt8) : Bool :=
  let d := Der.natOf secret
  secret.length == c.size && 1 ≤ d && d < c.order && pub == c.publicKey d

def keyOk (c : Params) (bytes : List UInt8) : Bool :=
  (fields c bytes).any fun (secret, pub) => pairOk c secret pub

def lengthSize (n : Nat) : Nat :=
  if n < 0x80 then 1 else if n < 0x100 then 2 else if n < 0x10000 then 3 else 4

/-- A bare ECPrivateKey still has readable lengths once wrapped in PKCS #8: the wrapping adds the
version (3 bytes), the algorithm identifier and the OCTET STRING header. -/
def wrapFits (c : Params) (bytes : List UInt8) : Bool :=
  let octets := 1 + lengthSize bytes.length + bytes.length
  let alg := algorithm c
  3 + 1 + lengthSize alg.length + alg.length + octets < 0x10000

def acceptsOn (c : Params) (bytes : List UInt8) : Bool :=
  (Pkcs8.unwrap (algorithm c) false bytes).any (fun (key, _) => keyOk c key) ||
    (wrapFits c bytes && keyOk c bytes)

def accepts (bytes : List UInt8) : Bool :=
  acceptsOn p256 bytes || acceptsOn p384 bytes

end EcKey

end GridServe
