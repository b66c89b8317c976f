import GridServe.Key.Pkcs8
import GridServe.Number.ModArith

/-!
RSA private keys, read from an RSAPrivateKey (PKCS #1) or from one wrapped in PKCS #8, and
checked for consistency the way a signer that trusts no key checks them. The modulus must have
between 2041 and 4096 bits and be odd; the public exponent must be odd and between 65537 and
`2^33 - 1`. The primes, taken larger first, must each have half the modulus's bits (rounded up),
a multiple of 512, and their product must be a multiple of the modulus. The private exponent
must be odd, below the modulus and longer than half of it; each CRT exponent must be odd and
below its prime; the coefficient must be the inverse of the smaller prime modulo the larger.
When the primes are stored smaller first, the coefficient is not read but recomputed by
Fermat's little theorem, so the check then also tests that the larger prime behaves as a prime.
-/

namespace GridServe

namespace RsaKey

structure Components where
  modulus : Nat
  publicExponent : Nat
  privateExponent : Nat
  prime1 : Nat
  prime2 : Nat
  exponent1 : Nat
  exponent2 : Nat
  coefficient : Nat
  deriving Repr, DecidableEq

/-- The fields of an RSAPrivateKey: version 0, then eight positive integers and nothing more. -/
def fields (bytes : List UInt8) : Option Components := do
  let (version, rest) ← Der.small bytes
  guard (version = 0)
  let (n, rest) ← Der.positive rest
  let (e, rest) ← Der.positive rest
  let (d, rest) ← Der.positive rest
  let (p, rest) ← Der.positive rest
  let (q, rest) ← Der.positive rest
  let (dP, rest) ← Der.positive rest
  let (dQ, rest) ← Der.positive rest
  let (qInv, rest) ← Der.positive rest
  guard rest.isEmpty
  pure ⟨n, e, d, p, q, dP, dQ, qInv⟩

def parse (bytes : List UInt8) : Option Components :=
  (Der.whole Der.sequenceTag bytes).bind fields

/-- The contents of the algorithm identifier of RSA keys: the object identifier
1.2.840.113549.1.1.1 and a NULL. -/
def algorithm : List UInt8 :=
  [0x06, 0x09, 0x2A, 0x86, 0x48, 0x86, 0xF7, 0x0D, 0x01, 0x01, 0x01, 0x05, 0x00]

def parseWrapped (bytes : List UInt8) : Option Components :=
  (Pkcs8.unwrap algorithm false bytes).bind fun (key, _) => parse key

open ModArith

def publicOk (n e : Nat) : Bool :=
  n % 2 == 1 && Nat.pow 2 2040 ≤ n && bitLength n ≤ 4096 &&
    e % 2 == 1 && 65537 ≤ e && e < Nat.pow 2 33

def primeOk (p dP : Nat) : Bool :=
  p % 2 == 1 && 3 ≤ p && bitLength p % 512 == 0 && dP < p && dP % 2 == 1

def Components.consistent (k : Components) : Bool :=
  let swapped := !(k.prime2 < k.prime1)
  let p := if swapped then k.prime2 else k.prime1
  let q := if swapped then k.prime1 else k.prime2
  let dP := if swapped then k.exponent2 else k.exponent1
  let dQ := if swapped then k.exponent1 else k.exponent2
  let n := k.modulus
  let d := k.privateExponent
  let half := (bitLength n + 1) / 2
  let qInv := if swapped then inverse p q else k.coefficient
  let qq := q * q % n
  publicOk n k.publicExponent &&
    bitLength p == half && bitLength q == half && p < n && q < n && p * q % n == 0 &&
    half < bitLength d && d < n && d % 2 == 1 &&
    primeOk p dP && primeOk q dQ &&
    qInv < p && qInv * q % p == 1 &&
    qq % 2 == 1 && 3 ≤ qq

def accepts (bytes : List UInt8) : Bool :=
  (parse bytes).any Components.consistent || (parseWrapped bytes).any Components.consistent

end RsaKey

end GridServe
