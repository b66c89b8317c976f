namespace GridServe

namespace ModArith

def bitLength (n : Nat) : Nat := if n = 0 then 0 else n.log2 + 1

/-- `acc * base ^ exp % m`, one squaring per bit of the exponent; `fuel` bounds the bits. -/
def powFrom (m : Nat) : Nat → Nat → Nat → Nat → Nat
  | 0, _, _, acc => acc
  | fuel + 1, base, exp, acc =>
    powFrom m fuel (base * base % m) (exp / 2) (if exp % 2 = 1 then acc * base % m else acc)

def pow (m base exp : Nat) : Nat := powFrom m (bitLength exp) (base % m) exp (1 % m)

def inverse (p v : Nat) : Nat := pow p v (p - 2)

/-- The big-endian bytes of a number, in exactly `size` bytes (higher bytes are dropped). -/
def bytesBE (size n : Nat) : List UInt8 :=
  (List.range size).reverse.map fun i => UInt8.ofNat (n / Nat.pow 256 i % 256)

def bytesLE (size n : Nat) : List UInt8 :=
  (List.range size).map fun i => UInt8.ofNat (n / Nat.pow 256 i % 256)

def natOfLE (bytes : List UInt8) : Nat := bytes.foldr (fun b acc => acc * 256 + b.toNat) 0

end ModArith

end GridServe
