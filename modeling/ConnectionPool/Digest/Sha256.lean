/-! The SHA-256 digest of a sequence of bytes. -/
namespace ConnectionPool.Sha256

/-- The first 32 bits of the fractional parts of the cube roots of the first 64 primes. -/
def roundConstants : List UInt32 := [
  0x428a2f98, 0x71374491, 0xb5c0fbcf, 0xe9b5dba5, 0x3956c25b, 0x59f111f1, 0x923f82a4, 0xab1c5ed5,
  0xd807aa98, 0x12835b01, 0x243185be, 0x550c7dc3, 0x72be5d74, 0x80deb1fe, 0x9bdc06a7, 0xc19bf174,
  0xe49b69c1, 0xefbe4786, 0x0fc19dc6, 0x240ca1cc, 0x2de92c6f, 0x4a7484aa, 0x5cb0a9dc, 0x76f988da,
  0x983e5152, 0xa831c66d, 0xb00327c8, 0xbf597fc7, 0xc6e00bf3, 0xd5a79147, 0x06ca6351, 0x14292967,
  0x27b70a85, 0x2e1b2138, 0x4d2c6dfc, 0x53380d13, 0x650a7354, 0x766a0abb, 0x81c2c92e, 0x92722c85,
  0xa2bfe8a1, 0xa81a664b, 0xc24b8b70, 0xc76c51a3, 0xd192e819, 0xd6990624, 0xf40e3585, 0x106aa070,
  0x19a4c116, 0x1e376c08, 0x2748774c, 0x34b0bcb5, 0x391c0cb3, 0x4ed8aa4a, 0x5b9cca4f, 0x682e6ff3,
  0x748f82ee, 0x78a5636f, 0x84c87814, 0x8cc70208, 0x90befffa, 0xa4506ceb, 0xbef9a3f7, 0xc67178f2]

structure Words where
  a : UInt32
  b : UInt32
  c : UInt32
  d : UInt32
  e : UInt32
  f : UInt32
  g : UInt32
  h : UInt32
  deriving DecidableEq, Repr

/-- The first 32 bits of the fractional parts of the square roots of the first 8 primes. -/
def start : Words :=
  ⟨0x6a09e667, 0xbb67ae85, 0x3c6ef372, 0xa54ff53a, 0x510e527f, 0x9b05688c, 0x1f83d9ab, 0x5be0cd19⟩

def rotate (x n : UInt32) : UInt32 := x >>> n ||| x <<< (32 - n)

def step (s : Words) (k w : UInt32) : Words :=
  let high := rotate s.e 6 ^^^ rotate s.e 11 ^^^ rotate s.e 25
  let choice := (s.e &&& s.f) ^^^ (~~~s.e &&& s.g)
  let first := s.h + high + choice + k + w
  let low := rotate s.a 2 ^^^ rotate s.a 13 ^^^ rotate s.a 22
  let majority := (s.a &&& s.b) ^^^ (s.a &&& s.c) ^^^ (s.b &&& s.c)
  ⟨first + (low + majority), s.a, s.b, s.c, s.d + first, s.e, s.f, s.g⟩

def schedule : Nat → List UInt32 → List UInt32
  | 0, _ => []
  | n + 1, window =>
    let w0 := window.getD 0 0
    let w1 := window.getD 1 0
    let w9 := window.getD 9 0
    let w14 := window.getD 14 0
    let early := rotate w1 7 ^^^ rotate w1 18 ^^^ w1 >>> 3
    let late := rotate w14 17 ^^^ rotate w14 19 ^^^ w14 >>> 10
    w0 :: schedule n (window.drop 1 ++ [w0 + early + w9 + late])

def block (s : Words) (window : List UInt32) : Words :=
  let t := (roundConstants.zip (schedule 64 window)).foldl (fun t kw => step t kw.1 kw.2) s
  ⟨s.a + t.a, s.b + t.b, s.c + t.c, s.d + t.d, s.e + t.e, s.f + t.f, s.g + t.g, s.h + t.h⟩

def words : List UInt8 → List UInt32
  | a :: b :: c :: d :: rest =>
    (a.toUInt32 <<< 24 ||| b.toUInt32 <<< 16 ||| c.toUInt32 <<< 8 ||| d.toUInt32) :: words rest
  | _ => []

def bigEndian : Nat → Nat → List UInt8
  | 0, _ => []
  | n + 1, x => (x / Nat.pow 256 n % 256).toUInt8 :: bigEndian n x

def padded (message : List UInt8) : List UInt8 :=
  let length := message.length
  message ++ [0x80] ++ List.replicate ((119 - length % 64) % 64) 0 ++ bigEndian 8 (8 * length)

def blocks (s : Words) (ws : List UInt32) : Words :=
  if ws.isEmpty then s else blocks (block s (ws.take 16)) (ws.drop 16)
termination_by ws.length
decreasing_by
  have : ws ≠ [] := by simpa using ‹¬ws.isEmpty = true›
  have := List.length_pos_iff.2 this
  simp only [List.length_drop]
  omega

def digest (message : List UInt8) : Words := blocks start (words (padded message))

def Words.leading (s : Words) : UInt64 := s.a.toUInt64 <<< 32 ||| s.b.toUInt64

end ConnectionPool.Sha256
