import LayerPress.Text.Utf8
import LayerPress.Uuid.Basic

/-!
# Identifiers made from names

A name within a namespace has one identifier of version five: the first sixteen bytes of the
SHA-1 digest of the namespace followed by the name, with the version and variant bits set.
-/

namespace LayerPress.Uuid

/-- A chaining value of the digest. -/
structure Digest where
  a : UInt32
  b : UInt32
  c : UInt32
  d : UInt32
  e : UInt32

/-- A word turned left. -/
def rotate (w : UInt32) (n : UInt32) : UInt32 :=
  (w <<< n) ||| (w >>> (32 - n))

/-- The word of four bytes, most significant first. -/
def wordOf : List UInt8 → UInt32
  | [p, q, r, s] => (p.toUInt32 <<< 24) ||| (q.toUInt32 <<< 16) ||| (r.toUInt32 <<< 8) ||| s.toUInt32
  | _ => 0

/-- The bytes of a word, most significant first. -/
def bytesOf (w : UInt32) : List UInt8 :=
  [(w >>> 24).toUInt8, (w >>> 16).toUInt8, (w >>> 8).toUInt8, w.toUInt8]

/-- A list cut into pieces of one length, as many as asked for. -/
def pieces {α : Type} (size : Nat) : Nat → List α → List (List α)
  | 0, _ => []
  | count + 1, xs => xs.take size :: pieces size count (xs.drop size)

/-- The message schedule: each further word mixes four earlier ones. -/
def schedule : Nat → List UInt32 → List UInt32
  | 0, ws => ws
  | more + 1, ws =>
    let back (n : Nat) : UInt32 := ws.getD (ws.length - n) 0
    schedule more (ws ++ [rotate (back 3 ^^^ back 8 ^^^ back 14 ^^^ back 16) 1])

/-- One round on a word of the schedule. -/
def round (h : Digest) (t : Nat) (w : UInt32) : Digest :=
  let (f, k) :=
    if t < 20 then ((h.b &&& h.c) ||| (~~~ h.b &&& h.d), (0x5a827999 : UInt32))
    else if t < 40 then (h.b ^^^ h.c ^^^ h.d, 0x6ed9eba1)
    else if t < 60 then ((h.b &&& h.c) ||| (h.b &&& h.d) ||| (h.c &&& h.d), 0x8f1bbcdc)
    else (h.b ^^^ h.c ^^^ h.d, 0xca62c1d6)
  ⟨rotate h.a 5 + f + h.e + k + w, h.a, rotate h.b 30, h.c, h.d⟩

/-- The chaining value after one block of sixty-four bytes. -/
def compress (h : Digest) (block : List UInt8) : Digest :=
  let words := schedule 64 ((pieces 4 16 block).map wordOf)
  let r := words.zipIdx.foldl (fun acc (w, t) => round acc t w) h
  ⟨h.a + r.a, h.b + r.b, h.c + r.c, h.d + r.d, h.e + r.e⟩

/-- The message with its padding and its length in bits, a whole number of blocks. -/
def padded (message : List UInt8) : List UInt8 :=
  let zeros := (119 - message.length % 64) % 64
  let bits := message.length * 8
  message ++ 0x80 :: List.replicate zeros 0 ++
    bytesOf (UInt32.ofNat (bits / UInt32.size)) ++ bytesOf (UInt32.ofNat bits)

/-- The SHA-1 digest of a message. -/
def sha1 (message : List UInt8) : List UInt8 :=
  let p := padded message
  let start : Digest := ⟨0x67452301, 0xefcdab89, 0x98badcfe, 0x10325476, 0xc3d2e1f0⟩
  let h := (pieces 64 (p.length / 64) p).foldl compress start
  bytesOf h.a ++ bytesOf h.b ++ bytesOf h.c ++ bytesOf h.d ++ bytesOf h.e

/-- The bytes of an identifier, most significant first. -/
def bytes (u : Uuid) : List UInt8 :=
  (List.range 16).map fun i => UInt8.ofNat (u.bits.toNat / Nat.pow 256 (15 - i))

/-- The identifier of sixteen bytes, most significant first. -/
def ofBytes (bs : List UInt8) : Uuid :=
  ofNat (bs.foldl (fun n b => n * 256 + b.toNat) 0)

/-- The byte at a place, with some of its bits replaced by a mark. -/
def stamp (bs : List UInt8) (place : Nat) (keep mark : UInt8) : List UInt8 :=
  bs.set place ((bs.getD place 0 &&& keep) ||| mark)

/-- The identifier of a name within a namespace. -/
def named (space : Uuid) (name : String) : Uuid :=
  let digest := (sha1 (space.bytes ++ Text.Utf8.encode name)).take 16
  ofBytes (stamp (stamp digest 6 0x0f 0x50) 8 0x3f 0x80)

end LayerPress.Uuid
