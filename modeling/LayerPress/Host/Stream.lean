import LayerPress.Text.Utf8

/-!
# Streams

The bytes that go through a program's input and output. A stream either ends or repeats some
bytes for ever after it; only a beginning of the second kind can be used.
-/

namespace LayerPress.Host

/-- Bytes, followed by a repetition unless that is empty. -/
structure Stream where
  front : List UInt8
  cycle : List UInt8
  deriving DecidableEq, Repr, Inhabited

namespace Stream

/-- The line feed. -/
def lineFeed : UInt8 := 0x0a

/-- A stream that ends. -/
def ofBytes (bytes : List UInt8) : Stream := ⟨bytes, []⟩

/-- The bytes of a text. -/
def ofText (s : String) : Stream := ofBytes (Text.Utf8.encode s)

/-- Nothing. -/
def empty : Stream := ofBytes []

/-- The stream does not end. -/
def isEndless (s : Stream) : Bool := !s.cycle.isEmpty

/-- One stream after another; nothing comes after an endless one. -/
def append (s t : Stream) : Stream :=
  if s.isEndless then s else ⟨s.front ++ t.front, t.cycle⟩

instance : Append Stream := ⟨append⟩

/-- The first bytes. -/
def take (s : Stream) (n : Nat) : List UInt8 :=
  if n ≤ s.front.length || s.cycle.isEmpty then s.front.take n
  else
    let left := n - s.front.length
    s.front ++ (List.replicate (left / s.cycle.length + 1) s.cycle).flatten.take left

/-- The stream without some bytes of its front. -/
def drop (s : Stream) (n : Nat) : Stream := ⟨s.front.drop n, s.cycle⟩

/-- The stream with every byte replaced by some bytes. -/
def expand (f : UInt8 → List UInt8) (s : Stream) : Stream :=
  ⟨s.front.flatMap f, s.cycle.flatMap f⟩

/-- Bytes as lines, each with the line feed that ends it. -/
def lines (bytes : List UInt8) : List (List UInt8) :=
  bytes.foldr (fun b acc =>
    if b == lineFeed then [b] :: acc
    else match acc with
      | line :: more => (b :: line) :: more
      | [] => [[b]]) []

/-- The bytes before some number of lines has ended. -/
def takeLines (s : Stream) (n : Nat) : List UInt8 :=
  if (lines s.front).length < n && s.isEndless then
    let more := (lines s.cycle).length
    ((lines (s.front ++ (List.replicate (n / max more 1 + 1) s.cycle).flatten)).take n).flatten
  else ((lines s.front).take n).flatten

end Stream

end LayerPress.Host
