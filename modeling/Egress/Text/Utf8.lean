/-!
# UTF-8

Bytes are cut into pieces: each piece is the encoding of one character, or a longest run of bytes
that begins such an encoding but does not finish it. Reading strictly stops at the first piece that
is no character and says where; reading leniently puts `U+FFFD` in its place.
-/

namespace Egress.Text.Utf8

/-- A piece of a byte sequence, with the number of bytes it takes. -/
inductive Piece where
  /-- The encoding of a character in `size` bytes. -/
  | char (c : Char) (size : Nat)
  /-- `size` bytes that no continuation makes a character. -/
  | invalid (size : Nat)
  /-- `size` bytes, the last of the input, that lack their continuation. -/
  | cut (size : Nat)
  deriving Repr, DecidableEq

namespace Piece

def size : Piece → Nat
  | char _ n => n
  | invalid n => n
  | cut n => n

end Piece

/-- Whether a byte continues an encoding: it lies between `80` and `BF`. -/
def isTail (b : UInt8) : Bool :=
  decide (0x80 ≤ b) && decide (b ≤ 0xBF)

/-- The least and the greatest second byte after a first byte of a longer encoding, and the number
of bytes of the encoding; `none` for a byte that begins none. -/
def secondBounds (a : UInt8) : Option (UInt8 × UInt8 × Nat) :=
  if 0xC2 ≤ a ∧ a ≤ 0xDF then some (0x80, 0xBF, 2)
  else if a = 0xE0 then some (0xA0, 0xBF, 3)
  else if a = 0xED then some (0x80, 0x9F, 3)
  else if 0xE1 ≤ a ∧ a ≤ 0xEF then some (0x80, 0xBF, 3)
  else if a = 0xF0 then some (0x90, 0xBF, 4)
  else if 0xF1 ≤ a ∧ a ≤ 0xF3 then some (0x80, 0xBF, 4)
  else if a = 0xF4 then some (0x80, 0x8F, 4)
  else none

def tailBits (b : UInt8) : Nat :=
  b.toNat % 64

def pieceAt (a : UInt8) (rest : List UInt8) : Piece :=
  if a < 0x80 then .char (Char.ofNat a.toNat) 1
  else match secondBounds a with
  | none => .invalid 1
  | some (low, high, size) =>
    match rest with
    | [] => .cut 1
    | b :: rest =>
      if ¬ (low ≤ b ∧ b ≤ high) then .invalid 1
      else if size = 2 then .char (Char.ofNat (a.toNat % 32 * 64 + tailBits b)) 2
      else match rest with
      | [] => .cut 2
      | c :: rest =>
        if ¬ isTail c then .invalid 2
        else if size = 3 then
          .char (Char.ofNat ((a.toNat % 16 * 64 + tailBits b) * 64 + tailBits c)) 3
        else match rest with
        | [] => .cut 3
        | d :: _ =>
          if ¬ isTail d then .invalid 3
          else .char (Char.ofNat
            (((a.toNat % 8 * 64 + tailBits b) * 64 + tailBits c) * 64 + tailBits d)) 4

/-- The pieces of the bytes that remain after skipping `skip` of them. -/
def piecesAfter : Nat → List UInt8 → List Piece
  | _, [] => []
  | skip + 1, _ :: rest => piecesAfter skip rest
  | 0, a :: rest =>
    let p := pieceAt a rest
    p :: piecesAfter (p.size - 1) rest

def pieces (bs : List UInt8) : List Piece :=
  piecesAfter 0 bs

/-- Where and how bytes fail to be UTF-8: how many bytes before the fault are in order, and how
many bytes are at fault, none standing for an input that ends too early. -/
structure Fault where
  index : Nat
  size : Option Nat
  deriving Repr, DecidableEq

namespace Fault

def message (f : Fault) : String :=
  match f.size with
  | some n => s!"invalid utf-8 sequence of {n} bytes from index {f.index}"
  | none => s!"incomplete utf-8 byte sequence from index {f.index}"

end Fault

/-- The characters of pieces that begin at a given index, or the first fault. -/
def collect (index : Nat) : List Piece → Except Fault (List Char)
  | [] => .ok []
  | .char c n :: ps => (collect (index + n) ps).map (c :: ·)
  | .invalid n :: _ => .error ⟨index, some n⟩
  | .cut _ :: _ => .error ⟨index, none⟩

def decode (bs : List UInt8) : Except Fault String :=
  (collect 0 (pieces bs)).map String.ofList

/-- The character that stands for a piece when faults are overlooked. -/
def lenientChar : Piece → Char
  | .char c _ => c
  | .invalid _ => '\uFFFD'
  | .cut _ => '\uFFFD'

/-- The text that bytes encode, each fault being replaced by `U+FFFD`. -/
def decodeLenient (bs : List UInt8) : String :=
  String.ofList ((pieces bs).map lenientChar)

def encodeChars (cs : List Char) : List UInt8 :=
  cs.flatMap String.utf8EncodeChar

def encode (s : String) : List UInt8 :=
  encodeChars s.toList

end Egress.Text.Utf8
