/-!
# Input line by line

Bytes arrive in pieces of any size and wait until they are read. A read takes bytes up to the end of
a line, or to the end of the input. If neither has arrived it keeps what it has and waits for more,
and it may be broken off meanwhile: the next read counts its bytes anew, but goes on with the same
line.
-/

namespace Egress

structure Lines where
  /-- The bytes that have arrived and are not read. -/
  waiting : List UInt8 := []
  /-- Whether the input has ended, so that no more bytes arrive. -/
  hasEnded : Bool := false
  /-- What is read of a line that is not dealt with. -/
  partialLine : List UInt8 := []
  /-- The number of bytes that the read under way has taken. -/
  taken : Nat := 0
  deriving Repr, DecidableEq

namespace Lines

def lineEnd : UInt8 := 10

def arrive (l : Lines) (piece : List UInt8) : Lines :=
  if l.hasEnded then l else { l with waiting := l.waiting ++ piece }

def close (l : Lines) : Lines :=
  { l with hasEnded := true }

/-- Goes on with the read under way. When it is over, the number of bytes it has taken is given;
this is none only for a read that begins at the end of the input. -/
def read (l : Lines) : Lines × Option Nat :=
  let piece := l.waiting.takeWhile (· != lineEnd)
  match l.waiting.dropWhile (· != lineEnd) with
  | [] =>
    let taken := l.taken + piece.length
    let l := { l with waiting := [], partialLine := l.partialLine ++ piece }
    if l.hasEnded then ({ l with taken := 0 }, some taken) else ({ l with taken := taken }, none)
  | e :: rest =>
    ({ l with waiting := rest, partialLine := l.partialLine ++ piece ++ [e], taken := 0 },
      some (l.taken + piece.length + 1))

def interrupt (l : Lines) : Lines :=
  { l with taken := 0 }

/-- The line that is read is dealt with. -/
def clear (l : Lines) : Lines :=
  { l with partialLine := [] }

end Lines

end Egress
