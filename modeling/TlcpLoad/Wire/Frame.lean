/-! # Frames of a byte stream

The server's stream is a sequence of frames, each ended by CR LF. Bytes arrive in chunks of
any size, so a frame, and even its CR LF, may be split across chunks. The `Assembler` keeps
the bytes not yet handed out and hands out each complete frame without its CR LF. A lone CR
or a lone LF is an ordinary byte of a frame.

`scanned` remembers how far the buffer is known to hold no CR LF, so that a search resumes
there instead of at the start; it never changes which frame is found (`Assembler.next`).
The whole content of a stream splits as `splitFrames`: the complete frames and the
unterminated tail. -/

namespace TlcpLoad

/-- The offset of the first CR LF pair in a byte list. -/
def findCrLf : List UInt8 → Option Nat
  | [] => none
  | [_] => none
  | a :: b :: rest =>
    if a = 13 ∧ b = 10 then some 0 else (findCrLf (b :: rest)).map (· + 1)

/-- The complete frames of a byte list, in order, and the unterminated rest. -/
def splitFrames (bs : List UInt8) : List (List UInt8) × List UInt8 :=
  go bs.length bs
where
  go : Nat → List UInt8 → List (List UInt8) × List UInt8
    | 0, bs => ([], bs)
    | fuel + 1, bs =>
      match findCrLf bs with
      | some pos =>
        let (frames, tail) := go fuel (bs.drop (pos + 2))
        (bs.take pos :: frames, tail)
      | none => ([], bs)

/-- Buffered bytes of a stream and how far they are known to hold no CR LF. -/
structure Assembler where
  buffer : List UInt8 := []
  scanned : Nat := 0
  deriving DecidableEq, Repr

namespace Assembler

/-- Appends a chunk to the buffer. -/
def push (a : Assembler) (chunk : List UInt8) : Assembler :=
  { a with buffer := a.buffer ++ chunk }

/-- The number of buffered bytes, frames not yet handed out included. -/
def pending (a : Assembler) : Nat :=
  a.buffer.length

/-- Hands out the next complete frame, if the buffer holds one. The search starts at
    `scanned`; after a miss, all but the last byte are known to hold no CR LF. -/
def next (a : Assembler) : Option (List UInt8) × Assembler :=
  match findCrLf (a.buffer.drop a.scanned) with
  | some off =>
    let pos := off + a.scanned
    (some (a.buffer.take pos), { buffer := a.buffer.drop (pos + 2), scanned := 0 })
  | none => (none, { a with scanned := a.buffer.length - 1 })

/-- Hands out up to `limit` frames, or all complete frames when `limit` is `none`. -/
def take (a : Assembler) (limit : Option Nat) : List (List UInt8) × Assembler :=
  go (a.buffer.length + 1) a (limit.getD (a.buffer.length + 1))
where
  go : Nat → Assembler → Nat → List (List UInt8) × Assembler
    | 0, a, _ => ([], a)
    | _, a, 0 => ([], a)
    | fuel + 1, a, n + 1 =>
      match a.next with
      | (some frame, a') =>
        let (frames, a'') := go fuel a' n
        (frame :: frames, a'')
      | (none, a') => ([], a')

end Assembler

example : splitFrames [65, 13, 10, 13, 66] = ([[65]], [13, 66]) := by decide

end TlcpLoad
