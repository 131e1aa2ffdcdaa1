/-!
# Buffered output

Records are written through a buffer. A piece that fits is kept until there is more, and a piece
as long as the buffer or longer is passed on directly. The receiver takes bytes as long as it
has room and then fails; what it has taken by then stays taken. A writer that is given up while
bytes are still in its buffer tries once more to pass them on.
-/

namespace TokenClassifier

/-- A receiver of bytes: what it has taken, how much more it takes, if there is a limit, and what
it says when it takes no more. -/
structure Sink where
  taken : Array UInt8 := #[]
  room : Option Nat := none
  refusal : String := "no room left"
  deriving DecidableEq, Repr

/-- Offers bytes to a receiver: the receiver afterwards, and the bytes that it did not take. -/
def Sink.offer (s : Sink) (bytes : Array UInt8) : Sink × Array UInt8 :=
  match s.room with
  | none => ({ s with taken := s.taken ++ bytes }, #[])
  | some n =>
    ({ s with taken := s.taken ++ bytes.take n, room := some (n - bytes.size) }, bytes.drop n)

/-- A receiver behind a buffer. -/
structure Writer where
  sink : Sink
  buffer : Array UInt8 := #[]
  deriving DecidableEq, Repr

namespace Writer

/-- How many bytes the buffer holds. -/
def capacity : Nat := 8192

/-- Passes on what is in the buffer. The result tells whether all of it was taken. -/
def flush (w : Writer) : Bool × Writer :=
  let (sink, rest) := w.sink.offer w.buffer
  (rest.isEmpty, ⟨sink, rest⟩)

/-- Passes on what is in the buffer if a piece of the given size goes beyond it. -/
def makeRoom (w : Writer) (size : Nat) : Bool × Writer :=
  if w.buffer.size + size > capacity then w.flush else (true, w)

/-- Writes a piece. The result tells whether no byte was refused. -/
def write (w : Writer) (piece : Array UInt8) : Bool × Writer :=
  if w.buffer.size + piece.size < capacity then (true, { w with buffer := w.buffer ++ piece })
  else
    match w.makeRoom piece.size with
    | (false, w) => (false, w)
    | (true, w) =>
      if piece.size ≥ capacity then
        let (sink, rest) := w.sink.offer piece
        (rest.isEmpty, { w with sink })
      else (true, { w with buffer := w.buffer ++ piece })

/-- Writes pieces one after the other, up to the first that is refused. -/
def writeAll (w : Writer) : List (Array UInt8) → Bool × Writer
  | [] => (true, w)
  | piece :: rest =>
    match w.write piece with
    | (true, w) => writeAll w rest
    | (false, w) => (false, w)

/-- Gives up the writer, after a last try to pass on what is in its buffer. -/
def close (w : Writer) : Sink := w.flush.2.sink

end Writer

/-- Writes pieces to a receiver, through a buffer that is passed on at the end. The result tells
whether all of them were taken. -/
def Sink.writeAll (sink : Sink) (pieces : List (Array UInt8)) : Bool × Sink :=
  match Writer.writeAll { sink } pieces with
  | (false, w) => (false, w.close)
  | (true, w) =>
    let (ok, w) := w.flush
    (ok, w.close)

end TokenClassifier
