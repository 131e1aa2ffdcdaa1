import TokenClassifier.Output

/-!
# What buffering leaves behind

A receiver that is offered pieces one after the other takes what it takes of all of them at once
(`Sink.offer_append`): the first bytes, as long as it has room. A buffer between writer and receiver
changes when a byte arrives, but not which bytes do.

The invariant of a writer is that what its receiver has taken and what it still keeps make up all
that was written (`Writer.Holds`). It lasts from piece to piece until the receiver refuses a byte;
from then on the receiver is full, and neither writing on nor the last try of a writer that is given
up can add anything (`Writer.Stopped`).
-/

namespace TokenClassifier

namespace Sink

/-- Whether a receiver takes bytes to the last. -/
def Takes (s : Sink) (bytes : Array UInt8) : Prop := (s.offer bytes).2 = #[]

variable {s : Sink} {a b : Array UInt8}

/-- A receiver takes bytes to the last exactly if it has room for them, or no limit. -/
theorem takes_iff : s.Takes a ↔ ∀ n, s.room = some n → a.size ≤ n := by
  unfold Takes offer
  cases s.room with
  | none => simp
  | some n => simp

/-- Nothing at all is always taken. -/
theorem takes_empty : s.Takes #[] := takes_iff.mpr fun _ _ => Nat.zero_le _

/-- A receiver takes a piece of a row and then the rest as it takes the whole row. All that a buffer
does is to put pieces together, so this is what makes it harmless. -/
theorem offer_append (s : Sink) (a b : Array UInt8) :
    (s.offer (a ++ b)).1 = ((s.offer a).1.offer b).1 := by
  unfold offer
  cases s.room with
  | none => simp [Array.append_assoc]
  | some n => simp [Array.append_assoc, Nat.sub_sub]

/-- What a receiver is offered takes up its room, and beyond the room nothing. -/
theorem room_offer : (s.offer a).1.room = s.room.map (· - a.size) := by
  unfold offer
  cases s.room <;> rfl

/-- A receiver that takes `n` more bytes has the first `n` of what it is offered. -/
theorem toList_taken_offer {n : Nat} (h : s.room = some n) :
    (s.offer a).1.taken.toList = s.taken.toList ++ a.toList.take n := by
  simp [offer, h]

/-- A receiver that takes all has all of it. -/
theorem toList_taken_of_takes (took : s.Takes a) :
    (s.offer a).1.taken.toList = s.taken.toList ++ a.toList := by
  cases hr : s.room with
  | none => simp [offer, hr]
  | some n =>
    have fits : a.toList.length ≤ n := takes_iff.mp took n hr
    rw [toList_taken_offer hr, List.take_of_length_le fits]

/-- The words with which a receiver refuses stay the same. -/
theorem refusal_offer : (s.offer a).1.refusal = s.refusal := by
  unfold offer
  cases s.room <;> rfl

/-- A row is taken exactly if its first piece is, and then the rest. -/
theorem takes_append_iff : s.Takes (a ++ b) ↔ s.Takes a ∧ (s.offer a).1.Takes b := by
  simp only [takes_iff, room_offer, Array.size_append]
  cases s.room with
  | none => simp
  | some n => simp; omega

/-- An offer of nothing changes nothing. -/
theorem offer_empty : s.offer #[] = (s, #[]) := by
  obtain ⟨taken, room, refusal⟩ := s
  cases room <;> simp [offer]

/-- A receiver that has refused a byte takes no other. So what is offered to it again, or later,
adds nothing. -/
theorem offer_append_of_not_takes (refused : ¬ s.Takes a) (b : Array UInt8) :
    (s.offer (a ++ b)).1 = (s.offer a).1 := by
  rw [takes_iff] at refused
  unfold offer
  cases hr : s.room with
  | none => simp [hr] at refused
  | some n =>
    have few : n ≤ a.size := by simp [hr] at refused; omega
    simp [few]
    omega

end Sink

namespace Writer

/-- A writer whose receiver has taken all that it was offered: this and what is still in the buffer
are all the bytes that were written. -/
def Holds (s : Sink) (sent : Array UInt8) (w : Writer) : Prop :=
  ∃ passed, s.Takes passed ∧ w.sink = (s.offer passed).1 ∧ passed ++ w.buffer = sent

/-- A writer whose receiver has refused a byte, and will have taken what it can when the writer is
given up. -/
def Stopped (s : Sink) (sent : Array UInt8) (w : Writer) : Prop :=
  ¬ s.Takes sent ∧ w.close = (s.offer sent).1

/-- What writing comes to. -/
def Outcome (s : Sink) (sent : Array UInt8) (result : Bool × Writer) : Prop :=
  if result.1 then Holds s sent result.2 else Stopped s sent result.2

variable {s : Sink} {sent : Array UInt8} {w : Writer}

/-- A new writer holds nothing, and nothing was written. -/
theorem holds_start (s : Sink) : Holds s #[] { sink := s } :=
  ⟨#[], Sink.takes_empty, by rw [Sink.offer_empty], rfl⟩

/-- A piece that is put in the buffer is kept by the writer. -/
theorem Holds.keep (h : Holds s sent w) (piece : Array UInt8) :
    Holds s (sent ++ piece) { w with buffer := w.buffer ++ piece } := by
  obtain ⟨passed, took, hsink, rfl⟩ := h
  exact ⟨passed, took, hsink, by rw [Array.append_assoc]⟩

/-- A writer that is given up passes on what it keeps, and its receiver has been offered all that
was written. -/
theorem Holds.close (h : Holds s sent w) : w.close = (s.offer sent).1 := by
  obtain ⟨passed, took, hsink, rfl⟩ := h
  rw [Sink.offer_append, ← hsink]
  rfl

/-- Bytes are passed on to the receiver. The buffer has to be empty afterwards if all are taken.
This covers both a flush and a long piece that goes past the buffer. -/
theorem outcome_offer {passed : Array UInt8} (took : s.Takes passed) (bytes left : Array UInt8)
    (emptied : (s.offer passed).1.Takes bytes → left = #[]) :
    Outcome s (passed ++ bytes)
      (((s.offer passed).1.offer bytes).2.isEmpty, ⟨((s.offer passed).1.offer bytes).1, left⟩) := by
  unfold Outcome
  dsimp only
  split
  next all =>
    have taken : (s.offer passed).1.Takes bytes := Array.isEmpty_iff.mp all
    obtain rfl := emptied taken
    refine ⟨passed ++ bytes, Sink.takes_append_iff.mpr ⟨took, taken⟩, ?_, Array.append_empty⟩
    rw [Sink.offer_append]
  next some =>
    have refused : ¬ s.Takes (passed ++ bytes) := by
      intro taken
      exact some (Array.isEmpty_iff.mpr (Sink.takes_append_iff.mp taken).2)
    refine ⟨refused, ?_⟩
    -- the receiver is full by now, so what is left in the buffer is offered in vain
    calc (((s.offer passed).1.offer bytes).1.offer left).1
        = (s.offer (passed ++ bytes ++ left)).1 := by rw [Sink.offer_append, Sink.offer_append]
      _ = (s.offer (passed ++ bytes)).1 := Sink.offer_append_of_not_takes refused left

/-- A flush passes on the buffer. It leaves the writer holding all that was written, or stopped. -/
theorem Holds.outcome_flush (h : Holds s sent w) : Outcome s sent w.flush := by
  obtain ⟨sink, buffer⟩ := w
  obtain ⟨passed, took, rfl, rfl⟩ := h
  exact outcome_offer took buffer _ id

/-- A last flush tells whether everything was taken, and giving up the writer adds nothing to it. If
the flush has failed, giving up tries again, and the receiver is full. -/
theorem Holds.flush_iff (h : Holds s sent w) :
    (w.flush.1 = true ↔ s.Takes sent) ∧ w.flush.2.close = (s.offer sent).1 := by
  have flushed := h.outcome_flush
  unfold Outcome at flushed
  split at flushed
  next all =>
    have empty : w.flush.2.buffer = #[] := Array.isEmpty_iff.mp all
    refine ⟨iff_of_true all ?_, flushed.close⟩
    obtain ⟨passed, took, _, rfl⟩ := flushed
    rwa [empty, Array.append_empty]
  next some =>
    obtain ⟨refused, close⟩ := flushed
    exact ⟨iff_of_false some refused, close⟩

/-- A writer that has stopped stays so, whatever is written after. -/
theorem Stopped.append (h : Stopped s sent w) (piece : Array UInt8) :
    Stopped s (sent ++ piece) w := by
  obtain ⟨refused, close⟩ := h
  refine ⟨fun taken => refused (Sink.takes_append_iff.mp taken).1, ?_⟩
  rw [close, Sink.offer_append_of_not_takes refused]

/-- Making room for a piece may flush the buffer, and keeps the invariant. -/
theorem Holds.outcome_makeRoom (h : Holds s sent w) (size : Nat) :
    Outcome s sent (w.makeRoom size) := by
  unfold makeRoom
  split
  next => exact h.outcome_flush
  next => exact h

/-- A piece as long as the buffer finds it empty, for then there was no room beside anything. -/
theorem buffer_makeRoom {piece : Array UInt8} (made : (w.makeRoom piece.size).1 = true)
    (long : capacity ≤ piece.size) : (w.makeRoom piece.size).2.buffer = #[] := by
  unfold makeRoom at made ⊢
  split at made
  next exceeds =>
    rw [if_pos exceeds]
    exact Array.isEmpty_iff.mp made
  next fits =>
    have none : w.buffer.size = 0 := by omega
    rw [if_neg fits]
    exact Array.eq_empty_of_size_eq_zero none

/-- Writing a piece keeps the invariant, however long the piece is and however full the buffer.
There are three ways for a piece: into the buffer, into the buffer after a flush, and past the
buffer. -/
theorem Holds.outcome_write (h : Holds s sent w) (piece : Array UInt8) :
    Outcome s (sent ++ piece) (w.write piece) := by
  have made := h.outcome_makeRoom piece.size
  have empty := @buffer_makeRoom w piece
  unfold write
  split
  next => exact h.keep piece
  next =>
    rcases hm : w.makeRoom piece.size with ⟨ok, w'⟩
    rw [hm] at made empty
    cases ok with
    | false => exact Stopped.append made piece
    | true =>
      have held : Holds s sent w' := made
      dsimp only
      split
      next long =>
        obtain ⟨sink, buffer⟩ := w'
        obtain ⟨passed, took, rfl, rfl⟩ := held
        obtain rfl := empty rfl long
        rw [Array.append_empty]
        exact outcome_offer took piece #[] fun _ => rfl
      next => exact held.keep piece

/-- So does writing a row of pieces: what counts is their bytes in order, not where one ends. By
induction on the pieces, up to the first that stops the writer. -/
theorem Holds.outcome_writeAll (h : Holds s sent w) (pieces : List (Array UInt8)) :
    Outcome s (sent ++ (pieces.flatMap Array.toList).toArray) (w.writeAll pieces) := by
  induction pieces generalizing sent w with
  | nil =>
    have all : sent ++ (([] : List (Array UInt8)).flatMap Array.toList).toArray = sent := by simp
    rw [all]
    exact h
  | cons piece rest ih =>
    have cut : sent ++ ((piece :: rest).flatMap Array.toList).toArray =
        sent ++ piece ++ (rest.flatMap Array.toList).toArray := by
      simp [← Array.toList_inj]
    have wrote := h.outcome_write piece
    rw [cut, writeAll]
    split
    next w' hw =>
      rw [hw] at wrote
      exact ih wrote
    next w' hw =>
      rw [hw] at wrote
      exact Stopped.append wrote _

end Writer

/-- Writing pieces through a buffer gives a receiver what offering it all their bytes at once would,
and succeeds exactly if it takes them to the last. Buffers are not looked at any more after this. -/
theorem Sink.writeAll_iff (s : Sink) (pieces : List (Array UInt8)) :
    ((s.writeAll pieces).1 = true ↔ s.Takes (pieces.flatMap Array.toList).toArray) ∧
      (s.writeAll pieces).2 = (s.offer (pieces.flatMap Array.toList).toArray).1 := by
  have wrote := (Writer.holds_start s).outcome_writeAll pieces
  rw [Array.empty_append] at wrote
  unfold writeAll
  rcases hw : Writer.writeAll { sink := s } pieces with ⟨ok, w⟩
  rw [hw] at wrote
  cases ok with
  | false =>
    obtain ⟨refused, close⟩ : Writer.Stopped _ _ _ := wrote
    exact ⟨iff_of_false Bool.false_ne_true refused, close⟩
  | true =>
    have held : Writer.Holds _ _ _ := wrote
    exact held.flush_iff

end TokenClassifier
