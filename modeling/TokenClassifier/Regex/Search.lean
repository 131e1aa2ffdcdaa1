import TokenClassifier.Regex.Program

/-!
# Searching a text

A search explores the program depth first from every place of the text in turn, the preferred
branch of a split before the other, and ends at the first match. So the match found is the
leftmost one and, among those that begin there, the one that the preferences favour.

What can be reached from an instruction at a place does not depend on how it was reached. A pair
of both is therefore explored once, and the number of pairs bounds the search: no pattern can
make it take longer than the length of its program times the length of the text.
-/

namespace TokenClassifier.Regex

/-- A point of the search: the address of an instruction, a place in the text, and the places
noted on the way there, newest first. -/
structure Thread where
  pc : Nat
  place : Nat
  notes : List (Nat × Nat)
  deriving DecidableEq, Repr

/-- What running one instruction leads to. -/
inductive Outcome where
  | accepted
  | goOn (threads : List Thread)
  deriving DecidableEq, Repr

/-- The character before a place. -/
def charBefore (text : Array Char) (place : Nat) : Option Char :=
  if place = 0 then none else text[place - 1]?

/-- Runs one instruction. An address outside of the program fails. -/
def Thread.step (code : Array Instr) (text : Array Char) (t : Thread) : Outcome :=
  match code[t.pc]? with
  | none => .goOn []
  | some .accept => .accepted
  | some (.take s) =>
    match text[t.place]? with
    | some c =>
      .goOn (if s.contains c then [{ t with pc := t.pc + 1, place := t.place + 1 }] else [])
    | none => .goOn []
  | some (.look l) =>
    .goOn (if l.holds (charBefore text t.place) text[t.place]? then [{ t with pc := t.pc + 1 }]
      else [])
  | some (.save slot) => .goOn [{ t with pc := t.pc + 1, notes := (slot, t.place) :: t.notes }]
  | some (.jump target) => .goOn [{ t with pc := target }]
  | some (.split first second) => .goOn [{ t with pc := first }, { t with pc := second }]

/-- The number of a pair of address and place among all pairs. -/
def Thread.key (text : Array Char) (t : Thread) : Nat := t.pc * (text.size + 1) + t.place

/-- Explores the threads of a stack in order. `seen` marks the pairs already explored. Every
round takes a thread off the stack, and adds two at most for a pair that was not seen before, so
twice the number of pairs and the length of the stack together are fuel enough. -/
def explore (code : Array Instr) (text : Array Char) :
    Nat → Array Bool → List Thread → Option (List (Nat × Nat))
  | 0, _, _ => none
  | _, _, [] => none
  | fuel + 1, seen, t :: stack =>
    if seen.getD (t.key text) true then explore code text fuel seen stack
    else
      match t.step code text with
      | .accepted => some t.notes
      | .goOn threads => explore code text fuel (seen.set! (t.key text) true) (threads ++ stack)

/-- The number of pairs of an address and a place. -/
def pairCount (code : Array Instr) (text : Array Char) : Nat := code.size * (text.size + 1)

/-- The start of a search at every place, in order. -/
def startThreads (text : Array Char) : List Thread :=
  (List.range (text.size + 1)).map fun place => ⟨0, place, []⟩

/-- Searches a text, and gives the places noted by the match. -/
def search? (code : Array Instr) (text : Array Char) : Option (List (Nat × Nat)) :=
  let threads := startThreads text
  explore code text (2 * pairCount code text + threads.length + 1)
    (Array.replicate (pairCount code text) false) threads

end TokenClassifier.Regex
