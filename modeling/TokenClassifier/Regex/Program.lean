import TokenClassifier.Regex.Term

/-!
# Programs

A regular expression is matched by running a program of simple instructions. An instruction
passes control to the next one unless it names another; a `split` names two and prefers the
first. `Term.emit` lays out the code of an expression from a given address on, so that control
falls through to the address after it once the expression has matched.
-/

namespace TokenClassifier.Regex

/-- An instruction. -/
inductive Instr where
  /-- Takes a character of a set. -/
  | take (s : CharSet)
  /-- Goes on if a condition holds. -/
  | look (l : Look)
  /-- Notes the place in a slot. -/
  | save (slot : Nat)
  /-- Goes on at another address. -/
  | jump (target : Nat)
  /-- Goes on at `first` and, failing that, at `second`. -/
  | split (first second : Nat)
  /-- Ends with a match. -/
  | accept
  deriving DecidableEq, Repr

/-- Goes on at `inside`, or at `outside`, whichever is preferred. -/
def Instr.choose (greedy : Bool) (inside outside : Nat) : Instr :=
  if greedy then .split inside outside else .split outside inside

namespace Term

/-- The number of instructions of an expression. -/
def size : Term → Nat
  | .empty => 0
  | .chars _ => 1
  | .look _ => 1
  | .capture _ r => r.size + 2
  | .seq a b => a.size + b.size
  | .alt a b => a.size + b.size + 2
  | .opt _ r => r.size + 1
  | .star _ r => r.size + 2
  | .plus _ r => r.size + 1

/-- The instructions of an expression, the first of them at address `pc`. -/
def emit (pc : Nat) : Term → List Instr
  | .empty => []
  | .chars s => [.take s]
  | .look l => [.look l]
  | .capture index r =>
    .save (2 * index) :: r.emit (pc + 1) ++ [.save (2 * index + 1)]
  | .seq a b => a.emit pc ++ b.emit (pc + a.size)
  | .alt a b =>
    .split (pc + 1) (pc + a.size + 2) :: a.emit (pc + 1) ++
      .jump (pc + a.size + b.size + 2) :: b.emit (pc + a.size + 2)
  | .opt greedy r =>
    .choose greedy (pc + 1) (pc + r.size + 1) :: r.emit (pc + 1)
  | .star greedy r =>
    .choose greedy (pc + 1) (pc + r.size + 2) :: r.emit (pc + 1) ++ [.jump pc]
  | .plus greedy r =>
    r.emit pc ++ [.choose greedy pc (pc + r.size + 1)]

/-- The program of an expression: its code, around which the whole match is noted as group
zero. -/
def program (r : Term) : Array Instr :=
  ((Term.capture 0 r).emit 0 ++ [Instr.accept]).toArray

end Term

end TokenClassifier.Regex
