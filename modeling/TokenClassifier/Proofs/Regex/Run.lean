import TokenClassifier.Proofs.Regex.Matches

/-!
# Runs of a program

A run is a path of threads, each a successor of the one before, that ends where the program
accepts. `CodeAt code pc block` says that `block` stands in the code from address `pc` on.

The two laws of `Term.emit` say what the code of an expression does between its first address and
the one after its last. Where the expression matches, a thread gets through it
(`Matches.steps_emit`); where a run enters the code, it leaves it after a match, having noted
places only for the groups of the expression (`run_emit`). The second law needs the length of the
run: the code of a starred expression leads back to itself, and only the run gets shorter.
-/

namespace TokenClassifier.Regex

variable {code : Array Instr} {text : Array Char}

/-! ## Threads and runs -/

/-- One thread leads to another by one instruction. -/
def Thread.Next (code : Array Instr) (text : Array Char) (t t' : Thread) : Prop :=
  ∃ threads, t.step code text = .goOn threads ∧ t' ∈ threads

/-- One thread leads to another by any number of instructions. -/
inductive Thread.Steps (code : Array Instr) (text : Array Char) : Thread → Thread → Prop
  | refl (t : Thread) : Steps code text t t
  | head {t t' t'' : Thread} : t.Next code text t' → Steps code text t' t'' → Steps code text t t''

/-- `Run code text n t notes`: the program accepts `n` instructions after the thread `t`, with
these places noted. -/
inductive Run (code : Array Instr) (text : Array Char) : Nat → Thread → List (Nat × Nat) → Prop
  | accept {t : Thread} : t.step code text = .accepted → Run code text 0 t t.notes
  | next {n : Nat} {t t' : Thread} {notes : List (Nat × Nat)} : t.Next code text t' →
      Run code text n t' notes → Run code text (n + 1) t notes

/-- A single step is a way through the program. With `trans`, ways of any length are put together
from single steps. -/
theorem Thread.Steps.single {t t' : Thread} (h : t.Next code text t') : t.Steps code text t' :=
  .head h (.refl _)

/-- Ways through the program are put together at the thread where the one ends and the other
begins. -/
theorem Thread.Steps.trans {t t' t'' : Thread} (h : t.Steps code text t')
    (h' : t'.Steps code text t'') : t.Steps code text t'' := by
  induction h with
  | refl => exact h'
  | head step _ ih => exact .head step (ih h')

/-- What leads to a thread from which the program accepts leads to acceptance. The notes at
acceptance are the same, only the number of steps is another one, which is why it is not named. -/
theorem Thread.Steps.run {t t' : Thread} (h : t.Steps code text t') {n : Nat}
    {notes : List (Nat × Nat)} (run : Run code text n t' notes) :
    ∃ m, Run code text m t notes := by
  induction h with
  | refl => exact ⟨n, run⟩
  | head step _ ih =>
    obtain ⟨m, hm⟩ := ih run
    exact ⟨m + 1, .next step hm⟩

/-! ## Single instructions -/

variable {pc i : Nat} {notes : List (Nat × Nat)} {t : Thread}

/-- Past a `take`, a thread stands behind one character more, which is in the set. Where the text
ends or the character is another one, there is no next thread. -/
theorem next_take_iff {s : CharSet} (h : code[pc]? = some (.take s)) :
    Thread.Next code text ⟨pc, i, notes⟩ t ↔
      ∃ c, text[i]? = some c ∧ s.contains c = true ∧ t = ⟨pc + 1, i + 1, notes⟩ := by
  simp only [Thread.Next, Thread.step, h]
  cases hc : text[i]? with
  | none => simp
  | some c => by_cases hs : s.contains c = true <;> simp [hs]

/-- Past a `look`, a thread stands at the same place, where what the condition asks of the two
characters around it holds. -/
theorem next_look_iff {l : Look} (h : code[pc]? = some (.look l)) :
    Thread.Next code text ⟨pc, i, notes⟩ t ↔
      l.holds (charBefore text i) text[i]? = true ∧ t = ⟨pc + 1, i, notes⟩ := by
  simp only [Thread.Next, Thread.step, h]
  by_cases hl : l.holds (charBefore text i) text[i]? = true <;> simp [hl]

/-- Past a `save`, a thread has noted the place where it stands, before all that it noted
earlier. -/
theorem next_save_iff {slot : Nat} (h : code[pc]? = some (.save slot)) :
    Thread.Next code text ⟨pc, i, notes⟩ t ↔ t = ⟨pc + 1, i, (slot, i) :: notes⟩ := by
  simp [Thread.Next, Thread.step, h]

/-- A `jump` changes nothing about a thread but where it stands in the program. -/
theorem next_jump_iff {target : Nat} (h : code[pc]? = some (.jump target)) :
    Thread.Next code text ⟨pc, i, notes⟩ t ↔ t = ⟨target, i, notes⟩ := by
  simp [Thread.Next, Thread.step, h]

/-- From a `split`, a thread goes on at one of two places, and nothing else about it changes. -/
theorem next_split_iff {first second : Nat} (h : code[pc]? = some (.split first second)) :
    Thread.Next code text ⟨pc, i, notes⟩ t ↔ t = ⟨first, i, notes⟩ ∨ t = ⟨second, i, notes⟩ := by
  simp [Thread.Next, Thread.step, h]

/-- From the instruction that chooses between another round and the way out, a thread goes on at
either. Preferences do not matter for where it may lead: `greedy` is in neither of the two. -/
theorem next_choose_iff {greedy : Bool} {inside outside : Nat}
    (h : code[pc]? = some (.choose greedy inside outside)) :
    Thread.Next code text ⟨pc, i, notes⟩ t ↔ t = ⟨inside, i, notes⟩ ∨ t = ⟨outside, i, notes⟩ := by
  cases greedy with
  | true => exact next_split_iff h
  | false => exact (next_split_iff h).trans or_comm

/-- A program accepts only at the instruction that says so, whatever the text and the place in
it. -/
theorem step_accepted_iff : t.step code text = .accepted ↔ code[t.pc]? = some .accept := by
  unfold Thread.step
  split
  next h => simp [h]
  next h => simp [h]
  next h => split <;> simp [h]
  all_goals simp [*]

/-- A run either is over or begins with a step. All that is said of runs below goes through these
two cases, by induction on their length. -/
theorem run_cases {n : Nat} {final : List (Nat × Nat)} (h : Run code text n t final) :
    (code[t.pc]? = some .accept ∧ final = t.notes) ∨
      ∃ m t', n = m + 1 ∧ t.Next code text t' ∧ Run code text m t' final := by
  cases h with
  | accept h => exact .inl ⟨step_accepted_iff.mp h, rfl⟩
  | next step run => exact .inr ⟨_, _, rfl, step, run⟩

/-- A run at an instruction other than the accepting one goes on. -/
theorem run_goes_on {n : Nat} {final : List (Nat × Nat)} {instr : Instr}
    (h : Run code text n t final) (at' : code[t.pc]? = some instr) (ne : instr ≠ .accept) :
    ∃ m t', n = m + 1 ∧ t.Next code text t' ∧ Run code text m t' final := by
  rcases run_cases h with ⟨ha, _⟩ | h
  · rw [at'] at ha
    exact absurd (Option.some.inj ha) ne
  · exact h

/-- The instruction that chooses is not the accepting one, in whichever order it writes the two
ways. So a run that stands there goes on, by `run_goes_on`. -/
theorem choose_ne_accept {greedy : Bool} {inside outside : Nat} :
    Instr.choose greedy inside outside ≠ .accept := by
  cases greedy <;> simp [Instr.choose]

/-! ## Where code stands -/

/-- A row of instructions stands in the code from an address on. -/
def CodeAt (code : Array Instr) (pc : Nat) (block : List Instr) : Prop :=
  ∀ k instr, block[k]? = some instr → code[pc + k]? = some instr

/-- A block of code stands at a place when its first instruction does and the rest stands behind
it. -/
theorem codeAt_cons_iff {instr : Instr} {block : List Instr} :
    CodeAt code pc (instr :: block) ↔ code[pc]? = some instr ∧ CodeAt code (pc + 1) block := by
  constructor
  · intro h
    refine ⟨h 0 instr rfl, fun k i hi => ?_⟩
    rw [show pc + 1 + k = pc + (k + 1) by omega]
    exact h (k + 1) i hi
  · rintro ⟨head, tail⟩ (_ | k) i hi
    · exact Option.some.inj hi ▸ head
    · rw [show pc + (k + 1) = pc + 1 + k by omega]
      exact tail k i hi

/-- Two blocks one after the other stand in a program where the first does and the second behind its
end. With `length_emit` this takes the code of an expression apart into that of its parts. -/
theorem codeAt_append_iff {first second : List Instr} :
    CodeAt code pc (first ++ second) ↔
      CodeAt code pc first ∧ CodeAt code (pc + first.length) second := by
  induction first generalizing pc with
  | nil => simp [CodeAt]
  | cons instr first ih =>
    rw [List.cons_append, codeAt_cons_iff, codeAt_cons_iff, ih, and_assoc, List.length_cons,
      show pc + 1 + first.length = pc + (first.length + 1) by omega]

/-- A program stands in itself: a block that is the whole program stands at its beginning. -/
theorem codeAt_toArray (block : List Instr) : CodeAt block.toArray 0 block := by
  intro k instr h
  simpa using h

/-- The size of an expression is the number of its instructions, wherever they are put. The targets
of its jumps are computed from the size, before there is code to count. -/
@[simp] theorem Term.length_emit (r : Term) (pc : Nat) : (r.emit pc).length = r.size := by
  induction r generalizing pc with
  | empty | chars | look => rfl
  | capture _ r ih => simp [Term.emit, Term.size, ih]
  | seq a b iha ihb => simp [Term.emit, Term.size, iha, ihb]
  | alt a b iha ihb => simp [Term.emit, Term.size, iha, ihb]; omega
  | opt _ r ih => simp [Term.emit, Term.size, ih]
  | star _ r ih => simp [Term.emit, Term.size, ih]
  | plus _ r ih => simp [Term.emit, Term.size, ih]

/-! ## The code of an expression -/

/-- The numbers of the groups of an expression. -/
def Term.groups : Term → List Nat
  | .empty => []
  | .chars _ => []
  | .look _ => []
  | .capture index r => index :: r.groups
  | .seq a b => a.groups ++ b.groups
  | .alt a b => a.groups ++ b.groups
  | .opt _ r => r.groups
  | .star _ r => r.groups
  | .plus _ r => r.groups

namespace Term

/-- Where an expression matches, a thread gets through its code, from the first instruction to the
place behind the last. By induction on the match: what the thread notes on its way is its own
affair. -/
theorem Matches.steps_emit {r : Term} {i j : Nat} (h : r.Matches text i j) :
    ∀ (pc : Nat) (notes : List (Nat × Nat)), CodeAt code pc (r.emit pc) →
      ∃ notes', Thread.Steps code text ⟨pc, i, notes⟩ ⟨pc + r.size, j, notes'⟩ := by
  induction h with
  | empty i => exact fun pc notes _ => ⟨notes, .refl _⟩
  | @chars s i c hc hs =>
    intro pc notes at'
    have here := (codeAt_cons_iff.mp at').1
    exact ⟨notes, .single ((next_take_iff here).mpr ⟨c, hc, hs, rfl⟩)⟩
  | @look l i hl =>
    intro pc notes at'
    have here := (codeAt_cons_iff.mp at').1
    exact ⟨notes, .single ((next_look_iff here).mpr ⟨hl, rfl⟩)⟩
  | @capture index r i j _ ih =>
    intro pc notes at'
    simp only [emit, List.cons_append, codeAt_cons_iff, codeAt_append_iff, length_emit] at at'
    obtain ⟨first, inside, last, _⟩ := at'
    obtain ⟨notes', steps⟩ := ih (pc + 1) ((2 * index, i) :: notes) inside
    refine ⟨(2 * index + 1, j) :: notes', .head ((next_save_iff first).mpr rfl) ?_⟩
    refine steps.trans (.single ((next_save_iff last).mpr ?_))
    simp only [size, Thread.mk.injEq, and_self, and_true]
    omega
  | @seq a b i j k _ _ iha ihb =>
    intro pc notes at'
    simp only [emit, codeAt_append_iff, length_emit] at at'
    obtain ⟨notes₁, steps₁⟩ := iha pc notes at'.1
    obtain ⟨notes₂, steps₂⟩ := ihb (pc + a.size) notes₁ at'.2
    rw [size, ← Nat.add_assoc]
    exact ⟨notes₂, steps₁.trans steps₂⟩
  | @altLeft a b i j _ ih =>
    intro pc notes at'
    simp only [emit, List.cons_append, codeAt_cons_iff, codeAt_append_iff, length_emit] at at'
    obtain ⟨split, left, jump, _⟩ := at'
    obtain ⟨notes', steps⟩ := ih (pc + 1) notes left
    refine ⟨notes', .head ((next_split_iff split).mpr (.inl rfl)) ?_⟩
    refine steps.trans (.single ((next_jump_iff jump).mpr ?_))
    simp only [size, Thread.mk.injEq, and_self, and_true]
    omega
  | @altRight a b i j _ ih =>
    intro pc notes at'
    simp only [emit, List.cons_append, codeAt_cons_iff, codeAt_append_iff, length_emit] at at'
    obtain ⟨split, _, _, right⟩ := at'
    rw [show pc + 1 + a.size + 1 = pc + a.size + 2 by omega] at right
    obtain ⟨notes', steps⟩ := ih (pc + a.size + 2) notes right
    refine ⟨notes', .head ((next_split_iff split).mpr (.inr rfl)) ?_⟩
    rw [size, show pc + (a.size + b.size + 2) = pc + a.size + 2 + b.size by omega]
    exact steps
  | @optNone greedy r i =>
    intro pc notes at'
    have here := (codeAt_cons_iff.mp at').1
    exact ⟨notes, .single ((next_choose_iff here).mpr (.inr rfl))⟩
  | @optOne greedy r i j _ ih =>
    intro pc notes at'
    obtain ⟨here, inside⟩ := codeAt_cons_iff.mp at'
    obtain ⟨notes', steps⟩ := ih (pc + 1) notes inside
    refine ⟨notes', .head ((next_choose_iff here).mpr (.inl rfl)) ?_⟩
    rw [size, show pc + (r.size + 1) = pc + 1 + r.size by omega]
    exact steps
  | @starNone greedy r i =>
    intro pc notes at'
    have here := (codeAt_cons_iff.mp at').1
    exact ⟨notes, .single ((next_choose_iff here).mpr (.inr rfl))⟩
  | @starMore greedy r i j k _ _ ihr ihs =>
    intro pc notes at'
    have whole := at'
    simp only [emit, List.cons_append, codeAt_cons_iff, codeAt_append_iff, length_emit] at at'
    obtain ⟨here, inside, back, _⟩ := at'
    obtain ⟨notes₁, steps₁⟩ := ihr (pc + 1) notes inside
    -- the rounds that are left are a match of the whole loop, whose code begins at `pc` again
    obtain ⟨notes₂, steps₂⟩ := ihs pc notes₁ whole
    exact ⟨notes₂, (Thread.Steps.head ((next_choose_iff here).mpr (.inl rfl)) steps₁).trans
      (.head ((next_jump_iff back).mpr rfl) steps₂)⟩
  | @plusOne greedy r i j _ ih =>
    intro pc notes at'
    simp only [emit, codeAt_cons_iff, codeAt_append_iff, length_emit] at at'
    obtain ⟨inside, again, _⟩ := at'
    obtain ⟨notes', steps⟩ := ih pc notes inside
    exact ⟨notes', steps.trans (.single ((next_choose_iff again).mpr (.inr rfl)))⟩
  | @plusMore greedy r i j k _ _ ihr ihs =>
    intro pc notes at'
    have whole := at'
    simp only [emit, codeAt_cons_iff, codeAt_append_iff, length_emit] at at'
    obtain ⟨inside, again, _⟩ := at'
    obtain ⟨notes₁, steps₁⟩ := ihr pc notes inside
    obtain ⟨notes₂, steps₂⟩ := ihs pc notes₁ whole
    exact ⟨notes₂, steps₁.trans (.head ((next_choose_iff again).mpr (.inl rfl)) steps₂)⟩

/-- How a run that enters the code of `r` at address `pc` leaves it: after a match, with no more
instructions to go, and with places noted for the groups of `r` alone. -/
def Exit (code : Array Instr) (text : Array Char) (r : Term) (pc n i : Nat)
    (notes final : List (Nat × Nat)) : Prop :=
  ∃ m j added, m ≤ n ∧ r.Matches text i j ∧ (∀ note ∈ added, note.1 / 2 ∈ r.groups) ∧
    Run code text m ⟨pc + r.size, j, added ++ notes⟩ final

/-- A run that enters the code of a starred expression leaves it after a match, if runs leave the
code inside so. The code leads back to its own start, so the induction is on the length of the
run. -/
theorem run_star {greedy : Bool} {r : Term} {final : List (Nat × Nat)}
    (inner : ∀ {n i : Nat} {notes : List (Nat × Nat)}, Run code text n ⟨pc + 1, i, notes⟩ final →
      Exit code text r (pc + 1) n i notes final)
    (at' : CodeAt code pc ((Term.star greedy r).emit pc)) {n i : Nat} {notes : List (Nat × Nat)}
    (run : Run code text n ⟨pc, i, notes⟩ final) :
    Exit code text (.star greedy r) pc n i notes final := by
  simp only [emit, List.cons_append, codeAt_cons_iff, codeAt_append_iff, length_emit] at at'
  obtain ⟨here, _, back, _⟩ := at'
  induction n using Nat.strongRecOn generalizing i notes with
  | ind n again =>
    obtain ⟨m, t, rfl, step, run⟩ := run_goes_on run here choose_ne_accept
    rcases (next_choose_iff here).mp step with rfl | rfl
    · obtain ⟨m', j, added, le, matched, slots, run⟩ := inner run
      obtain ⟨m'', t, rfl, step, run⟩ := run_goes_on run back (by simp)
      obtain rfl := (next_jump_iff back).mp step
      obtain ⟨m₃, k, added', le', rest, slots', run⟩ := again m'' (by omega) run
      refine ⟨m₃, k, added' ++ added, by omega, .starMore matched rest, ?_, ?_⟩
      · exact List.forall_mem_append.mpr ⟨slots', slots⟩
      · rw [List.append_assoc]
        exact run
    · exact ⟨m, i, [], by omega, .starNone i, by simp, run⟩

/-- A run that enters the code of an expression repeated at least once leaves it after a match, if
runs leave the code inside so. A first round is followed either by the way out or by a run from the
start again, which is shorter. -/
theorem run_plus {greedy : Bool} {r : Term} {final : List (Nat × Nat)}
    (inner : ∀ {n i : Nat} {notes : List (Nat × Nat)}, Run code text n ⟨pc, i, notes⟩ final →
      Exit code text r pc n i notes final)
    (at' : CodeAt code pc ((Term.plus greedy r).emit pc)) {n i : Nat} {notes : List (Nat × Nat)}
    (run : Run code text n ⟨pc, i, notes⟩ final) :
    Exit code text (.plus greedy r) pc n i notes final := by
  simp only [emit, codeAt_cons_iff, codeAt_append_iff, length_emit] at at'
  obtain ⟨_, choice, _⟩ := at'
  induction n using Nat.strongRecOn generalizing i notes with
  | ind n again =>
    obtain ⟨m, j, added, le, matched, slots, run⟩ := inner run
    obtain ⟨m', t, rfl, step, run⟩ := run_goes_on run choice choose_ne_accept
    rcases (next_choose_iff choice).mp step with rfl | rfl
    · obtain ⟨m₃, k, added', le', rest, slots', run⟩ := again m' (by omega) run
      refine ⟨m₃, k, added' ++ added, by omega, .plusMore matched rest, ?_, ?_⟩
      · exact List.forall_mem_append.mpr ⟨slots', slots⟩
      · rw [List.append_assoc]
        exact run
    · exact ⟨m', j, added, by omega, .plusOne matched, slots, run⟩

/-- A run that enters the code of an expression leaves it after a match, with notes of groups of
that expression only. By induction on the expression, with `run_star` and `run_plus` for the two
constructs whose code leads back. -/
theorem run_emit (r : Term) : ∀ {n pc i : Nat} {notes final : List (Nat × Nat)},
    CodeAt code pc (r.emit pc) → Run code text n ⟨pc, i, notes⟩ final →
      Exit code text r pc n i notes final := by
  induction r with
  | empty => exact fun _ run => ⟨_, _, [], Nat.le_refl _, .empty _, by simp, run⟩
  | chars s =>
    intro n pc i notes final at' run
    have here := (codeAt_cons_iff.mp at').1
    obtain ⟨m, t, rfl, step, run⟩ := run_goes_on run here (by simp)
    obtain ⟨c, hc, hs, rfl⟩ := (next_take_iff here).mp step
    exact ⟨m, i + 1, [], by omega, .chars hc hs, by simp, run⟩
  | look l =>
    intro n pc i notes final at' run
    have here := (codeAt_cons_iff.mp at').1
    obtain ⟨m, t, rfl, step, run⟩ := run_goes_on run here (by simp)
    obtain ⟨hl, rfl⟩ := (next_look_iff here).mp step
    exact ⟨m, i, [], by omega, .look hl, by simp, run⟩
  | capture index r ih =>
    intro n pc i notes final at' run
    simp only [emit, List.cons_append, codeAt_cons_iff, codeAt_append_iff, length_emit] at at'
    obtain ⟨first, inside, last, _⟩ := at'
    obtain ⟨m, t, rfl, step, run⟩ := run_goes_on run first (by simp)
    obtain rfl := (next_save_iff first).mp step
    obtain ⟨m', j, added, le, matched, slots, run⟩ := ih inside run
    obtain ⟨m'', t, rfl, step, run⟩ := run_goes_on run last (by simp)
    obtain rfl := (next_save_iff last).mp step
    refine ⟨m'', j, (2 * index + 1, j) :: added ++ [(2 * index, i)], by omega, .capture matched,
      ?_, ?_⟩
    · simp only [List.cons_append, List.mem_cons, List.mem_append, groups]
      -- the first note and the last are of the group itself, and those between of groups inside
      rintro note (rfl | h | rfl | h)
      · exact .inl (by omega)
      · exact .inr (slots note h)
      · exact .inl (by omega)
      · cases h
    · rw [size, show pc + (r.size + 2) = pc + 1 + r.size + 1 by omega]
      simpa using run
  | seq a b iha ihb =>
    intro n pc i notes final at' run
    simp only [emit, codeAt_append_iff, length_emit] at at'
    obtain ⟨m₁, j, added₁, le₁, matched₁, slots₁, run₁⟩ := iha at'.1 run
    obtain ⟨m₂, k, added₂, le₂, matched₂, slots₂, run₂⟩ := ihb at'.2 run₁
    refine ⟨m₂, k, added₂ ++ added₁, by omega, .seq matched₁ matched₂, ?_, ?_⟩
    · refine List.forall_mem_append.mpr ⟨fun note h => ?_, fun note h => ?_⟩
      · exact List.mem_append_right _ (slots₂ note h)
      · exact List.mem_append_left _ (slots₁ note h)
    · rw [size, ← Nat.add_assoc, List.append_assoc]
      exact run₂
  | alt a b iha ihb =>
    intro n pc i notes final at' run
    simp only [emit, List.cons_append, codeAt_cons_iff, codeAt_append_iff, length_emit] at at'
    obtain ⟨split, left, jump, right⟩ := at'
    rw [show pc + 1 + a.size + 1 = pc + a.size + 2 by omega] at right
    obtain ⟨m, t, rfl, step, run⟩ := run_goes_on run split (by simp)
    rcases (next_split_iff split).mp step with rfl | rfl
    · obtain ⟨m', j, added, le, matched, slots, run⟩ := iha left run
      obtain ⟨m'', t, rfl, step, run⟩ := run_goes_on run jump (by simp)
      obtain rfl := (next_jump_iff jump).mp step
      refine ⟨m'', j, added, by omega, .altLeft matched, ?_, ?_⟩
      · exact fun note h => List.mem_append_left _ (slots note h)
      · rw [size, show pc + (a.size + b.size + 2) = pc + a.size + b.size + 2 by omega]
        exact run
    · obtain ⟨m', j, added, le, matched, slots, run⟩ := ihb right run
      refine ⟨m', j, added, by omega, .altRight matched, ?_, ?_⟩
      · exact fun note h => List.mem_append_right _ (slots note h)
      · rw [size, show pc + (a.size + b.size + 2) = pc + a.size + 2 + b.size by omega]
        exact run
  | opt greedy r ih =>
    intro n pc i notes final at' run
    obtain ⟨here, inside⟩ := codeAt_cons_iff.mp at'
    obtain ⟨m, t, rfl, step, run⟩ := run_goes_on run here choose_ne_accept
    rcases (next_choose_iff here).mp step with rfl | rfl
    · obtain ⟨m', j, added, le, matched, slots, run⟩ := ih inside run
      refine ⟨m', j, added, by omega, .optOne matched, slots, ?_⟩
      rw [size, show pc + (r.size + 1) = pc + 1 + r.size by omega]
      exact run
    · exact ⟨m, i, [], by omega, .optNone i, by simp, run⟩
  | star greedy r ih =>
    intro n pc i notes final at' run
    have inside := (codeAt_append_iff.mp (codeAt_cons_iff.mp at').2).1
    exact run_star (ih inside) at' run
  | plus greedy r ih =>
    intro n pc i notes final at' run
    have inside := (codeAt_append_iff.mp at').1
    exact run_plus (ih inside) at' run

/-! ## Whole programs -/

/-- The code of an expression stands in its program between the two notes of the whole match. -/
theorem codeAt_program (r : Term) :
    r.program[0]? = some (.save 0) ∧ CodeAt r.program 1 (r.emit 1) ∧
      r.program[1 + r.size]? = some (.save 1) ∧ r.program[2 + r.size]? = some .accept := by
  have h : CodeAt r.program 0 ((Term.capture 0 r).emit 0 ++ [.accept]) := codeAt_toArray _
  simp only [emit, List.cons_append, List.append_assoc, codeAt_cons_iff, codeAt_append_iff,
    length_emit, List.nil_append] at h
  obtain ⟨first, inside, last, stop, _⟩ := h
  refine ⟨first, inside, last, ?_⟩
  rw [show 2 + r.size = 0 + 1 + r.size + 1 by omega]
  exact stop

/-- The program of an expression accepts exactly what the expression matches; it notes the whole
match as group zero, and between its two notes only groups of the expression. -/
theorem matches_of_run_program (r : Term) {i : Nat} {final : List (Nat × Nat)} :
    (∃ n, Run r.program text n ⟨0, i, []⟩ final) →
      ∃ j added, r.Matches text i j ∧ (∀ note ∈ added, note.1 / 2 ∈ r.groups) ∧
        final = (1, j) :: added ++ [(0, i)] := by
  rintro ⟨n, run⟩
  obtain ⟨first, inside, last, stop⟩ := codeAt_program r
  obtain ⟨m, t, rfl, step, run⟩ := run_goes_on run first (by simp)
  obtain rfl := (next_save_iff first).mp step
  obtain ⟨m', j, added, le, matched, slots, run⟩ := run_emit r inside run
  obtain ⟨m'', t, rfl, step, run⟩ := run_goes_on run last (by simp)
  obtain rfl := (next_save_iff last).mp step
  refine ⟨j, added, matched, slots, ?_⟩
  rcases run_cases run with ⟨_, rfl⟩ | ⟨m₃, t, _, step, _⟩
  · simp
  · obtain ⟨threads, ran, _⟩ := step
    rw [show 2 + r.size = 1 + r.size + 1 by omega] at stop
    rw [step_accepted_iff.mpr stop] at ran
    cases ran

/-- Where an expression matches, its program accepts. With `matches_of_run_program`, acceptance by
the program and matching by the expression are the same. -/
theorem Matches.run_program {r : Term} {i j : Nat} (h : r.Matches text i j) :
    ∃ n final, Run r.program text n ⟨0, i, []⟩ final := by
  obtain ⟨first, inside, last, stop⟩ := codeAt_program r
  obtain ⟨notes, steps⟩ := h.steps_emit 1 [(0, i)] inside
  have accept : Run r.program text 0 ⟨1 + r.size + 1, j, (1, j) :: notes⟩ ((1, j) :: notes) :=
    .accept (step_accepted_iff.mpr (by
      rw [show 1 + r.size + 1 = 2 + r.size by omega]
      exact stop))
  have whole := (Thread.Steps.head ((next_save_iff first).mpr rfl) steps).trans
    (.single ((next_save_iff last).mpr rfl))
  obtain ⟨n, run⟩ := whole.run accept
  exact ⟨n, _, run⟩

end Term

end TokenClassifier.Regex
