import TokenClassifier.Proofs.Regex.Run

/-!
# The search finds a run if there is one

The search marks every pair of an address and a place that it has explored and passes it over the
next time. That loses nothing, by one invariant: whatever a marked pair leads to is marked as well
or still on the stack (`Settled`). When the stack runs out, the marked pairs are closed under the
steps of the program, and none of them accepts.

The fuel of the search is an upper bound on the rounds left: a round that marks a pair takes one
thread off the stack and adds two at most, and any other round takes one off.
-/

namespace TokenClassifier.Regex

variable {code : Array Instr} {text : Array Char}

/-! ## Pairs of an address and a place -/

/-- The places noted have no influence on what a thread leads to. -/
theorem Thread.Next.renote {t t' : Thread} (h : t.Next code text t') (notes : List (Nat × Nat)) :
    ∃ notes', Thread.Next code text ⟨t.pc, t.place, notes⟩ ⟨t'.pc, t'.place, notes'⟩ := by
  obtain ⟨pc, place, old⟩ := t
  cases hi : code[pc]? with
  | none =>
    obtain ⟨threads, ran, mem⟩ := h
    simp only [Thread.step, hi, Outcome.goOn.injEq] at ran
    simp [← ran] at mem
  | some instr =>
    cases instr with
    | take s =>
      obtain ⟨c, hc, hs, rfl⟩ := (next_take_iff hi).mp h
      exact ⟨notes, (next_take_iff hi).mpr ⟨c, hc, hs, rfl⟩⟩
    | look l =>
      obtain ⟨hl, rfl⟩ := (next_look_iff hi).mp h
      exact ⟨notes, (next_look_iff hi).mpr ⟨hl, rfl⟩⟩
    | save slot =>
      obtain rfl := (next_save_iff hi).mp h
      exact ⟨_, (next_save_iff hi).mpr rfl⟩
    | jump target =>
      obtain rfl := (next_jump_iff hi).mp h
      exact ⟨notes, (next_jump_iff hi).mpr rfl⟩
    | split first second =>
      rcases (next_split_iff hi).mp h with rfl | rfl
      · exact ⟨notes, (next_split_iff hi).mpr (.inl rfl)⟩
      · exact ⟨notes, (next_split_iff hi).mpr (.inr rfl)⟩
    | accept =>
      obtain ⟨threads, ran, _⟩ := h
      rw [step_accepted_iff.mpr hi] at ran
      cases ran

/-- A step stays inside of the text. -/
theorem Thread.Next.place_le {t t' : Thread} (h : t.Next code text t')
    (inside : t.place ≤ text.size) : t'.place ≤ text.size := by
  obtain ⟨threads, ran, mem⟩ := h
  unfold Thread.step at ran
  split at ran
  · cases ran; cases mem
  · cases ran
  · split at ran
    next c hc =>
      obtain ⟨lt, _⟩ := Array.getElem?_eq_some_iff.mp hc
      cases ran
      split at mem
      · cases List.mem_singleton.mp mem
        exact lt
      · cases mem
    · cases ran; cases mem
  · cases ran
    split at mem
    · cases List.mem_singleton.mp mem
      exact inside
    · cases mem
  · cases ran
    cases List.mem_singleton.mp mem
    exact inside
  · cases ran
    cases List.mem_singleton.mp mem
    exact inside
  · cases ran
    rcases List.mem_cons.mp mem with rfl | mem
    · exact inside
    · cases List.mem_singleton.mp mem
      exact inside

/-- A step leads to two threads at most. -/
theorem Thread.length_step_le {t : Thread} {threads : List Thread}
    (h : t.step code text = .goOn threads) : threads.length ≤ 2 := by
  unfold Thread.step at h
  repeat' split at h
  all_goals cases h
  all_goals simp

/-- Inside of the text a key names one pair. -/
theorem Thread.key_injective {t t' : Thread} (inside : t.place ≤ text.size)
    (inside' : t'.place ≤ text.size) (h : t.key text = t'.key text) :
    t.pc = t'.pc ∧ t.place = t'.place := by
  unfold Thread.key at h
  have quotient : ∀ q {r : Nat}, r ≤ text.size →
      (q * (text.size + 1) + r) / (text.size + 1) = q := by
    intro q r hr
    rw [Nat.mul_comm, Nat.mul_add_div (by omega), Nat.div_eq_of_lt (by omega), Nat.add_zero]
  have hpc : t.pc = t'.pc := by
    rw [← quotient t.pc inside, h, quotient t'.pc inside']
  rw [hpc] at h
  exact ⟨hpc, by omega⟩

/-- A pair is numbered below the number of pairs exactly if its address is in the program. -/
theorem Thread.key_lt_iff {t : Thread} (inside : t.place ≤ text.size) :
    t.key text < pairCount code text ↔ t.pc < code.size := by
  unfold Thread.key pairCount
  constructor
  · intro h
    refine Nat.lt_of_not_le fun hge => ?_
    have := Nat.mul_le_mul_right (text.size + 1) hge
    omega
  · intro h
    have := Nat.mul_le_mul_right (text.size + 1) (Nat.succ_le_of_lt h)
    rw [Nat.succ_mul] at this
    omega

/-! ## What is found is a run -/

/-- What the search finds is where a run from some thread of the stack ends. -/
theorem run_of_explore : ∀ {fuel : Nat} {seen : Array Bool} {stack : List Thread}
    {final : List (Nat × Nat)}, explore code text fuel seen stack = some final →
      ∃ t ∈ stack, ∃ n, Run code text n t final := by
  intro fuel
  induction fuel with
  | zero => intro seen stack final h; cases h
  | succ fuel ih =>
    intro seen stack final h
    cases stack with
    | nil => cases h
    | cons t stack =>
      rw [explore] at h
      split at h
      · obtain ⟨t', mem, run⟩ := ih h
        exact ⟨t', List.mem_cons_of_mem _ mem, run⟩
      · split at h
        next accepted =>
          cases h
          exact ⟨t, List.mem_cons_self, 0, .accept accepted⟩
        next threads ran =>
          obtain ⟨t', mem, n, run⟩ := ih h
          rcases List.mem_append.mp mem with mem | mem
          · exact ⟨t, List.mem_cons_self, n + 1, .next ⟨threads, ran, mem⟩ run⟩
          · exact ⟨t', List.mem_cons_of_mem _ mem, n, run⟩

/-! ## No run is missed -/

/-- A pair that was explored, or that no exploring can make anything of. -/
def Thread.Marked (text : Array Char) (seen : Array Bool) (t : Thread) : Prop :=
  seen.getD (t.key text) true = true

/-- The invariant of the search. A marked pair does not accept, and what it leads to is marked or
still to be explored. -/
def Settled (code : Array Instr) (text : Array Char) (seen : Array Bool) (stack : List Thread) :
    Prop :=
  ∀ t : Thread, t.place ≤ text.size → t.Marked text seen →
    t.step code text ≠ .accepted ∧
      ∀ t', t.Next code text t' →
        t'.Marked text seen ∨ ∃ s ∈ stack, s.pc = t'.pc ∧ s.place = t'.place

/-- Being marked depends on the pair alone. -/
theorem Thread.Marked.congr {seen : Array Bool} {t t' : Thread} (h : t.Marked text seen)
    (hpc : t.pc = t'.pc) (hplace : t.place = t'.place) : t'.Marked text seen := by
  unfold Thread.Marked Thread.key at *
  rwa [← hpc, ← hplace]

/-- With nothing left to explore, no run begins at a marked pair. -/
theorem Settled.no_run {seen : Array Bool} (settled : Settled code text seen []) {n : Nat}
    {t : Thread} {final : List (Nat × Nat)} (run : Run code text n t final) :
    t.place ≤ text.size → ¬ t.Marked text seen := by
  induction run with
  | accept accepted => exact fun inside marked => (settled _ inside marked).1 accepted
  | next step _ ih =>
    intro inside marked
    rcases (settled _ inside marked).2 _ step with marked' | ⟨s, mem, _⟩
    · exact ih (step.place_le inside) marked'
    · cases mem

/-- Taking a marked pair off the stack keeps the invariant. -/
theorem Settled.pop {seen : Array Bool} {t : Thread} {stack : List Thread}
    (settled : Settled code text seen (t :: stack)) (marked : t.Marked text seen) :
    Settled code text seen stack := by
  intro u inside hu
  refine ⟨(settled u inside hu).1, fun u' step => ?_⟩
  rcases (settled u inside hu).2 u' step with h | ⟨s, mem, hpc, hplace⟩
  · exact .inl h
  · rcases List.mem_cons.mp mem with rfl | mem
    · exact .inl (marked.congr hpc hplace)
    · exact .inr ⟨s, mem, hpc, hplace⟩

/-- Marking a pair marks it and unmarks none. -/
theorem marked_set_iff {seen : Array Bool} {t u : Thread}
    (unmarked : ¬ t.Marked text seen) :
    u.Marked text (seen.set! (t.key text) true) ↔
      u.key text = t.key text ∨ u.Marked text seen := by
  unfold Thread.Marked at *
  have lt : t.key text < seen.size := by
    refine Nat.lt_of_not_le fun hge => unmarked ?_
    simp [Array.getD, Nat.not_lt.mpr hge]
  by_cases he : u.key text = t.key text
  · simp [he, Array.getD, lt]
  · rw [Array.set!_eq_setIfInBounds, Array.getD_eq_getD_getElem?, Array.getD_eq_getD_getElem?,
      Array.getElem?_setIfInBounds_ne (Ne.symm he)]
    simp [he]

/-- Exploring a pair keeps the invariant. -/
theorem Settled.push {seen : Array Bool} {t : Thread} {stack threads : List Thread}
    (settled : Settled code text seen (t :: stack)) (inside : t.place ≤ text.size)
    (unmarked : ¬ t.Marked text seen) (ran : t.step code text = .goOn threads) :
    Settled code text (seen.set! (t.key text) true) (threads ++ stack) := by
  intro u inU hu
  rcases (marked_set_iff unmarked).mp hu with key | hu
  · obtain ⟨hpc, hplace⟩ := Thread.key_injective inU inside key
    constructor
    · intro accepted
      rw [step_accepted_iff, hpc, ← step_accepted_iff, ran] at accepted
      cases accepted
    · intro u' step
      obtain ⟨notes', step'⟩ := step.renote t.notes
      rw [hpc, hplace] at step'
      obtain ⟨threads', ran', mem⟩ := step'
      cases ran.symm.trans ran'
      exact .inr ⟨_, List.mem_append_left _ mem, rfl, rfl⟩
  · refine ⟨(settled u inU hu).1, fun u' step => ?_⟩
    rcases (settled u inU hu).2 u' step with h | ⟨s, mem, hpc, hplace⟩
    · exact .inl ((marked_set_iff unmarked).mpr (.inr h))
    · rcases List.mem_cons.mp mem with rfl | mem
      · refine .inl ((marked_set_iff unmarked).mpr (.inl ?_))
        unfold Thread.key
        rw [hpc, hplace]
      · exact .inr ⟨s, List.mem_append_right _ mem, hpc, hplace⟩

/-- The number of pairs not marked yet. -/
def unmarkedCount (seen : Array Bool) : Nat := seen.count false

/-- Marking a pair leaves one fewer to mark. -/
theorem unmarkedCount_set {seen : Array Bool} {t : Thread} (unmarked : ¬ t.Marked text seen) :
    unmarkedCount (seen.set! (t.key text) true) + 1 = unmarkedCount seen := by
  unfold Thread.Marked Array.getD at unmarked
  unfold unmarkedCount
  split at unmarked
  next lt =>
    have entry : seen[t.key text] = false := by simpa using unmarked
    rw [Array.set!_eq_setIfInBounds, Array.setIfInBounds_def, dif_pos lt, Array.count_set, entry]
    have : 0 < seen.count false := Array.count_pos_iff.mpr (entry ▸ Array.getElem_mem lt)
    simp
    omega
  next => exact absurd rfl unmarked

/-- A search that finds nothing has missed no run from its stack or from a marked pair. -/
theorem no_run_of_explore : ∀ {fuel : Nat} {seen : Array Bool} {stack : List Thread},
    explore code text fuel seen stack = none → Settled code text seen stack →
    (∀ t ∈ stack, t.place ≤ text.size) → 2 * unmarkedCount seen + stack.length < fuel →
      ∀ t : Thread, t.place ≤ text.size → t.Marked text seen ∨ t ∈ stack →
        ∀ n final, ¬ Run code text n t final := by
  intro fuel
  induction fuel with
  | zero => intro seen stack _ _ _ enough; omega
  | succ fuel ih =>
    intro seen stack h settled inside enough
    cases stack with
    | nil =>
      intro t inT ht n final run
      rcases ht with marked | mem
      · exact settled.no_run run inT marked
      · cases mem
    | cons t stack =>
      have inT := inside t List.mem_cons_self
      have inRest : ∀ u ∈ stack, u.place ≤ text.size := fun u hu =>
        inside u (List.mem_cons_of_mem _ hu)
      rw [explore] at h
      rw [List.length_cons] at enough
      split at h
      next marked =>
        intro u inU hu
        refine ih h (settled.pop marked) inRest (by omega) u inU ?_
        rcases hu with hu | hu
        · exact .inl hu
        · rcases List.mem_cons.mp hu with rfl | hu
          · exact .inl marked
          · exact .inr hu
      next unmarked =>
        split at h
        next => cases h
        next threads ran =>
          -- a step adds two threads at most, and the pair that it marks pays for both
          have few := Thread.length_step_le ran
          have fewer := unmarkedCount_set unmarked
          intro u inU hu
          refine ih h (settled.push inT unmarked ran) ?_ ?_ u inU ?_
          · intro v hv
            rcases List.mem_append.mp hv with hv | hv
            · exact Thread.Next.place_le ⟨threads, ran, hv⟩ inT
            · exact inRest v hv
          · rw [List.length_append]
            omega
          · rcases hu with hu | hu
            · exact .inl ((marked_set_iff unmarked).mpr (.inr hu))
            · rcases List.mem_cons.mp hu with rfl | hu
              · exact .inl ((marked_set_iff unmarked).mpr (.inl rfl))
              · exact .inr (List.mem_append_right _ hu)

/-- Before the search nothing is marked that could lead anywhere. -/
theorem settled_start (stack : List Thread) :
    Settled code text (Array.replicate (pairCount code text) false) stack := by
  intro t inside marked
  have outside : code[t.pc]? = none := by
    rw [Array.getElem?_eq_none_iff]
    refine Nat.le_of_not_lt fun lt => ?_
    have := (Thread.key_lt_iff inside).mpr lt
    simp [Thread.Marked, Array.getD, this] at marked
  constructor
  · rw [Ne, step_accepted_iff, outside]
    simp
  · rintro t' ⟨threads, ran, mem⟩
    simp only [Thread.step, outside, Outcome.goOn.injEq] at ran
    simp [← ran] at mem

/-! ## The whole search -/

/-- What a search finds is where a run from the first instruction ends. -/
theorem run_of_search {final : List (Nat × Nat)} (h : search? code text = some final) :
    ∃ i ≤ text.size, ∃ n, Run code text n ⟨0, i, []⟩ final := by
  obtain ⟨t, mem, n, run⟩ := run_of_explore h
  obtain ⟨i, hi, rfl⟩ := List.mem_map.mp mem
  exact ⟨i, by simpa [Nat.lt_succ_iff] using hi, n, run⟩

/-- A search fails only where no place of the text begins a run. -/
theorem no_run_of_search (h : search? code text = none) {i n : Nat} {final : List (Nat × Nat)}
    (hi : i ≤ text.size) : ¬ Run code text n ⟨0, i, []⟩ final := by
  refine no_run_of_explore h (settled_start _) ?_ ?_ ⟨0, i, []⟩ hi (.inr ?_) n final
  · intro t mem
    obtain ⟨place, hp, rfl⟩ := List.mem_map.mp mem
    simpa [Nat.lt_succ_iff] using hp
  · simp [unmarkedCount, startThreads]
  · exact List.mem_map.mpr ⟨i, by simpa [Nat.lt_succ_iff] using hi, rfl⟩

end TokenClassifier.Regex
