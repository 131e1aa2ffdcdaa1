import TokenClassifier.Proofs.Except
import TokenClassifier.Proofs.Regex.Run
import TokenClassifier.Proofs.Regex.Tree
import TokenClassifier.Regex.Meaning

/-!
# What numbers of groups mean for a match

Nothing but the notes of a match. The same tree with other numbers gives the same expression with
other numbers (`Syntax.toTerm_forget`), and what an expression matches has nothing to do with them
(`Term.matches_forget_iff`).

The number zero is the one that the whole match bears. No group of a pattern bears it
(`Syntax.zero_notMem_groups_parse`), and settling the flags makes no new groups
(`Syntax.groups_toTerm`).
-/

namespace TokenClassifier.Regex

/-! ## Expressions without numbers -/

namespace Term

/-- An expression in which every group has the number zero. -/
def forget : Term → Term
  | .capture _ r => .capture 0 r.forget
  | .seq a b => .seq a.forget b.forget
  | .alt a b => .alt a.forget b.forget
  | .opt greedy r => .opt greedy r.forget
  | .star greedy r => .star greedy r.forget
  | .plus greedy r => .plus greedy r.forget
  | r => r

/-- Whether every match takes a character does not depend on numbers. `atLeast` asks this, so it has
to be known before repetitions can be compared. -/
@[simp] theorem consumes_forget (r : Term) : r.forget.consumes = r.consumes := by
  induction r with
  | capture _ r ih => exact ih
  | seq a b iha ihb => simp [forget, consumes, iha, ihb]
  | alt a b iha ihb => simp [forget, consumes, iha, ihb]
  | plus _ r ih => exact ih
  | _ => rfl

/-- Whether no match takes a character does not depend on numbers either. This is what `repeated`
asks. -/
@[simp] theorem onlyEmpty_forget (r : Term) : r.forget.onlyEmpty = r.onlyEmpty := by
  induction r with
  | capture _ r ih => exact ih
  | seq a b iha ihb => simp [forget, onlyEmpty, iha, ihb]
  | alt a b iha ihb => simp [forget, onlyEmpty, iha, ihb]
  | opt _ r ih | star _ r ih | plus _ r ih => exact ih
  | _ => rfl

/-- Repeating so many times and forgetting numbers can be done in either order. -/
theorem forget_power (r : Term) : ∀ n, (r.power n).forget = r.forget.power n
  | 0 => rfl
  | 1 => rfl
  | n + 2 => congrArg (Term.seq r.forget) (forget_power r (n + 1))

/-- The same for repeating at most so many times. -/
theorem forget_upTo (greedy : Bool) (r : Term) :
    ∀ n, (r.upTo greedy n).forget = r.forget.upTo greedy n
  | 0 => rfl
  | 1 => rfl
  | n + 2 => congrArg (fun s => Term.opt greedy (.seq r.forget s)) (forget_upTo greedy r (n + 1))

/-- The same for repeating so many times or more, where the case of no times at all depends on
whether the expression takes characters. -/
theorem forget_atLeast (greedy : Bool) (r : Term) :
    ∀ n, (r.atLeast greedy n).forget = r.forget.atLeast greedy n
  | 0 => by
    rw [atLeast, atLeast, consumes_forget]
    split <;> rfl
  | 1 => rfl
  | n + 2 => congrArg (fun s => Term.seq s (.plus greedy r.forget)) (forget_power r (n + 1))

/-- The same for both bounds, by the three lemmas before. -/
theorem forget_between (greedy : Bool) (r : Term) (min : Nat) (max : Option Nat) :
    (r.between greedy min max).forget = r.forget.between greedy min max := by
  cases max with
  | none => exact forget_atLeast greedy r min
  | some max =>
    simp only [between]
    split
    · exact forget_power r min
    · split
      · exact forget_upTo greedy r max
      · rw [forget, forget_power, forget_upTo]

/-- Numbers may be forgotten before or after an expression is repeated. All that settles the shape
of a repetition is the bounds and the two questions above. -/
theorem forget_repeated (greedy : Bool) (r : Term) (min : Nat) (max : Option Nat) :
    (r.repeated greedy min max).forget = r.forget.repeated greedy min max := by
  rw [repeated, repeated, onlyEmpty_forget]
  split <;> exact forget_between greedy r _ _

variable {text : Array Char}

/-- What repeats a larger expression matches more. By induction on the rounds, each of which is a
match of the larger one. -/
theorem Matches.star_mono {greedy : Bool} {r r' : Term} {i j : Nat}
    (sub : ∀ i j, r.Matches text i j → r'.Matches text i j)
    (h : (Term.star greedy r).Matches text i j) : (Term.star greedy r').Matches text i j := by
  generalize he : Term.star greedy r = s at h
  induction h with
  | starNone => cases he; exact .starNone _
  | starMore first _ _ ih => cases he; exact .starMore (sub _ _ first) (ih rfl)
  | _ => cases he

/-- The same for one round or more, where the first round is a match of the larger expression
too. -/
theorem Matches.plus_mono {greedy : Bool} {r r' : Term} {i j : Nat}
    (sub : ∀ i j, r.Matches text i j → r'.Matches text i j)
    (h : (Term.plus greedy r).Matches text i j) : (Term.plus greedy r').Matches text i j := by
  generalize he : Term.plus greedy r = s at h
  induction h with
  | plusOne first _ => cases he; exact .plusOne (sub _ _ first)
  | plusMore first _ _ ih => cases he; exact .plusMore (sub _ _ first) (ih rfl)
  | _ => cases he

/-- Numbers do not matter for what matches: an expression and the same with every group numbered
zero match alike, in every text and at every place. By induction on the expression, with the two
lemmas above for the loops. -/
theorem matches_forget_iff {r : Term} : ∀ {i j : Nat},
    r.forget.Matches text i j ↔ r.Matches text i j := by
  induction r with
  | empty | chars | look => exact Iff.rfl
  | capture index r ih => simp only [forget, matches_capture_iff, ih, implies_true]
  | seq a b iha ihb => simp only [forget, matches_seq_iff, iha, ihb, implies_true]
  | alt a b iha ihb => simp only [forget, matches_alt_iff, iha, ihb, implies_true]
  | opt greedy r ih => simp only [forget, matches_opt_iff, ih, implies_true]
  | star greedy r ih =>
    exact ⟨.star_mono fun _ _ => ih.mp, .star_mono fun _ _ => ih.mpr⟩
  | plus greedy r ih =>
    exact ⟨.plus_mono fun _ _ => ih.mp, .plus_mono fun _ _ => ih.mpr⟩

end Term

/-- An expression and its flags, without numbers. -/
def forgetOut (out : Term × Mode) : Term × Mode := (out.1.forget, out.2)

/-- The same tree with other numbers means the same with other numbers. Flags are settled from left
to right, so the mode that the tree leaves behind is the same as well. -/
theorem Syntax.toTerm_forget (tree : Syntax) : ∀ m : Mode,
    tree.forget.toTerm m = (tree.toTerm m).map forgetOut := by
  induction tree with
  | empty | flags | anchor => exact fun m => rfl
  | char l => intro m; simp only [forget, toTerm]; cases m.literal l <;> rfl
  | dot => intro m; simp only [forget, toTerm]; cases m.dot <;> rfl
  | shorthand negated k =>
    intro m; simp only [forget, toTerm]; cases m.negate negated (k.toSet m) <;> rfl
  | property negated p =>
    intro m; simp only [forget, toTerm]; cases m.property negated p <;> rfl
  | bracket negated inner =>
    intro m
    simp only [forget, toTerm]
    cases inner.toSet m with
    | error e => rfl
    | ok s => simp only [ok_bind]; cases m.negate negated (m.fold s) <;> rfl
  | capture index inner ih =>
    intro m; simp only [forget, toTerm, ih]; cases inner.toTerm m <;> rfl
  | scope changes inner ih =>
    intro m; simp only [forget, toTerm, ih]; cases inner.toTerm (m.apply changes) <;> rfl
  | repeated count greedy inner ih =>
    intro m
    simp only [forget, toTerm, ih]
    cases inner.toTerm m with
    | error e => rfl
    | ok out =>
      change Except.ok (Term.repeated _ _ _ _, _) = Except.ok (forgetOut (_, _))
      simp only [forgetOut, Term.forget_repeated]
  | concat a b iha ihb | alt a b iha ihb =>
    intro m
    simp only [forget, toTerm, iha]
    cases a.toTerm m with
    | error e => rfl
    | ok out =>
      change (b.forget.toTerm out.2 >>= _) = Except.map _ (b.toTerm out.2 >>= _)
      rw [ihb]
      cases b.toTerm out.2 <;> rfl

/-- Two trees that differ in numbers only mean expressions that differ in numbers only, and one of
them has a meaning if the other has. This is the form in which `toTerm_forget` is used. -/
theorem Syntax.toTerm_of_forget {a b : Syntax} (same : a.forget = b.forget) {m m' : Mode}
    {r : Term} (h : a.toTerm m = .ok (r, m')) :
    ∃ s, b.toTerm m = .ok (s, m') ∧ s.forget = r.forget := by
  have e := toTerm_forget a m
  rw [same, toTerm_forget b, h] at e
  cases hb : b.toTerm m with
  | error e' => rw [hb] at e; cases e
  | ok out =>
    rw [hb] at e
    obtain ⟨s, m''⟩ := out
    obtain ⟨hs, rfl⟩ := Prod.mk.inj (Except.ok.inj e)
    exact ⟨s, rfl, hs⟩

/-! ## Which numbers there are -/

namespace Term

/-- Repeating so many times makes no groups of its own. -/
theorem groups_power (r : Term) : ∀ n, ∀ k ∈ (r.power n).groups, k ∈ r.groups
  | 0, _, h => by cases h
  | 1, _, h => h
  | n + 2, k, h => (List.mem_append.mp h).elim id (groups_power r (n + 1) k)

/-- Repeating at most so many times makes no groups of its own. -/
theorem groups_upTo (greedy : Bool) (r : Term) :
    ∀ n, ∀ k ∈ (r.upTo greedy n).groups, k ∈ r.groups
  | 0, _, h => by cases h
  | 1, _, h => h
  | n + 2, k, h => (List.mem_append.mp h).elim id (groups_upTo greedy r (n + 1) k)

/-- Repeating so many times or more makes no groups of its own. -/
theorem groups_atLeast (greedy : Bool) (r : Term) :
    ∀ n, ∀ k ∈ (r.atLeast greedy n).groups, k ∈ r.groups
  | 0, k, h => by
    rw [atLeast] at h
    split at h <;> exact h
  | 1, _, h => h
  | n + 2, k, h => (List.mem_append.mp h).elim (groups_power r (n + 1) k) id

/-- Repeating makes no groups of its own, whatever the bounds are. There may be fewer than before:
repeating no times at all leaves none. -/
theorem groups_repeated (greedy : Bool) (r : Term) (min : Nat) (max : Option Nat) :
    ∀ k ∈ (r.repeated greedy min max).groups, k ∈ r.groups := by
  have between : ∀ min max, ∀ k ∈ (r.between greedy min max).groups, k ∈ r.groups := by
    intro min max k h
    cases max with
    | none => exact groups_atLeast greedy r min k h
    | some max =>
      simp only [Term.between] at h
      split at h
      · exact groups_power r min k h
      · split at h
        · exact groups_upTo greedy r max k h
        · exact (List.mem_append.mp h).elim (groups_power r _ k) (groups_upTo greedy r _ k)
  unfold repeated
  split <;> exact between _ _

end Term

/-- The numbers of the groups of a tree. -/
def Syntax.groups : Syntax → List Nat
  | .capture index inner => index :: inner.groups
  | .scope _ inner => inner.groups
  | .repeated _ _ inner => inner.groups
  | .concat a b => a.groups ++ b.groups
  | .alt a b => a.groups ++ b.groups
  | _ => []

/-- Settling the flags makes no groups: those of the expression are groups of the tree. By induction
on the tree, where only repetitions need a lemma. -/
theorem Syntax.groups_toTerm (tree : Syntax) : ∀ {m m' : Mode} {r : Term},
    tree.toTerm m = .ok (r, m') → ∀ k ∈ r.groups, k ∈ tree.groups := by
  induction tree with
  | empty | flags | anchor =>
    intro m m' r h k hk
    cases h
    exact hk
  | char l | dot | shorthand | property =>
    intro m m' r h k hk
    obtain ⟨s, _, heq⟩ := bind_eq_ok_iff.mp h
    cases heq
    cases hk
  | bracket negated inner =>
    intro m m' r h k hk
    obtain ⟨s, _, h⟩ := bind_eq_ok_iff.mp h
    obtain ⟨s', _, heq⟩ := bind_eq_ok_iff.mp h
    cases heq
    cases hk
  | capture index inner ih =>
    intro m m' r h k hk
    obtain ⟨⟨r', m''⟩, hi, heq⟩ := bind_eq_ok_iff.mp h
    cases heq
    rcases List.mem_cons.mp hk with rfl | hk
    · exact List.mem_cons_self
    · exact List.mem_cons_of_mem _ (ih hi k hk)
  | scope changes inner ih =>
    intro m m' r h k hk
    obtain ⟨⟨r', m''⟩, hi, heq⟩ := bind_eq_ok_iff.mp h
    cases heq
    exact ih hi k hk
  | repeated count greedy inner ih =>
    intro m m' r h k hk
    obtain ⟨⟨r', m''⟩, hi, heq⟩ := bind_eq_ok_iff.mp h
    cases heq
    exact ih hi k (Term.groups_repeated _ _ _ _ k hk)
  | concat a b iha ihb | alt a b iha ihb =>
    intro m m' r h k hk
    obtain ⟨⟨ra, ma⟩, ha, h⟩ := bind_eq_ok_iff.mp h
    obtain ⟨⟨rb, mb⟩, hb, heq⟩ := bind_eq_ok_iff.mp h
    cases heq
    rcases List.mem_append.mp hk with hk | hk
    · exact List.mem_append_left _ (iha ha k hk)
    · exact List.mem_append_right _ (ihb hb k hk)

/-- The groups of a sequence are those of its parts. -/
theorem Syntax.mem_groups_sequence {k : Nat} : ∀ {parts : List Syntax},
    k ∈ (sequence parts).groups ↔ ∃ r ∈ parts, k ∈ r.groups
  | [] => by simp [sequence, groups]
  | [a] => by simp [sequence]
  | a :: b :: rest => by
    have ih := @mem_groups_sequence k (b :: rest)
    simp only [sequence, groups, List.mem_append, ih, List.mem_cons, exists_eq_or_imp]

/-- The groups of several alternatives are those of the alternatives. -/
theorem Syntax.mem_groups_alternation {k : Nat} : ∀ {parts : List Syntax},
    k ∈ (alternation parts).groups ↔ ∃ r ∈ parts, k ∈ r.groups
  | [] => by simp [alternation, groups]
  | [a] => by simp [alternation]
  | a :: b :: rest => by
    have ih := @mem_groups_alternation k (b :: rest)
    simp only [alternation, groups, List.mem_append, ih, List.mem_cons, exists_eq_or_imp]

/-! ## The number zero -/

/-- No part of an open group has a group with the number zero. -/
def Branches.Numbered (b : Branches) : Prop :=
  ∀ r ∈ b.ended ++ b.parts, 0 ∉ r.groups

/-- Where a branch ends, its parts become one, which has no group zero if none of them has. -/
theorem Branches.Numbered.bar {b : Branches} (h : b.Numbered) : b.bar.Numbered := by
  intro r hr
  simp only [Branches.bar, List.append_nil, List.mem_cons] at hr
  rcases hr with rfl | hr
  · rw [Syntax.mem_groups_sequence]
    rintro ⟨s, hs, hz⟩
    exact h s (List.mem_append_right _ (List.mem_reverse.mp hs)) hz
  · exact h r (List.mem_append_left _ hr)

/-- The tree of branches without a group zero has none. -/
theorem Branches.Numbered.toSyntax {b : Branches} (h : b.Numbered) : 0 ∉ b.toSyntax.groups := by
  rw [Branches.toSyntax, Syntax.mem_groups_alternation]
  rintro ⟨r, hr, hz⟩
  exact h.bar r (List.mem_append_left _ (List.mem_reverse.mp hr)) hz

/-- A part without a group zero may be put behind the others. -/
theorem Branches.Numbered.push {b : Branches} (h : b.Numbered) {r : Syntax} (hr : 0 ∉ r.groups) :
    (b.push r).Numbered := by
  intro s hs
  simp only [Branches.push, List.mem_append, List.mem_cons] at hs
  rcases hs with hs | rfl | hs
  · exact h s (List.mem_append_left _ hs)
  · exact hr
  · exact h s (List.mem_append_right _ hs)

/-- A draft in which no group has the number zero, and the next one will not either. -/
structure Draft.Numbered (d : Draft) : Prop where
  next : d.next ≠ 0
  current : d.current.Numbered
  outer : ∀ frame ∈ d.outer, frame.1 ≠ .capture 0 ∧ frame.2.Numbered

/-- A group of any number but zero around an inside without that number has no group zero. -/
theorem GroupKind.zero_notMem_groups {kind : GroupKind} (hk : kind ≠ .capture 0) {r : Syntax}
    (hr : 0 ∉ r.groups) : 0 ∉ (kind.toSyntax r).groups := by
  cases kind with
  | capture index =>
    intro h
    rcases List.mem_cons.mp h with rfl | h
    · exact hk rfl
    · exact hr h
  | scope changes => exact hr

/-- The constructs that a token completes by itself have no groups. -/
def Token.Plain : Token → Prop
  | .item r => 0 ∉ r.groups
  | _ => True

/-- A token keeps a draft numbered. The only tokens that give numbers are those that open groups,
and the number that they give is not zero and grows. -/
theorem Draft.Numbered.step {d d' : Draft} (h : d.Numbered) {t : Token} (plain : t.Plain)
    (took : d.step t = .ok d') : d'.Numbered := by
  cases t with
  | item r => cases took; exact ⟨h.next, h.current.push plain, h.outer⟩
  | openCapture name =>
    obtain ⟨a, ha, heq⟩ := bind_eq_ok_iff.mp took
    cases heq
    obtain ⟨hnext, hcurrent, houter⟩ := addName_eq ha
    refine ⟨Nat.succ_ne_zero _, fun r hr => (by cases hr), ?_⟩
    intro frame hf
    rcases List.mem_cons.mp hf with rfl | hf
    · refine ⟨?_, hcurrent ▸ h.current⟩
      rw [hnext]
      exact fun e => h.next (GroupKind.capture.inj e)
    · exact h.outer frame (houter ▸ hf)
  | openScope changes =>
    cases took
    refine ⟨h.next, fun r hr => (by cases hr), ?_⟩
    intro frame hf
    rcases List.mem_cons.mp hf with rfl | hf
    · exact ⟨fun e => (by cases e), h.current⟩
    · exact h.outer frame hf
  | close =>
    change d.leave = _ at took
    unfold leave at took
    split at took
    next => cases took
    next kind around outer hd =>
      cases took
      -- the group got its number when it was opened, and kept it among the outer ones
      have frame := h.outer (kind, around) (hd ▸ List.mem_cons_self)
      refine ⟨h.next, frame.2.push ?_, fun f hf => h.outer f (hd ▸ List.mem_cons_of_mem _ hf)⟩
      exact GroupKind.zero_notMem_groups frame.1 h.current.toSyntax
  | bar => cases took; exact ⟨h.next, h.current.bar, h.outer⟩
  | flags changes => cases took; exact ⟨h.next, h.current.push fun hz => (by cases hz), h.outer⟩
  | repeated count greedy =>
    obtain ⟨b, hb, heq⟩ := bind_eq_ok_iff.mp took
    cases heq
    refine ⟨h.next, ?_, h.outer⟩
    unfold Branches.repeatLast at hb
    split at hb
    · cases hb
    · cases hb
    next r rest _ hp =>
      cases hb
      -- the last construct gives way to its repetition, which has the same groups
      intro s hs
      have all := h.current
      unfold Branches.Numbered at all
      rw [hp] at all
      simp only [List.mem_append, List.mem_cons] at hs
      rcases hs with hs | rfl | hs
      · exact all s (List.mem_append_left _ hs)
      · exact all r (List.mem_append_right _ List.mem_cons_self)
      · exact all s (List.mem_append_right _ (List.mem_cons_of_mem _ hs))

/-- A row of tokens keeps a draft numbered. This is `Draft.Numbered.step` by induction on the
row. -/
theorem Draft.Numbered.foldlM {d d' : Draft} (h : d.Numbered) {ts : List Token}
    (plain : ∀ t ∈ ts, t.Plain) (took : ts.foldlM Draft.step d = .ok d') : d'.Numbered := by
  induction ts generalizing d with
  | nil => cases took; exact h
  | cons t ts ih =>
    rw [List.foldlM_cons] at took
    obtain ⟨a, ha, took⟩ := bind_eq_ok_iff.mp took
    exact ih (h.step (plain t List.mem_cons_self) ha)
      (fun u hu => plain u (List.mem_cons_of_mem _ hu)) took

namespace Token

/-- What is read as one token has no groups of its own: heads of groups are tokens of another kind,
and everything that is complete by itself is a character, a set, or a condition. -/
theorem plain_readFrom {verbose : Bool} {c : Char} {cs after : List Char} {t : Token}
    (h : readFrom verbose c cs = .ok (t, after)) : t.Plain := by
  unfold readFrom at h
  split at h
  next =>
    -- a parenthesis opens a group or changes flags
    have nothing : ∀ r, t ≠ .item r := by
      rintro r rfl
      unfold readOpen at h
      split at h
      iterate 4 cases h
      · obtain ⟨_, _, heq⟩ := bind_eq_ok_iff.mp h; cases heq
      · obtain ⟨_, _, heq⟩ := bind_eq_ok_iff.mp h; cases heq
      · obtain ⟨⟨changes, left⟩, _, h⟩ := bind_eq_ok_iff.mp h
        dsimp only at h
        split at h
        · split at h <;> cases h
        · cases h
      · cases h
    cases t with
    | item r => exact absurd rfl (nothing r)
    | _ => trivial
  next => cases h; trivial
  next => cases h; trivial
  next =>
    obtain ⟨⟨inner, left⟩, _, h⟩ := bind_eq_ok_iff.mp h
    dsimp only at h
    split at h
    · cases h; exact fun hz => by cases hz
    · cases h
  next =>
    obtain ⟨⟨count, rest⟩, _, h⟩ := bind_eq_ok_iff.mp h
    obtain ⟨rfl, _⟩ : Token.repeated count (readGreed (skip verbose rest)).1 = t ∧ _ = after := by
      simpa using h
    trivial
  next =>
    obtain ⟨⟨e, left⟩, _, h⟩ := bind_eq_ok_iff.mp h
    cases h
    cases e <;> exact fun hz => by cases hz
  next => cases h; exact fun hz => by cases hz
  next => cases h; exact fun hz => by cases hz
  next => cases h; exact fun hz => by cases hz
  next =>
    split at h
    next count _ =>
      obtain ⟨rfl, _⟩ : Token.repeated count (readGreed cs).1 = t ∧ _ = after := by simpa using h
      trivial
    next => cases h; exact fun hz => by cases hz

/-- All the tokens of a text are plain, in whatever modes they are read. By induction on the fuel,
which goes down with every token. -/
theorem plain_readAll {fuel : Nat} : ∀ {modes : Bool × List Bool} {cs : List Char}
    {ts : List Token}, readAll fuel modes cs = .ok ts → ∀ t ∈ ts, t.Plain := by
  induction fuel with
  | zero => rintro modes cs ts ⟨⟩ t ht; cases ht
  | succ fuel ih =>
    intro modes cs ts h t ht
    rw [readAll] at h
    split at h
    next => cases h; cases ht
    next c rest _ =>
      obtain ⟨⟨u, after⟩, hr, h⟩ := bind_eq_ok_iff.mp h
      obtain ⟨us, hus, heq⟩ := bind_eq_ok_iff.mp h
      cases heq
      rcases List.mem_cons.mp ht with rfl | ht
      · exact plain_readFrom hr
      · exact ih hus t ht

end Token

/-- A tree is what its tokens build, with every group closed and nested within the limit. Everything
below that is said of trees goes back to the draft by this. -/
theorem Syntax.ofTokens_eq_ok_iff {ts : List Token} {tree : Syntax} :
    ofTokens ts = .ok tree ↔ ∃ d, ts.foldlM Draft.step .empty = .ok d ∧ d.outer = [] ∧
      d.current.toSyntax = tree ∧ tree.depth ≤ depthLimit := by
  unfold ofTokens
  rw [bind_eq_ok_iff]
  constructor
  · rintro ⟨d, hd, h⟩
    unfold Draft.finish at h
    split at h
    next none =>
      dsimp only at h
      split at h
      next shallow =>
        cases h
        exact ⟨d, hd, List.isEmpty_iff.mp none, rfl, shallow⟩
      next => cases h
    next => cases h
  · rintro ⟨d, hd, none, rfl, shallow⟩
    refine ⟨d, hd, ?_⟩
    simp [Draft.finish, none, shallow]

/-- The tokens of a pattern, taken at the start of a group of another one, leave the groups around
as they are and build the tree of the pattern, but for the numbers of groups. So a pattern can be
put between parentheses without a change of meaning. -/
theorem Syntax.forget_of_foldlM {ts : List Token} {tree : Syntax} (htree : ofTokens ts = .ok tree)
    {d d' : Draft} (start : d.current = .empty) (took : ts.foldlM Draft.step d = .ok d') :
    d'.outer = d.outer ∧ d'.current.toSyntax.forget = tree.forget := by
  obtain ⟨d₀, took₀, closed, rfl, _⟩ := ofTokens_eq_ok_iff.mp htree
  have like : Draft.Like d.outer .empty d := ⟨congrArg Branches.forget start, [], rfl, rfl⟩
  exact (like.foldlM took₀ took).closed closed

/-- What is read nests within the limit. -/
theorem Syntax.depth_le_of_parse {source : String} {tree : Syntax}
    (h : Syntax.parse source = .ok tree) : tree.depth ≤ depthLimit := by
  obtain ⟨_, _, h⟩ := bind_eq_ok_iff.mp h
  obtain ⟨_, _, _, _, shallow⟩ := ofTokens_eq_ok_iff.mp h
  exact shallow

/-- No group of a pattern has the number zero. Hence the notes of its groups never hide those of the
whole match. -/
theorem Syntax.zero_notMem_groups_parse {source : String} {tree : Syntax}
    (h : Syntax.parse source = .ok tree) : 0 ∉ tree.groups := by
  obtain ⟨ts, hts, h⟩ := bind_eq_ok_iff.mp h
  obtain ⟨d, took, _, rfl, _⟩ := ofTokens_eq_ok_iff.mp h
  have start : Draft.empty.Numbered :=
    ⟨Nat.one_ne_zero, fun r hr => (by cases hr), fun f hf => (by cases hf)⟩
  exact (start.foldlM (Token.plain_readAll hts) took).current.toSyntax

end TokenClassifier.Regex
