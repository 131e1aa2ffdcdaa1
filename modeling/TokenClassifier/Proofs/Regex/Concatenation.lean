import TokenClassifier.Proofs.Regex.Splice

/-!
# The language of a template

A template with a pattern in place of its references stands for a language: the texts that are made
of its literal runs, with a text of the pattern for every reference (`Template.weave`). What the
segments fit is a part of a text, and a condition in the pattern could look at what is around the
part. Without conditions it cannot, and the row of segments then fits exactly that language
(`fits_iff_weave`).

Conditions are told from the tree of the pattern: where none is written, none is in the expression
(`Syntax.lookFree_toTerm`).
-/

namespace TokenClassifier.Regex

open Template

/-! ## Expressions without conditions on places -/

namespace Term

variable {r : Term}

/-- Repeating so many times asks for no conditions on places of its own. -/
theorem lookFree_power (free : r.lookFree = true) : ∀ n, (r.power n).lookFree = true
  | 0 => rfl
  | 1 => free
  | n + 2 => Bool.and_eq_true_iff.mpr ⟨free, lookFree_power free (n + 1)⟩

/-- Repeating at most so many times asks for none either. -/
theorem lookFree_upTo (greedy : Bool) (free : r.lookFree = true) :
    ∀ n, (r.upTo greedy n).lookFree = true
  | 0 => rfl
  | 1 => free
  | n + 2 => Bool.and_eq_true_iff.mpr ⟨free, lookFree_upTo greedy free (n + 1)⟩

/-- Repeating so many times or more asks for none either. -/
theorem lookFree_atLeast (greedy : Bool) (free : r.lookFree = true) :
    ∀ n, (r.atLeast greedy n).lookFree = true
  | 0 => by
    rw [atLeast]
    split <;> exact free
  | 1 => free
  | n + 2 => Bool.and_eq_true_iff.mpr ⟨lookFree_power free (n + 1), free⟩

/-- Repeating asks for no conditions of its own, whatever the bounds are. -/
theorem lookFree_repeated (greedy : Bool) (free : r.lookFree = true) (min : Nat)
    (max : Option Nat) : (r.repeated greedy min max).lookFree = true := by
  have between : ∀ min max, (r.between greedy min max).lookFree = true := by
    intro min max
    cases max with
    | none => exact lookFree_atLeast greedy free min
    | some max =>
      simp only [Term.between]
      split
      · exact lookFree_power free min
      · split
        · exact lookFree_upTo greedy free max
        · exact Bool.and_eq_true_iff.mpr ⟨lookFree_power free min, lookFree_upTo greedy free _⟩
  unfold repeated
  split <;> exact between _ _

end Term

/-- Whether no condition on a place is written in a pattern. -/
def Syntax.anchorFree : Syntax → Bool
  | .anchor _ => false
  | .capture _ inner => inner.anchorFree
  | .scope _ inner => inner.anchorFree
  | .repeated _ _ inner => inner.anchorFree
  | .concat a b => a.anchorFree && b.anchorFree
  | .alt a b => a.anchorFree && b.anchorFree
  | _ => true

/-- Settling the flags makes no conditions: a tree without them means an expression without them. By
induction on the tree, where `lookFree_repeated` is the only case that is not immediate. -/
theorem Syntax.lookFree_toTerm (tree : Syntax) : ∀ {m m' : Mode} {r : Term},
    tree.anchorFree = true → tree.toTerm m = .ok (r, m') → r.lookFree = true := by
  induction tree with
  | empty | flags =>
    intro m m' r _ h
    cases h
    rfl
  | anchor => exact fun free => absurd free nofun
  | char | dot | shorthand | property =>
    intro m m' r _ h
    obtain ⟨s, _, heq⟩ := bind_eq_ok_iff.mp h
    cases heq
    rfl
  | bracket =>
    intro m m' r _ h
    obtain ⟨s, _, h⟩ := bind_eq_ok_iff.mp h
    obtain ⟨s', _, heq⟩ := bind_eq_ok_iff.mp h
    cases heq
    rfl
  | capture index inner ih | scope changes inner ih =>
    intro m m' r free h
    obtain ⟨⟨r', m''⟩, hi, heq⟩ := bind_eq_ok_iff.mp h
    cases heq
    have inside := ih free hi
    exact inside
  | repeated count greedy inner ih =>
    intro m m' r free h
    obtain ⟨⟨r', m''⟩, hi, heq⟩ := bind_eq_ok_iff.mp h
    cases heq
    exact Term.lookFree_repeated _ (ih free hi) _ _
  | concat a b iha ihb | alt a b iha ihb =>
    intro m m' r free h
    obtain ⟨freeA, freeB⟩ := Bool.and_eq_true_iff.mp free
    obtain ⟨⟨ra, ma⟩, ha, h⟩ := bind_eq_ok_iff.mp h
    obtain ⟨⟨rb, mb⟩, hb, heq⟩ := bind_eq_ok_iff.mp h
    cases heq
    exact Bool.and_eq_true_iff.mpr ⟨iha freeA ha, ihb freeB hb⟩

/-! ## What segments fit -/

/-- A literal run is there if it is what comes next. -/
theorem fits_literal_iff {r : Term} {run before rest : List Char} {segs : List Segment} {k : Nat} :
    Fits (before ++ rest).toArray r (.literal run :: segs) before.length k ↔
      run <+: rest ∧ Fits (before ++ rest).toArray r segs (before ++ run).length k := by
  have here : (∀ n, n < run.length → (before ++ rest).toArray[before.length + n]? = run[n]?) ↔
      run <+: rest := by
    rw [List.prefix_iff_getElem?]
    refine forall₂_congr fun n hn => ?_
    simp [List.getElem?_append_right, hn]
  rw [← here, List.length_append]
  constructor
  · rintro (_ | ⟨there, later⟩)
    exact ⟨there, later⟩
  · rintro ⟨there, later⟩
    exact .literal there later

/-- For a reference there is a part that the expression matches as a text of its own. Without
conditions on places it does not matter what the part stands between, and that is what `free` is
for. -/
theorem fits_group_iff {r : Term} (free : r.lookFree = true) {index : Nat}
    {before rest : List Char} {segs : List Segment} :
    Fits (before ++ rest).toArray r (.group index :: segs) before.length
        (before ++ rest).length ↔
      ∃ part after, rest = part ++ after ∧ r.Matches part.toArray 0 part.length ∧
        Fits (before ++ rest).toArray r segs (before ++ part).length
          (before ++ rest).length := by
  constructor
  · rintro (_ | _ | @⟨_, _, _, j, _, matched, later⟩)
    have start := matched.le
    have stop : j ≤ (before ++ rest).length := by
      simpa using matched.le_size (by simp)
    rw [List.length_append] at stop
    obtain ⟨n, rfl⟩ := Nat.exists_eq_add_of_le start
    have width : (rest.take n).length = n := List.length_take_of_le (by omega)
    refine ⟨rest.take n, rest.drop n, (List.take_append_drop n rest).symm, ?_, ?_⟩
    · have within := @Term.matches_within_iff r free before (rest.take n) (rest.drop n)
      rw [List.take_append_drop, width] at within
      rw [width]
      exact within.mp matched
    · rw [List.length_append, width]
      exact later
  · rintro ⟨part, after, rfl, matched, later⟩
    rw [List.length_append] at later
    exact .group ((Term.matches_within_iff free).mpr matched) later

/-- A row of segments fits the language of the template: the text is the literal runs with parts
between them, one for each reference, and each part is a text that the expression matches as a
whole. By induction on the segments, with one of the two lemmas above for each. -/
theorem fits_iff_weave {r : Term} (free : r.lookFree = true) {segs : List Segment}
    {before rest : List Char} :
    Fits (before ++ rest).toArray r segs before.length (before ++ rest).length ↔
      ∃ parts : List (List Char), parts.length = references segs ∧
        (∀ part ∈ parts, r.Matches part.toArray 0 part.length) ∧ rest = weave segs parts := by
  induction segs generalizing before rest with
  | nil =>
    constructor
    · intro h
      generalize hk : (before ++ rest).length = k at h
      cases h
      exact ⟨[], rfl, nofun, List.length_eq_zero_iff.mp (by simpa using hk)⟩
    · rintro ⟨parts, -, -, rfl⟩
      rw [weave, List.append_nil]
      exact .stop _
  | cons seg segs ih =>
    cases seg with
    | literal run =>
      -- the run moves from what is left to what lies before
      rw [fits_literal_iff]
      constructor
      · rintro ⟨⟨after, rfl⟩, later⟩
        rw [← List.append_assoc] at later
        obtain ⟨parts, count, each, rfl⟩ := ih.mp later
        exact ⟨parts, count, each, rfl⟩
      · rintro ⟨parts, count, each, rfl⟩
        refine ⟨List.prefix_append _ _, ?_⟩
        rw [weave, ← List.append_assoc]
        exact ih.mpr ⟨parts, count, each, rfl⟩
    | group index =>
      rw [fits_group_iff free]
      constructor
      · rintro ⟨part, after, rfl, matched, later⟩
        rw [← List.append_assoc] at later
        obtain ⟨parts, count, each, rfl⟩ := ih.mp later
        refine ⟨part :: parts, ?_, ?_, rfl⟩
        · rw [List.length_cons, count, references]
        · exact List.forall_mem_cons.mpr ⟨matched, each⟩
      · rintro ⟨parts, count, each, rfl⟩
        cases parts with
        | nil => cases count
        | cons part parts =>
          obtain ⟨matched, each⟩ := List.forall_mem_cons.mp each
          refine ⟨part, weave segs parts, rfl, matched, ?_⟩
          rw [weave, ← List.append_assoc]
          exact ih.mpr ⟨parts, Nat.succ.inj count, each, rfl⟩

end TokenClassifier.Regex
