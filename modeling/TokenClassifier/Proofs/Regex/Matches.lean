import TokenClassifier.Regex.Search

/-!
# What a regular expression matches

`Term.Matches text r i j` says that `r` matches the part of a text between the places `i` and
`j`. It speaks of ways to match and of nothing else: no preference, no program, no search. A
condition on a place looks at the characters around it, so the relation is about a part of a text
and not about a text of its own.

The second half says how much of the rest of the text matters. An expression without conditions
on places matches a part wherever the same characters stand (`Matches.transport`).
-/

namespace TokenClassifier.Regex

/-- The ways in which an expression matches a part of a text. -/
inductive Term.Matches (text : Array Char) : Term → Nat → Nat → Prop
  | empty (i : Nat) : Matches text .empty i i
  | chars {s : CharSet} {i : Nat} {c : Char} : text[i]? = some c → s.contains c = true →
      Matches text (.chars s) i (i + 1)
  | look {l : Look} {i : Nat} : l.holds (charBefore text i) text[i]? = true →
      Matches text (.look l) i i
  | capture {index : Nat} {r : Term} {i j : Nat} : Matches text r i j →
      Matches text (.capture index r) i j
  | seq {a b : Term} {i j k : Nat} : Matches text a i j → Matches text b j k →
      Matches text (.seq a b) i k
  | altLeft {a b : Term} {i j : Nat} : Matches text a i j → Matches text (.alt a b) i j
  | altRight {a b : Term} {i j : Nat} : Matches text b i j → Matches text (.alt a b) i j
  | optNone {greedy : Bool} {r : Term} (i : Nat) : Matches text (.opt greedy r) i i
  | optOne {greedy : Bool} {r : Term} {i j : Nat} : Matches text r i j →
      Matches text (.opt greedy r) i j
  | starNone {greedy : Bool} {r : Term} (i : Nat) : Matches text (.star greedy r) i i
  | starMore {greedy : Bool} {r : Term} {i j k : Nat} : Matches text r i j →
      Matches text (.star greedy r) j k → Matches text (.star greedy r) i k
  | plusOne {greedy : Bool} {r : Term} {i j : Nat} : Matches text r i j →
      Matches text (.plus greedy r) i j
  | plusMore {greedy : Bool} {r : Term} {i j k : Nat} : Matches text r i j →
      Matches text (.plus greedy r) j k → Matches text (.plus greedy r) i k

namespace Term

variable {text : Array Char}

/-! ## Places -/

/-- A match does not end before it begins. Lengths of matches can thus be subtracted, as
`Matches.transport` does. -/
theorem Matches.le {r : Term} {i j : Nat} (h : r.Matches text i j) : i ≤ j := by
  induction h with
  | chars => omega
  | seq _ _ iha ihb | starMore _ _ iha ihb | plusMore _ _ iha ihb => omega
  | _ => omega

/-- A match that begins in the text ends in it. -/
theorem Matches.le_size {r : Term} {i j : Nat} (h : r.Matches text i j) (hi : i ≤ text.size) :
    j ≤ text.size := by
  induction h with
  | chars hc =>
    obtain ⟨hlt, _⟩ := Array.getElem?_eq_some_iff.mp hc
    omega
  | seq _ _ iha ihb | starMore _ _ iha ihb | plusMore _ _ iha ihb => exact ihb (iha hi)
  | capture _ ih | altLeft _ ih | altRight _ ih | optOne _ ih | plusOne _ ih => exact ih hi
  | _ => exact hi

/-! ## One equation for each construct -/

/-- The empty expression matches between two characters, and there only. -/
theorem matches_empty_iff {i j : Nat} : Term.empty.Matches text i j ↔ j = i := by
  constructor
  · rintro ⟨⟩; rfl
  · rintro rfl; exact .empty _

/-- A set of characters matches one character of it. Behind the end of the text there is none. -/
theorem matches_chars_iff {s : CharSet} {i j : Nat} :
    (Term.chars s).Matches text i j ↔ ∃ c, text[i]? = some c ∧ s.contains c = true ∧ j = i + 1 := by
  constructor
  · rintro (_ | ⟨hc, hs⟩)
    exact ⟨_, hc, hs, rfl⟩
  · rintro ⟨c, hc, hs, rfl⟩
    exact .chars hc hs

/-- A condition on places matches the empty part of the text where the two characters around the
place satisfy it. -/
theorem matches_look_iff {l : Look} {i j : Nat} :
    (Term.look l).Matches text i j ↔ l.holds (charBefore text i) text[i]? = true ∧ j = i := by
  constructor
  · rintro (_ | _ | hl)
    exact ⟨hl, rfl⟩
  · rintro ⟨hl, rfl⟩
    exact .look hl

/-- A group matches what the expression in it does. The index is for the notes only, so an
expression and the same with its groups numbered otherwise match alike. -/
theorem matches_capture_iff {index : Nat} {r : Term} {i j : Nat} :
    (Term.capture index r).Matches text i j ↔ r.Matches text i j := by
  constructor
  · rintro (_ | _ | _ | h); exact h
  · exact .capture

/-- Two expressions in a row match where a place between is the end of a match of the first and the
beginning of one of the second. -/
theorem matches_seq_iff {a b : Term} {i k : Nat} :
    (Term.seq a b).Matches text i k ↔ ∃ j, a.Matches text i j ∧ b.Matches text j k := by
  constructor
  · rintro (_ | _ | _ | _ | ⟨ha, hb⟩); exact ⟨_, ha, hb⟩
  · rintro ⟨j, ha, hb⟩; exact .seq ha hb

/-- Either of two expressions matches where one of them does. Which one is preferred is not part of
matching. -/
theorem matches_alt_iff {a b : Term} {i j : Nat} :
    (Term.alt a b).Matches text i j ↔ a.Matches text i j ∨ b.Matches text i j := by
  constructor
  · intro h
    cases h with
    | altLeft h => exact .inl h
    | altRight h => exact .inr h
  · rintro (h | h)
    · exact .altLeft h
    · exact .altRight h

/-- An optional expression matches what it does, and the empty part of the text besides. As in all
the repetitions, `greedy` does not matter. -/
theorem matches_opt_iff {greedy : Bool} {r : Term} {i j : Nat} :
    (Term.opt greedy r).Matches text i j ↔ j = i ∨ r.Matches text i j := by
  constructor
  · intro h
    cases h with
    | optNone => exact .inl rfl
    | optOne h => exact .inr h
  · rintro (rfl | h)
    · exact .optNone _
    · exact .optOne h

/-! ## The text around a match -/

/-- Whether no condition on a place occurs in an expression. -/
def lookFree : Term → Bool
  | .empty => true
  | .chars _ => true
  | .look _ => false
  | .capture _ r => r.lookFree
  | .seq a b => a.lookFree && b.lookFree
  | .alt a b => a.lookFree && b.lookFree
  | .opt _ r => r.lookFree
  | .star _ r => r.lookFree
  | .plus _ r => r.lookFree

/-- The step of `Matches.transport` for two matches in a row, whatever holds them together. -/
private theorem seq_transport {text other : Array Char} {P Q R : Nat → Nat → Prop}
    {i j k at' : Nat} (hij : i ≤ j) (hjk : j ≤ k)
    (same : ∀ n, n < k - i → other[at' + n]? = text[i + n]?)
    (first : ∀ at', (∀ n, n < j - i → other[at' + n]? = text[i + n]?) → P at' (at' + (j - i)))
    (second : ∀ at', (∀ n, n < k - j → other[at' + n]? = text[j + n]?) → Q at' (at' + (k - j)))
    (join : ∀ {a b c}, P a b → Q b c → R a c) :
    R at' (at' + (k - i)) := by
  have ha := first at' fun n hn => same n (by omega)
  have hb := second (at' + (j - i)) fun n hn => by
    have := same (j - i + n) (by omega)
    rw [show at' + (j - i) + n = at' + (j - i + n) by omega, this]
    congr 1
    omega
  rw [show at' + (k - i) = at' + (j - i) + (k - j) by omega]
  exact join ha hb

/-- An expression without conditions on places matches the same characters wherever they stand: from
place `i` of the one text on, or from place `at'` of the other. Without `lookFree` this fails, since
a condition sees the characters before and behind the match too. -/
theorem Matches.transport {text other : Array Char} {r : Term} {i j at' : Nat}
    (h : r.Matches text i j) (free : r.lookFree = true)
    (same : ∀ k, k < j - i → other[at' + k]? = text[i + k]?) :
    r.Matches other at' (at' + (j - i)) := by
  induction h generalizing at' with
  | empty i =>
    rw [Nat.sub_self]
    exact .empty at'
  | @chars s i c hc hs =>
    rw [show at' + (i + 1 - i) = at' + 1 by omega]
    exact .chars ((same 0 (by omega)).trans hc) hs
  | look => simp [lookFree] at free
  | capture _ ih => exact .capture (ih free same)
  | @seq a b i j k ha hb iha ihb =>
    simp only [lookFree, Bool.and_eq_true] at free
    exact seq_transport ha.le hb.le same (fun _ => iha free.1) (fun _ => ihb free.2) .seq
  | altLeft _ ih =>
    simp only [lookFree, Bool.and_eq_true] at free
    exact .altLeft (ih free.1 same)
  | altRight _ ih =>
    simp only [lookFree, Bool.and_eq_true] at free
    exact .altRight (ih free.2 same)
  | optNone i =>
    rw [Nat.sub_self]
    exact .optNone at'
  | optOne _ ih => exact .optOne (ih free same)
  | starNone i =>
    rw [Nat.sub_self]
    exact .starNone at'
  | starMore ha hb iha ihb =>
    exact seq_transport ha.le hb.le same (fun _ => iha free) (fun _ => ihb free) .starMore
  | plusOne _ ih => exact .plusOne (ih free same)
  | plusMore ha hb iha ihb =>
    exact seq_transport ha.le hb.le same (fun _ => iha free) (fun _ => ihb free) .plusMore

/-- Inside of a longer text, such an expression matches the parts that it matches as texts of their
own. This is how a token written into a pattern is found again between what stands before it and
behind it. -/
theorem matches_within_iff {r : Term} (free : r.lookFree = true) {before part after : List Char} :
    r.Matches (before ++ (part ++ after)).toArray before.length (before.length + part.length) ↔
      r.Matches part.toArray 0 part.length := by
  have same : ∀ n, n < part.length →
      (before ++ (part ++ after)).toArray[before.length + n]? = part.toArray[0 + n]? := by
    intro n inside
    simp [List.getElem?_append_right, List.getElem?_append_left inside]
  constructor
  · intro h
    have moved := h.transport free fun n hn => (same n (by omega)).symm
    rwa [Nat.add_sub_cancel_left, Nat.zero_add] at moved
  · intro h
    exact h.transport free fun n hn => same n (by omega)

end Term

end TokenClassifier.Regex
