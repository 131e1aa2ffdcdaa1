import Mathlib.Data.List.TakeDrop
import Mathlib.Data.List.TakeWhile
import TokenClassifier.Proofs.Except
import TokenClassifier.Regex.Token

/-!
# Readers do not look ahead

Every reader of a part of a pattern leaves the rest of the text, and what it read depends on no
more than what it took: followed by a closing parenthesis and any text at all, it reads the same
and leaves as much more (`Local`). So a pattern can be put between parentheses and read as it is
read by itself.

There is one exception. In verbose mode a comment may end a pattern, and would take the
parenthesis in. It can only end a pattern after its last token, or between a counted repetition
and the mark for a lazy one.
-/

namespace TokenClassifier.Regex

/-- A reader that takes a text as it would before a closing parenthesis, and leaves no more than
it was given. -/
def Local {α : Type} (read : List Char → Except Fault (α × List Char)) : Prop :=
  ∀ {cs : List Char} {x : α} {after : List Char}, read cs = .ok (x, after) →
    after.length ≤ cs.length ∧ ∀ more, read (cs ++ ')' :: more) = .ok (x, after ++ ')' :: more)

/-! ## White space and comments -/

/-- What stands at the next character that counts does not change by what follows. -/
theorem skipVerbose_append {inComment : Bool} {cs rest : List Char} {c : Char}
    (h : skipVerbose inComment cs = c :: rest) (more : List Char) :
    skipVerbose inComment (cs ++ more) = c :: (rest ++ more) := by
  fun_induction skipVerbose inComment cs with
  | case1 => cases h
  | case2 c' cs ih => exact ih h
  | case3 c' cs hb ih =>
    rw [List.cons_append, skipVerbose, if_pos hb]
    exact ih h
  | case4 cs hb ih =>
    rw [List.cons_append, skipVerbose, if_neg hb, if_pos rfl]
    exact ih h
  | case5 c' cs hb hc =>
    cases h
    rw [List.cons_append, skipVerbose, if_neg hb, if_neg hc]

/-- Skipping ends at the same character whatever follows the text. That some character counts is
needed: where all of the text is passed over, what follows is looked at too. -/
theorem skip_append {verbose : Bool} {cs rest : List Char} {c : Char}
    (h : skip verbose cs = c :: rest) (more : List Char) :
    skip verbose (cs ++ more) = c :: (rest ++ more) := by
  cases verbose with
  | false => simp_all [skip]
  | true => exact skipVerbose_append h more

/-- Skipping white space and comments leaves no more than there was. -/
theorem length_skipVerbose_le (inComment : Bool) (cs : List Char) :
    (skipVerbose inComment cs).length ≤ cs.length := by
  fun_induction skipVerbose inComment cs with
  | case1 => exact Nat.le_refl _
  | case2 _ _ ih | case3 _ _ _ ih | case4 _ _ ih => simp only [List.length_cons]; omega
  | case5 => exact Nat.le_refl _

/-- In either mode, skipping leaves no more than there was. -/
theorem length_skip_le (verbose : Bool) (cs : List Char) :
    (skip verbose cs).length ≤ cs.length := by
  unfold skip
  split
  · exact length_skipVerbose_le _ _
  · exact Nat.le_refl _

/-- A run that something ends stays the same whatever follows. -/
theorem span_append {p : Char → Bool} {cs run after : List Char} {c : Char}
    (h : cs.span p = (run, c :: after)) (more : List Char) :
    (cs ++ more).span p = (run, c :: (after ++ more)) := by
  rw [List.span_eq_takeWhile_dropWhile, Prod.mk.injEq] at h
  rw [List.span_eq_takeWhile_dropWhile]
  obtain ⟨rfl, hd⟩ := h
  have len : (cs.takeWhile p).length ≠ cs.length := by
    intro e
    have := congrArg List.length (List.takeWhile_append_dropWhile (p := p) (l := cs))
    simp_all
  rw [List.takeWhile_append, List.dropWhile_append, hd]
  simp [len]

/-- A run and what is left of a text come from the text, so that no more is left than there was. -/
theorem length_span_le {p : Char → Bool} {cs run after : List Char}
    (h : cs.span p = (run, after)) : after.length ≤ cs.length := by
  rw [List.span_eq_takeWhile_dropWhile, Prod.mk.injEq] at h
  rw [← h.2]
  exact (List.dropWhile_sublist p).length_le

/-- A run that a character ends stays the same whatever follows, also across white space and
comments. The induction goes along the text, in and out of comments as the reader does. -/
theorem gatherVerbose_append {p : Char → Bool} {inComment : Bool} {cs run after : List Char}
    {c : Char} (h : gatherVerbose p inComment cs = (run, c :: after)) (more : List Char) :
    gatherVerbose p inComment (cs ++ more) = (run, c :: (after ++ more)) := by
  fun_induction gatherVerbose p inComment cs generalizing run with
  | case1 => cases h
  | case2 c' cs ih => exact ih h
  | case3 c' cs hb ih =>
    rw [List.cons_append, gatherVerbose, if_pos hb]
    exact ih h
  | case4 cs hb ih =>
    rw [List.cons_append, gatherVerbose, if_neg hb, if_pos rfl]
    exact ih h
  | case5 c' cs hb hc hp run' after' hr ih =>
    cases h
    rw [List.cons_append, gatherVerbose, if_neg hb, if_neg hc, if_pos hp, ih hr]
  | case6 c' cs hb hc hp =>
    cases h
    rw [List.cons_append, gatherVerbose, if_neg hb, if_neg hc, if_neg hp]

/-- Gathering across white space and comments leaves no more than there was. -/
theorem length_gatherVerbose_le {p : Char → Bool} {inComment : Bool} {cs run after : List Char}
    (h : gatherVerbose p inComment cs = (run, after)) : after.length ≤ cs.length := by
  fun_induction gatherVerbose p inComment cs generalizing run with
  | case1 => cases h; exact Nat.le_refl _
  | case2 _ _ ih | case3 _ _ _ ih | case4 _ _ ih =>
    have := ih h
    simp only [List.length_cons]
    omega
  | case5 _ _ _ _ _ _ _ hr ih =>
    cases h
    have := ih hr
    simp only [List.length_cons]
    omega
  | case6 => cases h; exact Nat.le_refl _

/-- In either mode, a run that some character ends stays the same whatever follows. The character
itself is the first one left, and what follows comes after it. -/
theorem gather_append {verbose : Bool} {p : Char → Bool} {cs run after : List Char} {c : Char}
    (h : gather verbose p cs = (run, c :: after)) (more : List Char) :
    gather verbose p (cs ++ more) = (run, c :: (after ++ more)) := by
  cases verbose with
  | false => exact span_append h more
  | true => exact gatherVerbose_append h more

/-- In either mode, gathering a run leaves no more than there was. -/
theorem length_gather_le {verbose : Bool} {p : Char → Bool} {cs run after : List Char}
    (h : gather verbose p cs = (run, after)) : after.length ≤ cs.length := by
  cases verbose with
  | false => exact length_span_le h
  | true => exact length_gatherVerbose_le h

/-! ## Escapes -/

namespace Escape

/-- Exactly so many characters are taken, so that nothing behind them matters. In verbose mode they
are counted without the white space and the comments between them. -/
theorem take_local (verbose : Bool) (n : Nat) : Local (take verbose n) := by
  induction n with
  | zero =>
    rintro cs x after ⟨⟩
    exact ⟨Nat.le_refl _, fun more => rfl⟩
  | succ n ih =>
    intro cs x after h
    have shorter := length_skip_le verbose cs
    rw [take] at h
    split at h
    next => cases h
    next c rest hs =>
      obtain ⟨⟨taken, left⟩, ht, heq⟩ := bind_eq_ok_iff.mp h
      cases heq
      obtain ⟨le, same⟩ := ih ht
      rw [hs, List.length_cons] at shorter
      refine ⟨by omega, fun more => ?_⟩
      rw [take, skip_append hs]
      simp [same]

/-- A character's number is read without a look at what follows: its digits are so many, or the
closing brace ends them. -/
theorem readHex_local (verbose : Bool) (width : Nat) : Local (readHex verbose width) := by
  intro cs x after h
  have shorter := length_skip_le verbose cs
  unfold readHex at h
  split at h
  next => cases h
  next rest hs =>
    rw [hs, List.length_cons] at shorter
    split at h
    next digits c left hg =>
      obtain ⟨d, hd, heq⟩ := bind_eq_ok_iff.mp h
      cases heq
      have := length_gather_le hg
      rw [List.length_cons] at this
      refine ⟨by omega, fun more => ?_⟩
      unfold readHex
      simp [skip_append hs, gather_append hg, hd]
    next => cases h
  next hs brace =>
    obtain ⟨⟨digits, left⟩, ht, heq⟩ := bind_eq_ok_iff.mp h
    obtain ⟨d, hd, heq⟩ := bind_eq_ok_iff.mp heq
    cases heq
    obtain ⟨le, same⟩ := take_local verbose width ht
    refine ⟨by omega, fun more => ?_⟩
    unfold readHex
    have := same more
    cases hc : skip verbose cs with
    | nil => exact absurd hc hs
    | cons c rest =>
      rw [hc] at ht
      rw [hc, List.cons_append] at this
      rw [skip_append hc]
      split
      next e => cases e
      next e => cases e; exact absurd hc (brace _)
      next => simp [this, hd]

/-- The name of a property is read without a look at what follows: it is one letter, or the closing
brace ends it. -/
theorem readProperty_local (verbose : Bool) : Local (readProperty verbose) := by
  intro cs x after h
  have shorter := length_skip_le verbose cs
  unfold readProperty at h
  split at h
  next => cases h
  next => cases h
  next rest hs =>
    rw [hs, List.length_cons] at shorter
    split at h
    next inner c left hg =>
      have := length_gather_le hg
      rw [List.length_cons] at this
      split at h
      next p hp =>
        cases h
        refine ⟨by omega, fun more => ?_⟩
        unfold readProperty
        simp [skip_append hs, gather_append hg, hp]
      next => cases h
    next => cases h
  next c rest slash brace hs =>
    rw [hs, List.length_cons] at shorter
    split at h
    next p hp =>
      cases h
      refine ⟨by omega, fun more => ?_⟩
      unfold readProperty
      rw [skip_append hs]
      simp [hp]
    next => cases h

/-- What follows a `\b` is the one place where a reader tries something and takes it back: a brace
that no name can follow is left. The parenthesis behind the text does not change what is tried. -/
theorem readWordAnchor_local (verbose : Bool) : Local (readWordAnchor verbose) := by
  intro cs x after h
  unfold readWordAnchor at h
  split at h
  next rest =>
    have shorter := length_skip_le verbose rest
    split at h
    next => cases h
    next c inner hs =>
      split at h
      next letter =>
        split at h
        next name left hg =>
          have := length_gather_le hg
          rw [hs] at shorter
          rw [List.length_cons] at this
          split at h
          next a ha =>
            cases h
            refine ⟨by simp only [List.length_cons]; omega, fun more => ?_⟩
            unfold readWordAnchor
            -- a brace ends the name, so it does not reach the parenthesis
            have grown := gather_append hg (')' :: more)
            rw [List.cons_append] at grown
            simp [skip_append hs, letter, grown, ha]
          next => cases h
        next => cases h
      next letter =>
        cases h
        refine ⟨Nat.le_refl _, fun more => ?_⟩
        unfold readWordAnchor
        simp [skip_append hs, letter]
  next noBrace =>
    cases h
    refine ⟨Nat.le_refl _, fun more => ?_⟩
    unfold readWordAnchor
    split
    next rest e =>
      cases cs with
      | nil => cases e
      | cons c cs => cases e; exact absurd rfl (noBrace _)
    next => rfl

/-- An escape is read without a look at what follows. Each kind of escape has its own reader, and
the cases are those of the character behind the backslash. -/
theorem read_local (verbose : Bool) : Local (read verbose) := by
  intro cs x after h
  cases cs with
  | nil => cases h
  | cons c rest =>
    simp only [List.length_cons, List.cons_append]
    simp only [read] at h ⊢
    split at h
    next => cases h
    next digit =>
    split at h
    next escapable =>
      cases h
      exact ⟨by omega, fun more => by simp [digit, escapable]⟩
    next escapable =>
    split at h
    next width hw =>
      obtain ⟨⟨l, left⟩, hl, heq⟩ := bind_eq_ok_iff.mp h
      obtain ⟨rfl, rfl⟩ : Escape.char l = x ∧ left = after := by simpa using heq
      obtain ⟨le, same⟩ := readHex_local verbose width hl
      exact ⟨by omega, fun more => by simp [digit, escapable, same]⟩
    next hw =>
    split at h
    next property =>
      obtain ⟨⟨p, left⟩, hp, heq⟩ := bind_eq_ok_iff.mp h
      obtain ⟨rfl, rfl⟩ : Escape.property (c == 'P') p = x ∧ left = after := by simpa using heq
      obtain ⟨le, same⟩ := readProperty_local verbose hp
      exact ⟨by omega, fun more => by simp [digit, escapable, property, same]⟩
    next property =>
    split at h
    next boundary =>
      obtain ⟨⟨a, left⟩, ha, heq⟩ := bind_eq_ok_iff.mp h
      obtain ⟨rfl, rfl⟩ : Escape.anchor a = x ∧ left = after := by simpa using heq
      obtain ⟨le, same⟩ := readWordAnchor_local verbose ha
      subst boundary
      exact ⟨by omega, fun more => by simp [escapable, same]⟩
    next boundary =>
      split at h
      next =>
        cases h
        exact ⟨by omega, fun more => by simp [digit, escapable, property, boundary]⟩
      next =>
      split at h
      next =>
        cases h
        exact ⟨by omega, fun more => by simp [digit, escapable, property, boundary]⟩
      next =>
      split at h
      next =>
        cases h
        exact ⟨by omega, fun more => by simp [digit, escapable, property, boundary]⟩
      next => cases h

end Escape

/-! ## Classes -/

/-- No ASCII class has a parenthesis in its name. -/
theorem AsciiClass.ofName?_eq_none {name : List Char} (h : ')' ∈ name) : ofName? name = none := by
  unfold ofName?
  split
  case h_15 => rfl
  all_goals
    rename_i e
    have := congrArg String.toList e
    rw [String.toList_ofList] at this
    rw [this] at h
    revert h
    decide

namespace ClassSyntax

/-- Whether the name of an ASCII class stands there is told by the text alone. A parenthesis can end
the letters of the name, but not the class, which a colon and a bracket have to end. -/
theorem readAsciiName?_append (negated : Bool) (cs more : List Char) :
    readAsciiName? negated (cs ++ ')' :: more) =
      (readAsciiName? negated cs).map fun (item, after) => (item, after ++ ')' :: more) := by
  unfold readAsciiName?
  cases hs : cs.span (· != ':') with
  | mk name left =>
    cases left with
    | nil =>
      -- the name would reach past the parenthesis, and then it is none
      rw [List.span_eq_takeWhile_dropWhile, Prod.mk.injEq] at hs
      have all : ∀ c ∈ cs, (c != ':') = true := List.dropWhile_eq_nil_iff.mp hs.2
      have paren : ')' ∈ ((cs ++ ')' :: more).span (· != ':')).1 := by
        rw [List.span_eq_takeWhile_dropWhile, List.takeWhile_append_of_pos all]
        simp
      split
      next name' after e =>
        rw [e] at paren
        simp [AsciiClass.ofName?_eq_none paren]
      next => rfl
    | cons c left =>
      rw [span_append hs]
      cases left with
      | nil => simp
      | cons d left =>
        by_cases hc : c = ':'
        · by_cases hd : d = ']'
          · subst hc hd
            simp [Function.comp_def]
          · simp [hd]
        · simp [hc]

/-- Behind the colon anything but a caret begins the name of the class. -/
theorem readAscii?_colon {c : Char} (h : c ≠ '^') (cs : List Char) :
    readAscii? (':' :: c :: cs) = readAsciiName? false (c :: cs) := by
  unfold readAscii?
  split
  next e => cases e; exact absurd rfl h
  next e => cases e; rfl
  next other => exact absurd rfl (other _)

/-- Without a colon there is no ASCII class, and the bracket opens a nested one. -/
theorem readAscii?_other {c : Char} (h : c ≠ ':') (cs : List Char) :
    readAscii? (c :: cs) = none := by
  unfold readAscii?
  split
  next e => cases e; exact absurd rfl h
  next e => cases e; exact absurd rfl h
  next => rfl

/-- Whether there is an ASCII class, and which, is told by the text alone. Where there is none,
there is none with more text behind it either, so that the bracket is read alike in both. -/
theorem readAscii?_append (cs more : List Char) :
    readAscii? (cs ++ ')' :: more) =
      (readAscii? cs).map fun (item, after) => (item, after ++ ')' :: more) := by
  rcases cs with _ | ⟨c, _ | ⟨d, cs⟩⟩
  · rfl
  · by_cases hc : c = ':'
    · subst hc
      exact readAsciiName?_append false [] more
    · rw [readAscii?_other hc, List.cons_append, readAscii?_other hc, Option.map_none]
  · by_cases hc : c = ':'
    · subst hc
      by_cases hd : d = '^'
      · subst hd
        exact readAsciiName?_append true cs more
      · rw [readAscii?_colon hd, List.cons_append, List.cons_append, readAscii?_colon hd]
        exact readAsciiName?_append false (d :: cs) more
    · rw [readAscii?_other hc, List.cons_append, readAscii?_other hc, Option.map_none]

/-- What an ASCII class leaves comes from the text. -/
theorem length_readAscii?_le {cs after : List Char} {item : ClassSyntax}
    (h : readAscii? cs = some (item, after)) : after.length ≤ cs.length := by
  have name : ∀ {negated cs}, readAsciiName? negated cs = some (item, after) →
      after.length ≤ cs.length := by
    intro negated cs h
    unfold readAsciiName? at h
    split at h
    next left hs =>
      obtain ⟨k, _, heq⟩ := Option.map_eq_some_iff.mp h
      cases heq
      have := length_span_le hs
      simp only [List.length_cons] at this
      omega
    next => cases h
  unfold readAscii? at h
  split at h
  next rest =>
    have := name h
    simp only [List.length_cons]
    omega
  next rest _ =>
    have := name h
    simp only [List.length_cons]
    omega
  next => cases h

/-- An item of a class is read without a look at what follows: it is an escape or one character. -/
theorem readItem_local (verbose : Bool) : Local (readItem verbose) := by
  intro cs x after h
  unfold readItem at h
  split at h
  next => cases h
  next rest =>
    obtain ⟨le, same⟩ := Escape.read_local verbose h
    exact ⟨Nat.le_succ_of_le le, same⟩
  next c rest slash =>
    cases h
    refine ⟨Nat.le_succ _, fun more => ?_⟩
    unfold readItem
    simp

/-- What counts is no white space and begins no comment. -/
theorem skipVerbose_head {inComment : Bool} {cs rest : List Char} {c : Char}
    (h : skipVerbose inComment cs = c :: rest) : c ∈ cs ∧ Unicode.isBlank c = false ∧ c ≠ '#' := by
  fun_induction skipVerbose inComment cs with
  | case1 => cases h
  | case2 _ _ ih | case3 _ _ _ ih | case4 _ _ ih =>
    obtain ⟨mem, counts⟩ := ih h
    exact ⟨List.mem_cons_of_mem _ mem, counts⟩
  | case5 c' cs hb hc =>
    cases h
    exact ⟨List.mem_cons_self, by simpa using hb, hc⟩

/-- The character that is seen behind the first one stays the same whatever follows, if there is
one. -/
theorem peekVerbose_append {marked : Bool} {cs : List Char} {d : Char}
    (h : peekVerbose marked cs = some d) (more : List Char) :
    peekVerbose marked (cs ++ more) = some d := by
  fun_induction peekVerbose marked cs with
  | case1 => cases h
  | case2 marked c cs hb ih =>
    rw [List.cons_append, peekVerbose, if_pos hb]
    exact ih h
  | case3 marked c cs hb hc ih =>
    rw [List.cons_append, peekVerbose, if_neg hb, if_pos hc]
    exact ih h
  | case4 marked c cs hb hc =>
    rw [List.cons_append, peekVerbose, if_neg hb, if_neg hc]
    exact h

/-- Where a character counts there is one to see. -/
theorem exists_peekVerbose {cs : List Char} {c : Char} (mem : c ∈ cs)
    (blank : Unicode.isBlank c = false) (hash : c ≠ '#') (marked : Bool) :
    ∃ d, peekVerbose marked cs = some d := by
  fun_induction peekVerbose marked cs with
  | case1 => cases mem
  | case2 marked c' cs hb ih =>
    rcases List.mem_cons.mp mem with rfl | mem
    · rw [blank] at hb; cases hb
    · exact ih mem
  | case3 marked c' cs hb hc ih =>
    rcases List.mem_cons.mp mem with rfl | mem
    · simp [hash] at hc
    · exact ih mem
  | case4 marked c' cs hb hc => exact ⟨_, rfl⟩

/-- In either mode, the character that is seen next stays the same whatever follows. It decides if a
hyphen makes a range, so that ranges do not depend on what follows either. -/
theorem peek_append {verbose : Bool} {cs : List Char} {d : Char}
    (h : peek verbose cs = some d) (more : List Char) : peek verbose (cs ++ more) = some d := by
  cases verbose with
  | false => cases cs <;> simp_all [peek]
  | true => exact peekVerbose_append h more

/-- Where a character counts, there is also one to be seen. The two are not always the same: a
comment is skipped as a whole, while only its first mark is stepped over in order to see. -/
theorem exists_peek {verbose : Bool} {cs rest : List Char} {c : Char}
    (h : skip verbose cs = c :: rest) : ∃ d, peek verbose cs = some d := by
  cases verbose with
  | false =>
    obtain rfl : cs = c :: rest := h
    exact ⟨c, rfl⟩
  | true =>
    obtain ⟨mem, blank, hash⟩ := skipVerbose_head h
    exact exists_peekVerbose mem blank hash false

/-- An item or a range is read without a look at what follows. If a hyphen is the last of what
counts in the text, nothing is read, so that there is always a character that tells what it stands
for. -/
theorem readRange_local (verbose : Bool) : Local (readRange verbose) := by
  intro cs x after h
  obtain ⟨⟨first, rest⟩, hf, h⟩ := bind_eq_ok_iff.mp h
  obtain ⟨le, same⟩ := readItem_local verbose hf
  have shorter := length_skip_le verbose rest
  dsimp only at h
  split at h
  next => cases h
  next left hs =>
    rw [hs, List.length_cons] at shorter
    split at h
    next mark =>
      obtain ⟨item, hi, heq⟩ := bind_eq_ok_iff.mp h
      cases heq
      refine ⟨by simp only [List.length_cons]; omega, fun more => ?_⟩
      have mark' : peek verbose (left ++ ')' :: more) = some ']' ∨
          peek verbose (left ++ ')' :: more) = some '-' :=
        mark.imp (peek_append · _) (peek_append · _)
      simp [readRange, same, skip_append hs, mark', hi]
    next mark =>
      obtain ⟨⟨second, rest'⟩, hr, h⟩ := bind_eq_ok_iff.mp h
      obtain ⟨le', same'⟩ := readItem_local verbose hr
      have shorter' := length_skip_le verbose left
      cases hl : skip verbose left with
      | nil => rw [hl] at hr; cases hr
      | cons c tail =>
        -- what is looked at behind the hyphen is in the text itself
        obtain ⟨d, hd⟩ := exists_peek hl
        dsimp only at h
        split at h
        next lo hi =>
          split at h
          next ordered =>
            cases h
            refine ⟨by omega, fun more => ?_⟩
            have grown := same' more
            rw [hl, List.cons_append] at grown
            have mark' : ¬(peek verbose (left ++ ')' :: more) = some ']' ∨
                peek verbose (left ++ ')' :: more) = some '-') := by
              rw [peek_append hd, ← hd]
              exact mark
            simp [readRange, same, skip_append hs, mark', skip_append hl, grown, ordered]
          next => cases h
        next => cases h
  next hs hyphen =>
    obtain ⟨item, hi, heq⟩ := bind_eq_ok_iff.mp h
    cases heq
    refine ⟨by omega, fun more => ?_⟩
    cases hl : skip verbose rest with
    | nil => exact absurd hl hs
    | cons c tail =>
      rw [readRange, same]
      simp only [ok_bind, skip_append hl]
      split
      next e => cases e
      next e => cases e; exact absurd hl (hyphen _)
      next => simp [hi]

/-- The items that stand for themselves at the start of a class are read without a look at what
follows. A class cannot end among them, since something has to come behind them. -/
theorem openItems_local (verbose negated : Bool) : Local (openItems verbose negated) := by
  intro cs x after h
  obtain ⟨hyphens, left, hg⟩ : ∃ hyphens left, gather verbose (· == '-') cs = (hyphens, left) :=
    ⟨_, _, rfl⟩
  have shorter := length_gather_le hg
  simp only [openItems, hg] at h
  split at h
  next => cases h
  next rest =>
    have shorter' := length_skip_le verbose rest
    rw [List.length_cons] at shorter
    split at h
    next none =>
      split at h
      next => cases h
      next nonempty =>
        cases h
        refine ⟨by omega, fun more => ?_⟩
        cases hs : skip verbose rest with
        | nil => exact absurd hs nonempty
        | cons d tail => simp [openItems, gather_append hg, none, skip_append hs]
    next some =>
      cases h
      exact ⟨shorter, fun more => by simp [openItems, gather_append hg, some]⟩
  next nonempty noBracket =>
    cases h
    refine ⟨shorter, fun more => ?_⟩
    cases after with
    | nil => exact absurd rfl nonempty
    | cons d tail =>
      have hd : d ≠ ']' := fun e => noBracket tail (e ▸ rfl)
      simp [openItems, gather_append hg, hd]

/-- The start of a class, with its caret or without, is read without a look at what follows. -/
theorem openLevel_local (verbose : Bool) : Local (openLevel verbose) := by
  intro cs x after h
  have shorter := length_skip_le verbose cs
  unfold openLevel at h
  split at h
  next rest hs =>
    obtain ⟨le, same⟩ := openItems_local verbose true h
    have shorter' := length_skip_le verbose rest
    rw [hs, List.length_cons] at shorter
    refine ⟨by omega, fun more => ?_⟩
    cases hr : skip verbose rest with
    | nil => rw [hr] at h; cases verbose <;> cases h
    | cons c tail =>
      have grown := same more
      rw [hr, List.cons_append] at grown
      simp [openLevel, skip_append hs, skip_append hr, grown]
  next caret =>
    obtain ⟨le, same⟩ := openItems_local verbose false h
    refine ⟨by omega, fun more => ?_⟩
    cases hs : skip verbose cs with
    | nil => rw [hs] at h; cases verbose <;> cases h
    | cons c tail =>
      have hc : c ≠ '^' := fun e => caret tail (e ▸ hs)
      have grown := same more
      rw [hs, List.cons_append] at grown
      simp [openLevel, skip_append hs, hc, grown]

/-- Reading a class depends neither on what follows nor on fuel beyond what it needs. -/
theorem readLevels_local (verbose : Bool) : ∀ {fuel : Nat} {level : Level} {outer : List Level}
    {cs after : List Char} {x : ClassSyntax},
    readLevels verbose fuel level outer cs = .ok (x, after) →
      after.length ≤ cs.length ∧ ∀ more more' fuel', more = ')' :: more' → fuel ≤ fuel' →
        readLevels verbose fuel' level outer (cs ++ more) = .ok (x, after ++ more) := by
  intro fuel
  induction fuel with
  | zero => intro level outer cs after x h; cases h
  | succ fuel ih =>
    intro level outer cs after x h
    have shorter := length_skip_le verbose cs
    -- what is left to read after one step, by a reader with the same fuel
    have go : ∀ {level' outer' rest}, rest.length ≤ cs.length →
        readLevels verbose fuel level' outer' rest = .ok (x, after) →
        (∀ more more' fuel', more = ')' :: more' →
          readLevels verbose (fuel' + 1) level outer (cs ++ more) =
            readLevels verbose fuel' level' outer' (rest ++ more)) →
        after.length ≤ cs.length ∧ ∀ more more' fuel', more = ')' :: more' → fuel + 1 ≤ fuel' →
          readLevels verbose fuel' level outer (cs ++ more) = .ok (x, after ++ more) := by
      intro level' outer' rest le h step
      obtain ⟨le', same⟩ := ih h
      refine ⟨by omega, fun more more' fuel' e enough => ?_⟩
      obtain ⟨n, rfl⟩ : ∃ n, fuel' = n + 1 := ⟨fuel' - 1, by omega⟩
      rw [step more more' n e]
      exact same more more' n e (by omega)
    rw [readLevels] at h
    split at h
    next => cases h
    next rest hs =>
      rw [hs, List.length_cons] at shorter
      split at h
      next =>
        cases h
        refine ⟨by omega, fun more more' fuel' e enough => ?_⟩
        obtain ⟨n, rfl⟩ : ∃ n, fuel' = n + 1 := ⟨fuel' - 1, by omega⟩
        simp [readLevels, skip_append hs]
      next parent outer =>
        exact go (by omega) h fun more more' n e => by simp [readLevels, skip_append hs]
    next rest hs =>
      rw [hs, List.length_cons] at shorter
      split at h
      next item left ha =>
        have le := length_readAscii?_le ha
        exact go (by omega) h fun more more' n e => by
          subst e
          simp [readLevels, skip_append hs, readAscii?_append, ha]
      next ha =>
        obtain ⟨⟨inner, left⟩, ho, h⟩ := bind_eq_ok_iff.mp h
        obtain ⟨le, same⟩ := openLevel_local verbose ho
        exact go (by omega) h fun more more' n e => by
          subst e
          simp [readLevels, skip_append hs, readAscii?_append, ha, same]
    next rest hs =>
      rw [hs, List.length_cons, List.length_cons] at shorter
      exact go (by omega) h fun more more' n e => by simp [readLevels, skip_append hs]
    next rest hs =>
      rw [hs, List.length_cons, List.length_cons] at shorter
      exact go (by omega) h fun more more' n e => by simp [readLevels, skip_append hs]
    next rest hs =>
      rw [hs, List.length_cons, List.length_cons] at shorter
      exact go (by omega) h fun more more' n e => by simp [readLevels, skip_append hs]
    next nonempty close openB inter diff symm =>
      obtain ⟨⟨item, left⟩, hr, h⟩ := bind_eq_ok_iff.mp h
      obtain ⟨le, same⟩ := readRange_local verbose hr
      refine go (by omega) h fun more more' n e => ?_
      subst e
      cases hs : skip verbose cs with
      | nil => exact absurd hs nonempty
      | cons c tail =>
        have grown := same more'
        rw [hs, List.cons_append] at grown
        -- a parenthesis after the text does not make an operator of its last character
        have operator : ∀ {d rest}, c :: (tail ++ ')' :: more') = d :: d :: rest → d ≠ ')' →
            ∃ rest, skip verbose cs = d :: d :: rest := by
          intro d rest e hd
          cases tail with
          | nil => cases e; exact absurd rfl hd
          | cons d' tail => cases e; exact ⟨_, hs⟩
        rw [readLevels, skip_append hs]
        split
        next e => cases e
        next e => cases e; exact absurd hs (close _)
        next e => cases e; exact absurd hs (openB _)
        next e =>
          obtain ⟨_, h⟩ := operator e (by decide)
          exact absurd h (inter _)
        next e =>
          obtain ⟨_, h⟩ := operator e (by decide)
          exact absurd h (diff _)
        next e =>
          obtain ⟨_, h⟩ := operator e (by decide)
          exact absurd h (symm _)
        next => simp [grown]

/-- A class is read without a look at what follows: its closing bracket ends it, however many others
are nested in it. -/
theorem read_local (verbose : Bool) : Local (read verbose) := by
  intro cs x after h
  obtain ⟨⟨level, rest⟩, ho, h⟩ := bind_eq_ok_iff.mp h
  obtain ⟨le, same⟩ := openLevel_local verbose ho
  obtain ⟨le', same'⟩ := readLevels_local verbose h
  refine ⟨by omega, fun more => ?_⟩
  rw [read, same]
  exact same' _ more _ rfl (by simp only [List.length_append]; omega)

end ClassSyntax
end TokenClassifier.Regex
