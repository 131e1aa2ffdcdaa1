import Mathlib.Data.List.TakeWhile
import TokenClassifier.Proofs.Regex.Local

/-!
# The tokens of joined texts

`Scans modes cs ts left` says that a text begins with the tokens `ts` and goes on with `left`.
Scanning is then reading those tokens and scanning the rest (`Scans.tokens_eq`).

A pattern that is read by itself is read the same between parentheses, unless it ends in a comment,
and then nothing of the same line is read after it (`scans_or_comment`).
-/

namespace TokenClassifier.Regex

/-! ## The end of a text -/

/-- A comment takes in the rest of its line. So where no line feed follows, nothing that follows
counts. -/
theorem skipVerbose_comment {cs : List Char} (h : '\n' ∉ cs) : skipVerbose true cs = [] := by
  induction cs with
  | nil => rfl
  | cons c cs ih =>
    rw [List.mem_cons, not_or] at h
    have hc : (c != '\n') = true := bne_iff_ne.mpr (Ne.symm h.1)
    rw [skipVerbose, hc]
    exact ih h.2

/-- Where nothing counts up to the end of a text, either a parenthesis after it does, or the text
ends in a comment. In the second case the parenthesis is part of the comment, with all that follows
on its line. -/
theorem skip_end {verbose : Bool} {cs : List Char} (h : skip verbose cs = []) :
    (∀ more, skip verbose (cs ++ ')' :: more) = ')' :: more) ∨
      ∀ more, '\n' ∉ more → skip verbose (cs ++ ')' :: more) = [] := by
  cases verbose with
  | false =>
    obtain rfl : cs = [] := h
    exact .inl fun more => rfl
  | true =>
    change skipVerbose false cs = [] at h
    change (∀ more, skipVerbose false (cs ++ ')' :: more) = ')' :: more) ∨
      ∀ more, '\n' ∉ more → skipVerbose false (cs ++ ')' :: more) = []
    generalize false = inComment at h
    fun_induction skipVerbose inComment cs with
    | case1 inComment =>
      cases inComment with
      | false => exact .inl fun more => rfl
      | true => exact .inr fun more line => skipVerbose_comment (by simpa using line)
    | case2 c cs ih => exact ih h
    | case3 c cs hb ih => simpa only [List.cons_append, skipVerbose, hb, if_true] using ih h
    | case4 cs hb ih =>
      simpa only [List.cons_append, skipVerbose, if_neg hb, if_true] using ih h
    | case5 => cases h

namespace Token

/-! ## Groups and flags -/

/-- Flags are read the same before a parenthesis. By induction along the letters; the end of the
text is no end of flags, so a parenthesis put there does not change what is read. -/
theorem readFlags_local {setting fresh : Bool} {seen : FlagChanges} :
    Local (readFlags setting fresh seen) := by
  intro cs x after h
  induction cs generalizing setting fresh seen with
  | nil => cases h
  | cons c cs ih =>
    simp only [readFlags] at h
    simp only [List.cons_append, List.length_cons, readFlags]
    split at h
    next stop =>
      split at h
      next => cases h
      next ok =>
        cases h
        exact ⟨Nat.le_refl _, fun more => by simp [stop, ok]⟩
    next stop =>
    split at h
    next hyphen =>
      split at h
      next on =>
        obtain ⟨le, same⟩ := ih h
        exact ⟨by omega, fun more => by simp [hyphen, on, same]⟩
      next => cases h
    next hyphen =>
    split at h
    next f hf =>
      split at h
      next => cases h
      next twice =>
        obtain ⟨le, same⟩ := ih h
        exact ⟨by omega, fun more => by
          rw [if_neg stop, if_neg hyphen, if_neg twice]
          exact same more⟩
    next => cases h

/-- Flags end before a colon or a parenthesis, which is left to be read. So what is left is never
empty. -/
theorem readFlags_left {setting fresh : Bool} {seen changes : FlagChanges} {cs after : List Char}
    (h : readFlags setting fresh seen cs = .ok (changes, after)) : ∃ c left, after = c :: left := by
  induction cs generalizing setting fresh seen with
  | nil => cases h
  | cons c cs ih =>
    simp only [readFlags] at h
    split at h
    next =>
      split at h
      next => cases h
      next => cases h; exact ⟨_, _, rfl⟩
    next =>
    split at h
    next =>
      split at h
      next => exact ih h
      next => cases h
    next =>
    split at h
    next =>
      split at h
      next => cases h
      next => exact ih h
    next => cases h

/-- A name is read the same before a parenthesis, since it ends at a closing bracket of its own. -/
theorem readName_local : Local readName := by
  intro cs x after h
  unfold readName at h
  split at h
  next c name d left hs =>
    have shorter := length_span_le hs
    rw [List.length_cons] at shorter
    split at h
    next valid =>
      cases h
      refine ⟨by omega, fun more => ?_⟩
      unfold readName
      rw [span_append hs]
      simp only [valid, if_true]
    next => cases h
  next => cases h

/-- The head of a group with a name after a single mark. The two marks that would make it a look
behind are excluded. -/
theorem readOpen_name {d : Char} (ahead : d ≠ '=') (behind : d ≠ '!') (rest : List Char) :
    readOpen ('?' :: '<' :: d :: rest) = (do
      let (name, after) ← readName (d :: rest)
      return (.openCapture (some name), after)) := by
  unfold readOpen
  split
  next e => cases e
  next e => cases e
  next e => cases e; exact absurd rfl ahead
  next e => cases e; exact absurd rfl behind
  next e => cases e
  next e => cases e; rfl
  next other e => cases e; exact absurd rfl (other _)
  next other => exact absurd rfl (other _)

/-- The head of a group that begins with flags, or with none. The hypotheses exclude the heads of
looks ahead and behind and of both kinds of names. -/
theorem readOpen_flags {d : Char} {rest : List Char} (ahead : d ≠ '=') (behind : d ≠ '!')
    (name : d ≠ '<') (python : d = 'P' → rest.head? ≠ some '<') :
    readOpen ('?' :: d :: rest) = (do
      let (changes, after) ← readFlags true true [] (d :: rest)
      match after with
      | ')' :: after =>
        if changes.isEmpty then .error .nothingToRepeat else return (.flags changes, after)
      | _ => return (.openScope changes, after.tail)) := by
  unfold readOpen
  split
  next e => cases e; exact absurd rfl ahead
  next e => cases e; exact absurd rfl behind
  next e => cases e; exact absurd rfl name
  next e => cases e; exact absurd rfl name
  next e => cases e; exact absurd rfl (python rfl)
  next e => cases e; exact absurd rfl name
  next e => cases e; rfl
  next other => exact absurd rfl (other _)

/-- Where no question mark follows the parenthesis, the group captures and nothing else belongs to
its head. -/
theorem readOpen_plain {c : Char} (h : c ≠ '?') (rest : List Char) :
    readOpen (c :: rest) = .ok (.openCapture none, c :: rest) := by
  unfold readOpen
  split <;> first | rfl | (rename_i e; cases e; exact absurd rfl h)

/-- The head of a named group is read the same before a parenthesis. -/
theorem readOpen_name_local {d : Char} (ahead : d ≠ '=') (behind : d ≠ '!') {rest after : List Char}
    {x : Token} (h : readOpen ('?' :: '<' :: d :: rest) = .ok (x, after)) :
    after.length ≤ rest.length + 3 ∧ ∀ more,
      readOpen ('?' :: '<' :: d :: (rest ++ ')' :: more)) = .ok (x, after ++ ')' :: more) := by
  rw [readOpen_name ahead behind] at h
  obtain ⟨⟨name, left⟩, hn, heq⟩ := bind_eq_ok_iff.mp h
  cases heq
  obtain ⟨le, same⟩ := readName_local hn
  rw [List.length_cons] at le
  refine ⟨by omega, fun more => ?_⟩
  have grown := same more
  rw [List.cons_append] at grown
  rw [readOpen_name ahead behind, grown]
  rfl

/-- The head of a group with flags is read the same before a parenthesis. The flags end at a colon
or at a parenthesis of their own, by `readFlags_left`. -/
theorem readOpen_flags_local {d : Char} {rest after : List Char} {x : Token} (ahead : d ≠ '=')
    (behind : d ≠ '!') (name : d ≠ '<') (python : d = 'P' → rest.head? ≠ some '<')
    (h : readOpen ('?' :: d :: rest) = .ok (x, after)) :
    after.length ≤ rest.length + 2 ∧ ∀ more,
      readOpen ('?' :: d :: (rest ++ ')' :: more)) = .ok (x, after ++ ')' :: more) := by
  rw [readOpen_flags ahead behind name python] at h
  obtain ⟨⟨changes, left⟩, hf, h⟩ := bind_eq_ok_iff.mp h
  obtain ⟨le, same⟩ := readFlags_local hf
  obtain ⟨c, left, rfl⟩ := readFlags_left hf
  rw [List.length_cons, List.length_cons] at le
  have python' : ∀ more, d = 'P' → (rest ++ ')' :: more).head? ≠ some '<' := by
    rintro more rfl hr
    cases rest with
    | nil => cases hr
    | cons d rest => exact python rfl hr
  have grown : ∀ more, readFlags true true [] (d :: (rest ++ ')' :: more)) =
      .ok (changes, c :: (left ++ ')' :: more)) := same
  by_cases close : c = ')'
  · subst close
    by_cases none : changes = []
    · simp [none] at h
    · obtain ⟨rfl, rfl⟩ : Token.flags changes = x ∧ left = after := by simpa [none] using h
      refine ⟨by omega, fun more => ?_⟩
      rw [readOpen_flags ahead behind name (python' more), grown]
      simp [none]
  · obtain ⟨rfl, rfl⟩ : Token.openScope changes = x ∧ left = after := by simpa [close] using h
    refine ⟨by omega, fun more => ?_⟩
    rw [readOpen_flags ahead behind name (python' more), grown]
    simp [close]

/-- The head of a group is read the same before a parenthesis. The cases are those of `readOpen`,
and each of the lemmas before covers one of them. -/
theorem readOpen_local : Local readOpen := by
  intro cs x after h
  rcases cs with _ | ⟨c, rest⟩
  · cases h
    exact ⟨Nat.le_refl _, fun more => rfl⟩
  by_cases hc : c = '?'
  swap
  · rw [readOpen_plain hc] at h
    cases h
    exact ⟨Nat.le_refl _, fun more => readOpen_plain hc _⟩
  subst hc
  rcases rest with _ | ⟨d, rest⟩
  · cases h
  simp only [List.length_cons, List.cons_append]
  by_cases ahead : d = '='
  · subst ahead; cases h
  by_cases behind : d = '!'
  · subst behind; cases h
  by_cases name : d = '<'
  · subst name
    rcases rest with _ | ⟨d, rest⟩
    · cases h
    by_cases ahead : d = '='
    · subst ahead; cases h
    by_cases behind : d = '!'
    · subst behind; cases h
    exact readOpen_name_local ahead behind h
  by_cases python : d = 'P' ∧ rest.head? = some '<'
  · obtain ⟨rfl, hr⟩ := python
    rcases rest with _ | ⟨d, rest⟩
    · cases hr
    cases hr
    obtain ⟨⟨name, left⟩, hn, heq⟩ := bind_eq_ok_iff.mp h
    cases heq
    obtain ⟨le, same⟩ := readName_local hn
    refine ⟨by simp only [List.length_cons]; omega, fun more => ?_⟩
    simp [readOpen, same]
  · exact readOpen_flags_local ahead behind name (fun e hr => python ⟨e, hr⟩) h

/-! ## Repetitions -/

/-- Dropping stops at the same character when more is put behind the text, if it stops before the
end. -/
theorem dropWhile_append_of_cons {p : Char → Bool} {cs rest : List Char} {c : Char}
    (h : cs.dropWhile p = c :: rest) (more : List Char) :
    (cs ++ more).dropWhile p = c :: (rest ++ more) := by
  rw [List.dropWhile_append, h]
  rfl

/-- A number is read the same if something stands after it. It needs a character `c` behind the
number and the blanks around it, for a number at the end of a text could go on in what follows. -/
theorem readDecimal_append {verbose : Bool} {cs after : List Char} {c : Char} {n : Option Nat}
    (h : readDecimal verbose cs = .ok (n, c :: after)) :
    (c :: after).length ≤ cs.length ∧
      ∀ more, readDecimal verbose (cs ++ more) = .ok (n, c :: (after ++ more)) := by
  obtain ⟨digits, left, hg⟩ :
      ∃ digits left, gather verbose Char.isDigit (cs.dropWhile Unicode.isBlank) = (digits, left) :=
    ⟨_, _, rfl⟩
  have shorter := length_gather_le hg
  have shorter' := List.length_dropWhile_le Unicode.isBlank cs
  have shorter'' := List.length_dropWhile_le Unicode.isBlank left
  -- the number ends before `c`, so neither its digits nor the space around them reach the end
  have drop : left.dropWhile Unicode.isBlank = c :: after := by
    simp only [readDecimal, hg] at h
    split at h
    · exact (by simpa using h : none = n ∧ left.dropWhile Unicode.isBlank = c :: after).2
    · split at h
      · exact (Prod.mk.inj (Except.ok.inj h)).2
      · cases h
  rw [drop] at shorter''
  refine ⟨by omega, fun more => ?_⟩
  cases left with
  | nil => cases drop
  | cons d left =>
    cases hd : cs.dropWhile Unicode.isBlank with
    | nil =>
      rw [hd] at shorter
      simp at shorter
    | cons d' rest =>
      have grown := gather_append hg more
      rw [hd, List.cons_append] at grown
      have drop' := dropWhile_append_of_cons drop more
      rw [List.cons_append] at drop'
      simp only [readDecimal, hg, drop] at h
      simp only [readDecimal, dropWhile_append_of_cons hd more, grown, drop']
      split at h
      next none =>
        cases h
        rw [if_pos none]
      next some =>
        split at h
        next small =>
          cases h
          rw [if_neg some, if_pos small]
        next => cases h

/-- The bounds of a repetition are read the same before a parenthesis, since they end at their own
brace. -/
theorem readCount_local (verbose : Bool) : Local (readCount verbose) := by
  intro cs x after h
  have shorter := length_skip_le verbose cs
  obtain ⟨⟨low, rest⟩, hl, h⟩ := bind_eq_ok_iff.mp h
  cases hs : skip verbose cs with
  | nil =>
    rw [hs] at hl
    cases verbose <;> cases hl <;> cases h
  | cons c tail =>
    dsimp only at h
    split at h
    next n left _ =>
      cases h
      obtain ⟨le, same⟩ := readDecimal_append hl
      refine ⟨by rw [List.length_cons] at le; omega, fun more => ?_⟩
      have grown := same (')' :: more)
      rw [hs, List.cons_append] at grown
      simp [readCount, skip_append hs, grown]
    next n _ left =>
      obtain ⟨le, same⟩ := readDecimal_append hl
      rw [List.length_cons] at le
      have shorter' := length_skip_le verbose left
      have grown := fun more => same (')' :: more)
      simp only [hs, List.cons_append] at grown
      split at h
      next rest hr =>
        cases h
        rw [hr, List.length_cons] at shorter'
        refine ⟨by omega, fun more => ?_⟩
        simp [readCount, skip_append hs, grown, skip_append hr]
      next brace =>
        obtain ⟨⟨high, rest⟩, hh, h⟩ := bind_eq_ok_iff.mp h
        dsimp only at h
        split at h
        next m rest' _ =>
          split at h
          next ordered =>
            cases h
            obtain ⟨le', same'⟩ := readDecimal_append hh
            rw [List.length_cons] at le'
            refine ⟨by omega, fun more => ?_⟩
            cases hr : skip verbose left with
            | nil => rw [hr] at le'; simp at le'
            | cons d tail =>
              -- without a second bound the brace would come next, which is the case above
              have hd : d ≠ '}' := fun e => brace tail (e ▸ hr)
              have grown' := same' (')' :: more)
              rw [hr, List.cons_append] at grown'
              simp [readCount, skip_append hs, grown, skip_append hr, hd, grown', ordered]
          next => cases h
        next => cases h
    next => cases h

/-- The mark that makes a repetition prefer less is looked for in the next character only, and a
parenthesis is not that mark. -/
theorem readGreed_append (cs more : List Char) :
    readGreed (cs ++ ')' :: more) = ((readGreed cs).1, (readGreed cs).2 ++ ')' :: more) := by
  cases cs with
  | nil => rfl
  | cons c cs =>
    by_cases hc : c = '?'
    · subst hc; rfl
    · simp [readGreed, hc]

/-- Reading that mark takes at most one character. -/
theorem length_readGreed_le (cs : List Char) : (readGreed cs).2.length ≤ cs.length := by
  unfold readGreed
  split
  · exact Nat.le_succ _
  · exact Nat.le_refl _

/-! ## One token -/

/-- A token is read the same before a parenthesis, unless the text ends in a comment after it. That
can only be in verbose mode, where a token looks past comments: behind the parenthesis for the head
of its group, and behind bounds for the mark of a lazy repetition. -/
theorem readFrom_append {verbose : Bool} {c : Char} {cs after : List Char} {t : Token}
    (h : readFrom verbose c cs = .ok (t, after)) :
    after.length ≤ cs.length ∧
      ((∀ more, readFrom verbose c (cs ++ ')' :: more) = .ok (t, after ++ ')' :: more)) ∨
        after = [] ∧ ∀ more, '\n' ∉ more →
          readFrom verbose c (cs ++ ')' :: more) = .ok (t, [])) := by
  have shorter := length_skip_le verbose cs
  unfold readFrom at h ⊢
  split at h
  next =>
    obtain ⟨le, same⟩ := readOpen_local h
    refine ⟨by omega, ?_⟩
    -- behind a parenthesis the head of the group is looked for past space and comments
    cases hs : skip verbose cs with
    | nil =>
      rw [hs] at h
      cases h
      rcases skip_end hs with h | h
      · exact .inl fun more => by rw [h]; rfl
      · exact .inr ⟨rfl, fun more line => by rw [h more line]; rfl⟩
    | cons d rest =>
      rw [hs] at same
      exact .inl fun more => by rw [skip_append hs]; exact same more
  next => cases h; exact ⟨Nat.le_refl _, .inl fun more => rfl⟩
  next => cases h; exact ⟨Nat.le_refl _, .inl fun more => rfl⟩
  next =>
    obtain ⟨⟨inner, left⟩, hr, h⟩ := bind_eq_ok_iff.mp h
    obtain ⟨le, same⟩ := ClassSyntax.read_local verbose hr
    dsimp only at h
    split at h
    next => cases h; exact ⟨le, .inl fun more => by rw [same]; rfl⟩
    next => cases h
  next =>
    obtain ⟨⟨count, rest⟩, hr, h⟩ := bind_eq_ok_iff.mp h
    obtain ⟨rfl, rfl⟩ : Token.repeated count (readGreed (skip verbose rest)).1 = t ∧
        (readGreed (skip verbose rest)).2 = after := by simpa using h
    obtain ⟨le, same⟩ := readCount_local verbose hr
    have shorter := length_skip_le verbose rest
    have shorter' := length_readGreed_le (skip verbose rest)
    refine ⟨by omega, ?_⟩
    -- and so is the mark of a lazy repetition behind its bounds
    cases hs : skip verbose rest with
    | nil =>
      rcases skip_end hs with h | h
      · exact .inl fun more => by simp [same, h, readGreed]
      · exact .inr ⟨rfl, fun more line => by simp [same, h more line, readGreed]⟩
    | cons d tail =>
      refine .inl fun more => ?_
      simp only [same, ok_bind, skip_append hs]
      rw [← List.cons_append, readGreed_append]
      rfl
  next =>
    obtain ⟨⟨e, left⟩, hr, h⟩ := bind_eq_ok_iff.mp h
    cases h
    obtain ⟨le, same⟩ := Escape.read_local verbose hr
    exact ⟨le, .inl fun more => by rw [same]; rfl⟩
  next => cases h; exact ⟨Nat.le_refl _, .inl fun more => rfl⟩
  next => cases h; exact ⟨Nat.le_refl _, .inl fun more => rfl⟩
  next => cases h; exact ⟨Nat.le_refl _, .inl fun more => rfl⟩
  next =>
    split at h
    next count _ =>
      obtain ⟨rfl, rfl⟩ : Token.repeated count (readGreed cs).1 = t ∧ (readGreed cs).2 = after := by
        simpa using h
      exact ⟨length_readGreed_le cs, .inl fun more => by rw [readGreed_append]⟩
    next => cases h; exact ⟨Nat.le_refl _, .inl fun more => rfl⟩

/-! ## Rows of tokens -/

/-- In an empty text there are no tokens, whatever the fuel. -/
theorem readAll_nil (fuel : Nat) (modes : Bool × List Bool) : readAll fuel modes [] = .ok [] := by
  obtain ⟨verbose, stack⟩ := modes
  cases fuel <;> cases verbose <;> rfl

/-- Fuel beyond the length of a text makes no difference. Every token takes a character, so all the
fuel that is looked at is there. -/
theorem readAll_fuel {fuel : Nat} : ∀ {fuel' : Nat} {modes : Bool × List Bool} {cs : List Char},
    cs.length < fuel → cs.length < fuel' → readAll fuel modes cs = readAll fuel' modes cs := by
  induction fuel with
  | zero => intro fuel' modes cs h; omega
  | succ fuel ih =>
    intro fuel' modes cs enough enough'
    obtain ⟨n, rfl⟩ : ∃ n, fuel' = n + 1 := ⟨fuel' - 1, by omega⟩
    have shorter := length_skip_le modes.1 cs
    rw [readAll, readAll]
    split
    next => rfl
    next c rest hs =>
      rw [hs, List.length_cons] at shorter
      cases hr : readFrom modes.1 c rest with
      | error e => rfl
      | ok out =>
        have le := (readFrom_append hr).1
        have same : readAll fuel (modesAfter modes out.1) out.2 =
            readAll n (modesAfter modes out.1) out.2 := ih (by omega) (by omega)
        simp only [ok_bind, same]

/-- The tokens of a text, read in the given modes. -/
def tokens (modes : Bool × List Bool) (cs : List Char) : Except Fault (List Token) :=
  readAll (cs.length + 1) modes cs

/-- The tokens of a pattern are those of its characters in the initial mode, outside of all
groups. -/
theorem scan_eq_tokens (cs : List Char) : scan cs = tokens (false, []) cs := rfl

/-- Nothing is read where nothing counts. -/
theorem tokens_nil {modes : Bool × List Bool} {cs : List Char} (h : skip modes.1 cs = []) :
    tokens modes cs = .ok [] := by
  rw [tokens, readAll, h]

/-- The first token is read, and then the others, in the modes that it leaves. With `tokens_nil`
this replaces the reader with fuel in all that follows. -/
theorem tokens_cons {modes : Bool × List Bool} {cs rest after : List Char} {c : Char} {t : Token}
    (hs : skip modes.1 cs = c :: rest) (hr : readFrom modes.1 c rest = .ok (t, after)) :
    tokens modes cs = (tokens (modesAfter modes t) after).map (t :: ·) := by
  have shorter := length_skip_le modes.1 cs
  rw [hs, List.length_cons] at shorter
  have le := (readFrom_append hr).1
  rw [tokens, readAll, hs]
  simp only [hr, ok_bind]
  rw [readAll_fuel (by omega) (Nat.lt_succ_self _), tokens]
  cases readAll (after.length + 1) (modesAfter modes t) after <;> rfl

/-- A text begins with a row of tokens and goes on with `left`. -/
inductive Scans : Bool × List Bool → List Char → List Token → List Char → Prop
  | stop (modes : Bool × List Bool) (cs : List Char) : Scans modes cs [] cs
  | step {modes : Bool × List Bool} {cs rest after left : List Char} {c : Char} {t : Token}
      {ts : List Token} : skip modes.1 cs = c :: rest → readFrom modes.1 c rest = .ok (t, after) →
      Scans (modesAfter modes t) after ts left → Scans modes cs (t :: ts) left

/-- A row of tokens is read, and then the rest, in the modes after the row. By induction on the
row. -/
theorem Scans.tokens_eq {modes : Bool × List Bool} {cs left : List Char} {ts : List Token}
    (h : Scans modes cs ts left) :
    tokens modes cs = (tokens (ts.foldl modesAfter modes) left).map (ts ++ ·) := by
  induction h with
  | stop modes cs =>
    change tokens modes cs = (tokens modes cs).map ([] ++ ·)
    cases tokens modes cs <;> rfl
  | step hs hr _ ih =>
    rw [tokens_cons hs hr, ih, List.foldl_cons]
    cases tokens _ _ <;> rfl

/-- Two rows of tokens that are read one after the other are read as one. -/
theorem Scans.trans {modes : Bool × List Bool} {cs mid left : List Char} {ts ts' : List Token}
    (h : Scans modes cs ts mid) (h' : Scans (ts.foldl modesAfter modes) mid ts' left) :
    Scans modes cs (ts ++ ts') left := by
  induction h with
  | stop => exact h'
  | step hs hr _ ih => exact .step hs hr (ih h')

/-! ## Groups around a pattern -/

/-- How many groups are open after a token, if that many are open before it. A group that is not
open cannot be closed. -/
def nest (n : Nat) : Token → Option Nat
  | .openCapture _ => some (n + 1)
  | .openScope _ => some (n + 1)
  | .close => if n = 0 then none else some (n - 1)
  | _ => some n

/-- Groups further out do not matter for the modes inside. -/
theorem modesAfter_append {v : Bool} {stack : List Bool} {t : Token} {n : Nat}
    (h : nest stack.length t = some n) (further : List Bool) :
    modesAfter (v, stack ++ further) t =
        ((modesAfter (v, stack) t).1, (modesAfter (v, stack) t).2 ++ further) ∧
      (modesAfter (v, stack) t).2.length = n := by
  cases t with
  | openCapture | openScope =>
    obtain rfl := Option.some.inj h
    exact ⟨rfl, rfl⟩
  | close =>
    cases stack with
    | nil => cases h
    | cons b stack =>
      obtain rfl := Option.some.inj h
      exact ⟨rfl, rfl⟩
  | item | bar | flags | repeated =>
    obtain rfl := Option.some.inj h
    exact ⟨rfl, rfl⟩

/-- Between parentheses a pattern is read as it is by itself, and nothing beyond the closing one
matters; or else it ends in a comment, and nothing of the same line is read after it. By induction
on the fuel, with `readFrom_append` for each token; `depth` counts the groups that are open at the
end, so that their modes can be told from those further out. -/
theorem scans_or_comment : ∀ {fuel : Nat} {verbose : Bool} {stack : List Bool} {cs : List Char}
    {ts : List Token} {depth : Nat}, cs.length < fuel →
    readAll fuel (verbose, stack) cs = .ok ts → ts.foldlM nest stack.length = some depth →
      (∀ further more, Scans (verbose, stack ++ further) (cs ++ ')' :: more) (ts ++ [.close]) more ∧
        ∃ verbose' stack', ts.foldl modesAfter (verbose, stack ++ further) =
          (verbose', stack' ++ further) ∧ stack'.length = depth) ∨
      ∀ further more, '\n' ∉ more →
        tokens (verbose, stack ++ further) (cs ++ ')' :: more) = .ok ts := by
  intro fuel
  induction fuel with
  | zero => intro verbose stack cs ts depth h; omega
  | succ fuel ih =>
    intro verbose stack cs ts depth enough h nested
    have shorter := length_skip_le verbose cs
    rw [readAll] at h
    split at h
    next hs =>
      cases h
      obtain rfl := Option.some.inj nested
      rcases skip_end hs with h | h
      · refine .inl fun further more => ⟨?_, verbose, stack, rfl, rfl⟩
        exact .step (h more) rfl (.stop _ _)
      · exact .inr fun further more line => tokens_nil (h more line)
    next c rest hs =>
      rw [hs, List.length_cons] at shorter
      obtain ⟨⟨t, after⟩, hr, h⟩ := bind_eq_ok_iff.mp h
      obtain ⟨ts', ht, heq⟩ := bind_eq_ok_iff.mp h
      cases heq
      obtain ⟨le, same⟩ := readFrom_append hr
      rw [List.foldlM_cons] at nested
      obtain ⟨n, hn, nested⟩ := Option.bind_eq_some_iff.mp nested
      have modes := fun further => (modesAfter_append (v := verbose) hn further).1
      rw [← (modesAfter_append (v := verbose) hn []).2] at nested
      -- the rest is read in whatever modes these are, and `nested` keeps how deep they are
      generalize modesAfter (verbose, stack) t = inner at ht modes nested
      obtain ⟨verbose₁, stack₁⟩ := inner
      have head : ∀ further more, skip (verbose, stack ++ further).1 (cs ++ ')' :: more) =
          c :: (rest ++ ')' :: more) := fun _ _ => skip_append hs _
      rcases same with same | ⟨rfl, same⟩
      · rcases ih (by omega) ht nested with clean | comment
        · refine .inl fun further more => ?_
          obtain ⟨scans, verbose', stack', after', length'⟩ := clean further more
          refine ⟨.step (head further more) (same more) ?_, verbose', stack', ?_, length'⟩
          · rw [modes]
            exact scans
          · rw [List.foldl_cons, modes]
            exact after'
        · refine .inr fun further more line => ?_
          rw [tokens_cons (head further more) (same more), modes, comment further more line]
          rfl
      · refine .inr fun further more line => ?_
        -- the comment behind the token reaches the end, so the token is the last one
        obtain rfl : ts' = [] := by
          rw [readAll_nil] at ht
          exact (Except.ok.inj ht).symm
        rw [tokens_cons (head further more) (same more line), tokens, readAll_nil]
        rfl

/-- A pattern between parentheses, outside of verbose mode, is read as these tokens, whatever
follows. -/
def ReadsAlone (cs : List Char) (ts : List Token) : Prop :=
  ∀ stack more, Scans (false, false :: stack) (cs ++ ')' :: more) (ts ++ [.close]) more ∧
    (ts ++ [Token.close]).foldl modesAfter (false, false :: stack) = (false, stack)

/-- A pattern whose groups are balanced reads alone, or ends in a comment. Which of the two it is
can only be told from its last line. -/
theorem readsAlone_or_comment {cs : List Char} {ts : List Token} (h : scan cs = .ok ts)
    (balanced : ts.foldlM nest 0 = some 0) :
    ReadsAlone cs ts ∨
      ∀ stack more, '\n' ∉ more → tokens (false, stack) (cs ++ ')' :: more) = .ok ts := by
  rcases scans_or_comment (Nat.lt_succ_self _) h balanced with clean | comment
  · refine .inl fun stack more => ?_
    obtain ⟨scans, verbose, stack', after, length⟩ := clean (false :: stack) more
    obtain rfl := List.length_eq_zero_iff.mp length
    refine ⟨scans, ?_⟩
    rw [List.foldl_append]
    exact congrArg (List.foldl modesAfter · [Token.close]) after
  · exact .inr fun stack more line => comment stack more line

/-- A group around a pattern that reads alone is read as the tokens of the pattern between those of
the group, and leaves the modes as they were. -/
theorem ReadsAlone.scans_group {cs : List Char} {ts : List Token} (h : ReadsAlone cs ts)
    (stack : List Bool) (more : List Char) :
    Scans (false, stack) ('(' :: '?' :: ':' :: (cs ++ ')' :: more))
        (.openScope [] :: (ts ++ [.close])) more ∧
      (Token.openScope [] :: (ts ++ [.close])).foldl modesAfter (false, stack) = (false, stack) :=
  ⟨.step rfl rfl (h stack more).1, (h stack more).2⟩

/-! ## Escaped text -/

/-- The token of a character that stands for itself. -/
def ofChar (c : Char) : Token := .item (.char ⟨c, false⟩)

/-- Escaped text is read as its characters, whatever follows. Characters with a meaning have a
backslash before them, and those without are no tokens of another kind. -/
theorem scans_escapeChars (text : List Char) (stack : List Bool) (more : List Char) :
    Scans (false, stack) (escapeChars text ++ more) (text.map ofChar) more := by
  induction text with
  | nil => exact .stop _ _
  | cons c text ih =>
    rw [escapeChars, List.map_cons]
    split
    next special =>
      refine .step rfl ?_ ih
      -- digits are asked for first behind a backslash, where they would be references
      have digit : c.isDigit = false := by
        revert special
        simp only [isMeta, decide_eq_true_eq]
        intro mem
        simp only [List.mem_cons, List.not_mem_nil, or_false] at mem
        rcases mem with rfl | rfl | rfl | rfl | rfl | rfl | rfl | rfl | rfl | rfl | rfl | rfl |
          rfl | rfl | rfl | rfl | rfl | rfl <;> rfl
      simp [readFrom, Escape.read, digit, Escape.isEscapable, special, ofEscape, ofChar]
    next plain =>
      refine .step rfl ?_ ih
      -- each character that begins a token of another kind is among those with a meaning
      have other : ∀ d, isMeta d = true → c ≠ d := fun d hd e => plain (e ▸ hd)
      unfold readFrom
      split
      iterate 9 next => exact absurd rfl (other _ (by decide))
      next =>
        have none : repetition? c = none := by
          unfold repetition?
          split
          iterate 3 next => exact absurd rfl (other _ (by decide))
          rfl
        rw [none]
        rfl

/-- Characters change no mode. -/
theorem foldl_modesAfter_ofChar (text : List Char) (modes : Bool × List Bool) :
    (text.map ofChar).foldl modesAfter modes = modes := by
  induction text with
  | nil => rfl
  | cons c text ih => exact ih

end Token

end TokenClassifier.Regex
