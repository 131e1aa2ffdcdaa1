import TokenClassifier.Proofs.Except
import TokenClassifier.Unicode.Binary
import TokenClassifier.Yaml.Node

/-!
# Blank documents

A text of blank characters holds no mapping and no sequence. Some blank characters separate tokens,
some are characters of plain scalars, and some are not allowed, but none of them begins a
collection, a key or a mark. So a scan only makes plain scalars until it comes to the end
(`Scan.Bare`), and the first of them is all that there is of the document
(`Document.root_ofText_of_blank`).
-/

namespace TokenClassifier.Yaml

open Unicode

/-! ## What is left to read -/

namespace Cursor

/-- Going on leaves an end of what was left. -/
theorem rest_advance (c : Cursor) (n : Nat) : (c.advance n).rest <:+ c.rest := by
  induction n generalizing c with
  | zero => exact List.suffix_rfl
  | succ n ih =>
    unfold advance
    split
    next => exact List.suffix_rfl
    next first rest h =>
      rw [h]
      exact (ih _).trans (List.suffix_cons first rest)

/-- Taking a line break leaves an end of what was left, whether there is a break or not. -/
theorem rest_takeBreak (c : Cursor) : c.takeBreak.2.rest <:+ c.rest := by
  unfold takeBreak
  split
  next rest h =>
    rw [h]
    exact (List.suffix_cons _ _).trans (List.suffix_cons _ _)
  next d rest _ h =>
    split
    · rw [h]
      exact List.suffix_cons _ _
    · exact List.suffix_rfl
  next => exact List.suffix_rfl

end Cursor

/-- Reading the white space between the words of a plain scalar leaves an end of what was left. By
induction on the fuel. -/
theorem rest_readGap {indent fuel : Nat} {g g' : Gap} {c c' : Cursor}
    (h : readGap indent fuel g c = .ok (g', c')) : c'.rest <:+ c.rest := by
  induction fuel generalizing g c with
  | zero =>
    cases h
    exact List.suffix_rfl
  | succ fuel ih =>
    unfold readGap at h
    split at h
    next =>
      split at h
      next => cases h
      next =>
        split at h
        next => exact (ih h).trans (c.rest_advance 1)
        next => exact (ih h).trans (c.rest_advance 1)
    next =>
      split at h
      next =>
        dsimp only at h
        split at h
        next => exact (ih h).trans c.rest_takeBreak
        next => exact (ih h).trans c.rest_takeBreak
      next =>
        cases h
        exact List.suffix_rfl

/-- Reading a plain scalar leaves an end of what was left. By induction on the fuel; each round
reads a word and the white space behind it. -/
theorem rest_readPlainFrom {inFlow broken : Bool} {indent fuel : Nat} {done text : List Char}
    {g : Gap} {c c' : Cursor}
    (h : readPlainFrom inFlow indent fuel done g c = .ok (text, broken, c')) :
    c'.rest <:+ c.rest := by
  induction fuel generalizing done g c with
  | zero =>
    cases h
    exact List.suffix_rfl
  | succ fuel ih =>
    unfold readPlainFrom at h
    split at h
    next =>
      cases h
      exact List.suffix_rfl
    next =>
      obtain ⟨word, _, h⟩ := bind_eq_ok_iff.mp h
      refine .trans ?_ (c.rest_advance word.length)
      dsimp only at h
      split at h
      next =>
        obtain ⟨⟨g', c''⟩, hgap, h⟩ := bind_eq_ok_iff.mp h
        refine .trans ?_ (rest_readGap hgap)
        dsimp only at h
        split at h
        next =>
          cases h
          exact List.suffix_rfl
        next => exact ih h
      next =>
        cases h
        exact List.suffix_rfl

/-! ## Scans -/

/-- A scalar without quotes, or the end. -/
inductive Token.Bare : Token → Prop
  | scalar (text : List Char) : Bare (.scalar .plain text)
  | streamEnd : Bare .streamEnd

namespace Scan

/-- A scan of a text in which only blank characters are left, with no collection open. -/
structure Bare (s : Scan) : Prop where
  blank : ∀ c ∈ s.cursor.rest, isBlank c = true
  indents : s.indents = []
  outer : s.outer = []
  queue : ∀ t ∈ s.queue, t.Bare

variable {s s' : Scan}

/-- Skipping what separates tokens changes the place and whether a key may follow, and nothing else
of the scan. What is left is an end of what was. -/
theorem skipGaps_eq (fuel : Nat) (s : Scan) :
    ∃ c allowed, skipGaps fuel s = { s with cursor := c, keyAllowed := allowed } ∧
      c.rest <:+ s.cursor.rest := by
  induction fuel generalizing s with
  | zero => exact ⟨s.cursor, s.keyAllowed, rfl, List.suffix_rfl⟩
  | succ fuel ih =>
    unfold skipGaps
    extract_lets c₀ c₁ tabs c₂ c₃
    have h₁ : c₁.rest <:+ s.cursor.rest := by
      unfold c₁ c₀
      split
      · exact Cursor.rest_advance _ _
      · exact List.suffix_rfl
    have h₂ : c₂.rest <:+ s.cursor.rest := (Cursor.rest_advance _ _).trans h₁
    have h₃ : c₃.rest <:+ s.cursor.rest := by
      unfold c₃
      split
      · exact (Cursor.rest_advance _ _).trans h₂
      · exact h₂
    split
    · obtain ⟨c, allowed, h, within⟩ := ih { s with
        cursor := c₃.skipBreak, keyAllowed := s.keyAllowed || !s.inFlow }
      exact ⟨c, allowed, h, (within.trans c₃.rest_takeBreak).trans h₃⟩
    · exact ⟨c₃, s.keyAllowed, rfl, h₃⟩

/-- Skipping keeps a scan bare, for an end of blank characters is blank. -/
theorem Bare.skipGaps (bare : s.Bare) (fuel : Nat) : (skipGaps fuel s).Bare := by
  obtain ⟨c, allowed, h, within⟩ := skipGaps_eq fuel s
  rw [h]
  exact ⟨fun d hd => bare.blank d (within.subset hd), bare.indents, bare.outer, bare.queue⟩

/-- Forgetting what can be no key any more keeps a scan bare. -/
theorem Bare.dropStale (bare : s.Bare) (h : s.dropStale = .ok s') : s'.Bare := by
  obtain ⟨outer, houter, h⟩ := bind_eq_ok_iff.mp h
  obtain ⟨candidate, _, h⟩ := bind_eq_ok_iff.mp h
  rw [bare.outer] at houter
  cases houter
  cases h
  exact ⟨bare.blank, bare.indents, rfl, bare.queue⟩

/-- Giving up a possible key keeps it bare too, where it is not an error. -/
theorem Bare.dropCandidate (bare : s.Bare) (h : s.dropCandidate = .ok s') : s'.Bare := by
  unfold Scan.dropCandidate at h
  split at h
  · cases h
  · cases h
    exact ⟨bare.blank, bare.indents, bare.outer, bare.queue⟩

/-- Noting a possible key keeps it bare: it is noted beside the queue. -/
theorem Bare.noteCandidate (bare : s.Bare) (h : s.noteCandidate = .ok s') : s'.Bare := by
  unfold Scan.noteCandidate at h
  split at h
  · obtain ⟨dropped, hdropped, h⟩ := bind_eq_ok_iff.mp h
    have bare := bare.dropCandidate hdropped
    cases h
    exact ⟨bare.blank, bare.indents, bare.outer, bare.queue⟩
  · cases h
    exact bare

/-- No collection is open that could be closed, so going back to a column does nothing. -/
theorem Bare.unindent (bare : s.Bare) (column : Option Nat) : s.unindent column = s := by
  have flow : s.inFlow = false := by rw [inFlow, bare.outer]; rfl
  unfold Scan.unindent
  rw [if_neg (by simp [flow]), bare.indents]
  simp [closeIndents, ← bare.indents]

/-- A bare token may be put in the queue. -/
theorem Bare.push (bare : s.Bare) {t : Token} (ht : t.Bare) : (s.push t).Bare := by
  refine ⟨bare.blank, bare.indents, bare.outer, fun t' mem => ?_⟩
  rcases List.mem_append.mp mem with mem | mem
  · exact bare.queue t' mem
  · rwa [List.mem_singleton.mp mem]

/-- At the end, a bare scan passes on the end of the stream and nothing else. There is no collection
to close before it. -/
theorem Bare.takeEnd (bare : s.Bare) (h : s.takeEnd = .ok s') : s'.Bare := by
  obtain ⟨atMargin, hmargin, h⟩ := bind_eq_ok_iff.mp h
  obtain ⟨dropped, hdropped, hmargin⟩ := bind_eq_ok_iff.mp hmargin
  cases hmargin
  cases h
  -- the end of the last line changes the place alone
  have moved : (if s.cursor.column = 0 then s
      else s.goTo { s.cursor with column := 0, line := s.cursor.line + 1 }).Bare := by
    split
    · exact bare
    · exact ⟨bare.blank, bare.indents, bare.outer, bare.queue⟩
  rw [moved.unindent] at hdropped
  have bare := moved.dropCandidate hdropped
  have closed : Scan.Bare { dropped with keyAllowed := false } :=
    ⟨bare.blank, bare.indents, bare.outer, bare.queue⟩
  exact closed.push .streamEnd

/-- Taking a plain scalar keeps a scan bare. The scalar has no quotes, and what is left is an end of
what was. -/
theorem Bare.takePlain (bare : s.Bare) (h : s.takePlain = .ok s') : s'.Bare := by
  obtain ⟨noted, hnoted, h⟩ := bind_eq_ok_iff.mp h
  obtain ⟨⟨text, broken, c⟩, hread, h⟩ := bind_eq_ok_iff.mp h
  cases h
  have bare := bare.noteCandidate hnoted
  have within := rest_readPlainFrom hread
  have read : (Scan.goTo { noted with keyAllowed := broken } c).Bare :=
    ⟨fun d hd => bare.blank d (within.subset hd), bare.indents, bare.outer, bare.queue⟩
  exact read.push (.scalar text)

/-- No mark of a document is there, since marks are made of characters that are not blank. -/
theorem Bare.atMark (bare : s.Bare) {d : Char} (hd : isBlank d = false) :
    s.cursor.atMark d = false := by
  rw [Bool.eq_false_iff]
  intro mark
  simp only [Cursor.atMark, Bool.and_eq_true, beq_iff_eq] at mark
  have here : d ∈ s.cursor.rest.take 3 := by rw [mark.1.2]; exact List.mem_cons_self
  rw [bare.blank d (List.mem_of_mem_take here)] at hd
  cases hd

/-- No blank character begins anything but a plain scalar. All other ways to begin a token ask for a
character that is not blank, and are excluded one by one. -/
theorem Bare.takeToken (bare : s.Bare) {c : Char} (hc : isBlank c = true)
    (h : s.takeToken c = .ok s') : s'.Bare := by
  have other : ∀ {d : Char}, isBlank d = false → c ≠ d := by
    rintro d hd rfl
    rw [hc] at hd
    cases hd
  simp only [Scan.takeToken, bare.atMark (show isBlank '-' = false by decide),
    bare.atMark (show isBlank '.' = false by decide), @other '%' (by decide),
    @other '[' (by decide), @other '{' (by decide), @other ']' (by decide), @other '}' (by decide),
    @other ',' (by decide), @other '-' (by decide), @other '?' (by decide), @other ':' (by decide),
    @other '*' (by decide), @other '&' (by decide), @other '!' (by decide), @other '|' (by decide),
    @other '>' (by decide), @other '\'' (by decide), @other '"' (by decide), and_false, false_and,
    if_false, Bool.false_eq_true] at h
  split at h
  · exact bare.takePlain h
  · cases h

/-- One step of a scan keeps it bare, whether it takes the end or a token. -/
theorem Bare.next (bare : s.Bare) (h : s.next = .ok s') : s'.Bare := by
  obtain ⟨gone, hgone, h⟩ := bind_eq_ok_iff.mp h
  have bare := (bare.skipGaps _).dropStale hgone
  rw [bare.unindent] at h
  dsimp only at h
  split at h
  next => exact bare.takeEnd h
  next c hc => exact bare.takeToken (bare.blank c (List.mem_of_mem_head? hc)) h

/-- All that a scan of blank characters passes on is bare. By induction on the fuel, with
`Bare.next` for the step; errors pass on nothing. -/
theorem Bare.run (bare : s.Bare) (fuel : Nat) : ∀ t ∈ (run fuel s).1, t.Bare := by
  induction fuel generalizing s with
  | zero => exact nofun
  | succ fuel ih =>
    unfold Scan.run
    split
    next => exact nofun
    next s₁ h₁ =>
      split
      next => exact nofun
      next s₂ h₂ =>
        have bare := (bare.next h₁).dropStale h₂
        have passed : ∀ t ∈ s₂.release.1, t.Bare :=
          fun t mem => bare.queue t (List.mem_of_mem_take mem)
        have left : s₂.release.2.Bare := ⟨bare.blank, bare.indents, bare.outer,
          fun t mem => bare.queue t (List.mem_of_mem_drop mem)⟩
        dsimp only
        split
        · exact passed
        · intro t mem
          rcases List.mem_append.mp mem with mem | mem
          · exact passed t mem
          · exact ih left t mem

end Scan

/-! ## Documents -/

/-- A row of bare tokens is a document of one scalar at most. The first token decides. -/
theorem Document.root_ofTokens {tokens : List Token} (bare : ∀ t ∈ tokens, t.Bare) :
    (ofEvents (Event.ofTokens (.streamStart :: tokens))).root = .broken ∨
      ∃ s, (ofEvents (Event.ofTokens (.streamStart :: tokens))).root = .scalar s := by
  cases tokens with
  | nil => exact .inl rfl
  | cons t rest =>
    cases bare t List.mem_cons_self with
    | streamEnd => exact .inr ⟨_, rfl⟩
    | scalar text => exact .inr ⟨_, rfl⟩

/-- A blank text is a document of one scalar at most, or is broken. So it is no mapping, and reading
it as the empty configuration hides none. -/
theorem Document.root_ofText_of_blank {text : List Char} (blank : ∀ c ∈ text, isBlank c = true) :
    (ofText text).root = .broken ∨ ∃ s, (ofText text).root = .scalar s := by
  unfold ofText Token.scan
  split
  · refine root_ofTokens fun t mem => ?_
    have start : Scan.Bare { cursor := Cursor.ofText text } :=
      ⟨blank, rfl, rfl, fun t mem => absurd mem List.not_mem_nil⟩
    exact start.run _ t mem
  · exact .inl rfl

end TokenClassifier.Yaml
