import Mathlib.Data.List.Induction
import TokenClassifier.Proofs.Text.Utf8

/-!
# What a replacement character stands for

Bytes are cut into characters and parts that are none, and each part that is none is replaced
(`Lossy`). A part is either the beginning of a character that is not gone on with, as far as it
goes, or a single byte with which no character begins.

The machine reads so and in no other way (`decode_eq_iff`). While it is inside of a character it
has written nothing, and the bytes that it took are known by what can come next (`State.Holds`):
with every number that has the bits read so far and that the bounds let through, they are the
beginning of a character. So a byte between the bounds goes on with a character, and a byte that is
refused could not have stood there in any.

No character goes on with a line feed, so a line is cut as if nothing were behind it, and a text is
read line by line (`decode_append_newline`).
-/

namespace TokenClassifier.Utf8

/-- A character begins with these bytes, or consists of them. -/
def Front (bytes : List UInt8) : Prop := ∃ c, bytes <+: encodeChar c

/-- How bytes are read as a text whatever they are. -/
inductive Lossy : List UInt8 → List Char → Prop
  | nil : Lossy [] []
  /-- A character is read as it is. -/
  | char {rest : List UInt8} {cs : List Char} (c : Char) (later : Lossy rest cs) :
      Lossy (encodeChar c ++ rest) (c :: cs)
  /-- A character that is not complete is replaced, with all the bytes that it has. -/
  | broken {part rest : List UInt8} {cs : List Char} (nonempty : part ≠ []) (front : Front part)
      (incomplete : ∀ c, part ≠ encodeChar c) (longest : ∀ b ∈ rest.head?, ¬ Front (part ++ [b]))
      (later : Lossy rest cs) : Lossy (part ++ rest) (replacement :: cs)
  /-- A byte that is in no place is replaced. -/
  | stray {b : UInt8} {rest : List UInt8} {cs : List Char} (misplaced : ¬ Front [b])
      (later : Lossy rest cs) : Lossy (b :: rest) (replacement :: cs)

variable {s s' : State} {part rest : List UInt8} {b : UInt8} {c : Char}

/-! ## Taking a byte -/

/-- A byte with which no character begins is replaced, and the next one is read as if it were the
first. -/
theorem decode_of_refused (h : first? b.toNat = none) (rest : List UInt8) :
    decode (b :: rest) = replacement :: decode rest := by
  have refused : next? .between b.toNat = none := h
  rw [decode, decodeFrom_cons, step, refused]
  rfl

/-- A byte that breaks a character off is read as if nothing were before it. What was broken off is
replaced, once for all its bytes. -/
theorem decodeFrom_of_refused {bits owed lo hi : Nat}
    (h : next? (.inside bits owed lo hi) b.toNat = none) (rest : List UInt8) :
    decodeFrom (.inside bits owed lo hi) (b :: rest) = replacement :: decode (b :: rest) := by
  rw [decode, decodeFrom_cons, decodeFrom_cons, step, h, step]
  cases first : first? b.toNat with
  | none => simp [next?, first]
  | some taken => simp [next?, first]

/-- Where nothing is written, a character has begun. -/
theorem next?_ne_silent (s : State) (b : Nat) : next? s b ≠ some (none, .between) := by
  intro h
  cases s with
  | between =>
    simp only [next?, first?] at h
    repeat' split at h
    all_goals cases h
  | inside bits owed lo hi =>
    simp only [next?] at h
    repeat' split at h
    all_goals cases h

/-- The same for a step, which may also write a replacement. -/
theorem step_ne_silent (s : State) (b : Nat) : step s b ≠ ([], .between) := by
  intro h
  unfold step at h
  split at h
  next c s' taken =>
    obtain ⟨silent, rfl⟩ := Prod.mk.inj h
    rw [Option.toList_eq_nil_iff.mp silent] at taken
    exact next?_ne_silent s b taken
  next =>
    repeat' split at h
    all_goals cases h

/-- Nothing is read from no bytes outside of a character, and from these only. Inside of one, the
end of the bytes writes a replacement. -/
theorem decodeFrom_eq_nil_iff {bytes : List UInt8} :
    decodeFrom s bytes = [] ↔ bytes = [] ∧ s = .between := by
  constructor
  · intro h
    induction bytes generalizing s with
    | nil =>
      cases s with
      | between => exact ⟨rfl, rfl⟩
      | inside => cases h
    | cons b rest ih =>
      rw [decodeFrom_cons, List.append_eq_nil_iff] at h
      exact absurd (Prod.ext h.1 (ih h.2).2) (step_ne_silent s b.toNat)
  · rintro ⟨rfl, rfl⟩
    rfl

/-- So a text is empty exactly if its bytes are. -/
theorem decode_eq_nil_iff {bytes : List UInt8} : decode bytes = [] ↔ bytes = [] := by
  simp [decode, decodeFrom_eq_nil_iff]

/-- The bytes of a character are read as the character alone. -/
theorem decode_encodeChar_nil (c : Char) : decode (encodeChar c) = [c] := by
  have read := decode_encodeChar c []
  rwa [List.append_nil] at read

/-- No character begins with the bytes of another one. This follows from reading them: the first
would be read, and the rest of the bytes as something more. -/
theorem eq_nil_of_encodeChar_append {c c' : Char} {more : List UInt8}
    (h : encodeChar c ++ more = encodeChar c') : more = [] := by
  have read : c :: decode more = [c'] := by
    rw [← decode_encodeChar c more, h, decode_encodeChar_nil]
  exact decode_eq_nil_iff.mp (List.cons.inj read).2

/-! ## Inside of a character -/

/-- What the bytes of a character that is not complete say about it: they are the beginning of each
character with the bits read so far whose next byte is within the bounds. -/
inductive State.Holds : List UInt8 → State → Prop
  | between : Holds [] .between
  | inside {part : List UInt8} {bits owed lo hi : Nat} (nonempty : part ≠ [])
      (bounds : 0x80 ≤ lo ∧ lo ≤ hi ∧ hi ≤ 0xbf)
      (fronts : ∀ n, n / 64 ^ (owed + 1) = bits →
        lo ≤ 0x80 + n / 64 ^ owed % 64 → 0x80 + n / 64 ^ owed % 64 ≤ hi →
          encodeChar (Char.ofNat n) = part ++ tails n (owed + 1)) :
      Holds part (.inside bits (owed + 1) lo hi)

/-- The bytes of the character with a given number, if it has two. -/
theorem encodeChar_of_two {n : Nat} (least : 0x7f < n) (most : n ≤ 0x7ff) :
    encodeChar (Char.ofNat n) = UInt8.ofNat (0xc0 + n / 64 ^ 1) :: tails n 1 := by
  rw [encodeChar_eq, toNat_ofNat (by omega), if_neg (by omega), if_pos most]

/-- The same for three bytes, where surrogates are no characters. -/
theorem encodeChar_of_three {n : Nat} (least : 0x7ff < n) (most : n ≤ 0xffff)
    (valid : n < 0xd800 ∨ 0xdfff < n) :
    encodeChar (Char.ofNat n) = UInt8.ofNat (0xe0 + n / 64 ^ 2) :: tails n 2 := by
  rw [encodeChar_eq, toNat_ofNat (by omega), if_neg (by omega), if_neg (by omega), if_pos most]

/-- The same for four bytes. -/
theorem encodeChar_of_four {n : Nat} (least : 0xffff < n) (most : n < 0x110000) :
    encodeChar (Char.ofNat n) = UInt8.ofNat (0xf0 + n / 64 ^ 3) :: tails n 3 := by
  rw [encodeChar_eq, toNat_ofNat (by omega), if_neg (by omega), if_neg (by omega),
    if_neg (by omega)]

/-- A first byte with the highest bits of some numbers is the first byte of their characters. It is
stated once for all lengths, which differ in the lead and in the bounds. -/
theorem holds_of_lead {lead bits owed lo hi : Nat} (byte : b.toNat = lead + bits)
    (bounds : 0x80 ≤ lo ∧ lo ≤ hi ∧ hi ≤ 0xbf)
    (h : ∀ n, n / 64 ^ (owed + 1) = bits →
      lo ≤ 0x80 + n / 64 ^ owed % 64 → 0x80 + n / 64 ^ owed % 64 ≤ hi →
        encodeChar (Char.ofNat n) =
          UInt8.ofNat (lead + n / 64 ^ (owed + 1)) :: tails n (owed + 1)) :
    State.Holds [b] (.inside bits (owed + 1) lo hi) := by
  refine .inside (List.cons_ne_nil b []) bounds ?_
  intro n high above below
  rw [h n high above below, high, ← byte, UInt8.ofNat_toNat, List.singleton_append]

/-- A first byte that is taken holds what the state after it says. One case for each kind of first
byte, with its bounds. -/
theorem holds_of_first? (h : first? b.toNat = some (none, s)) : State.Holds [b] s := by
  unfold first? at h
  repeat' split at h
  all_goals cases h
  -- the first bytes of two, of three and of four, in the order of the machine
  · exact @holds_of_lead _ 0xc0 _ 0 _ _ (by omega) (by omega) fun n bits above below =>
      encodeChar_of_two (by omega) (by omega)
  · exact @holds_of_lead _ 0xe0 _ 1 _ _ (by omega) (by omega) fun n bits above below =>
      encodeChar_of_three (by omega) (by omega) (by omega)
  · exact @holds_of_lead _ 0xe0 _ 1 _ _ (by omega) (by omega) fun n bits above below =>
      encodeChar_of_three (by omega) (by omega) (by omega)
  · exact @holds_of_lead _ 0xe0 _ 1 _ _ (by omega) (by omega) fun n bits above below =>
      encodeChar_of_three (by omega) (by omega) (by omega)
  · exact @holds_of_lead _ 0xf0 _ 2 _ _ (by omega) (by omega) fun n bits above below =>
      encodeChar_of_four (by omega) (by omega)
  · exact @holds_of_lead _ 0xf0 _ 2 _ _ (by omega) (by omega) fun n bits above below =>
      encodeChar_of_four (by omega) (by omega)
  · exact @holds_of_lead _ 0xf0 _ 2 _ _ (by omega) (by omega) fun n bits above below =>
      encodeChar_of_four (by omega) (by omega)

/-- A byte that is taken inside of a character has the next bits of its number, so the bytes so far
are still the beginning of all characters with these bits. -/
theorem holds_of_next? (holds : State.Holds part s) (h : next? s b.toNat = some (none, s')) :
    State.Holds (part ++ [b]) s' := by
  cases holds with
  | between => exact holds_of_first? h
  | @inside _ bits owed lo hi nonempty bounds fronts =>
    simp only [next?] at h
    repeat' split at h
    all_goals cases h
    next within more =>
      obtain ⟨owed, rfl⟩ : ∃ k, owed = k + 1 := ⟨owed - 1, by omega⟩
      refine .inside (by simp) (by omega) ?_
      intro n number _ _
      have six := bits_of_tail n (owed + 1)
      have byte : 0x80 + n / 64 ^ (owed + 1) % 64 = b.toNat := by omega
      rw [fronts n (by omega) (by omega) (by omega), tails, byte, UInt8.ofNat_toNat]
      exact List.append_cons part b _

/-- With the last byte the character is there, and it is the one whose bytes were taken. -/
theorem encodeChar_of_next? (holds : State.Holds part s)
    (h : next? s b.toNat = some (some c, s')) : s' = .between ∧ encodeChar c = part ++ [b] := by
  cases holds with
  | between =>
    simp only [next?, first?] at h
    repeat' split at h
    all_goals cases h
    next least =>
      refine ⟨rfl, ?_⟩
      rw [encodeChar_eq, toNat_ofNat (by omega), if_pos least, UInt8.ofNat_toNat]
      rfl
  | @inside _ bits owed lo hi nonempty bounds fronts =>
    simp only [next?] at h
    split at h
    next within =>
      split at h
      next last =>
        simp only [Option.some.injEq, Prod.mk.injEq] at h
        obtain ⟨rfl, rfl⟩ := h
        obtain rfl : owed = 0 := by omega
        refine ⟨rfl, ?_⟩
        generalize number : 64 * bits + (b.toNat - 0x80) = n
        have byte : 0x80 + n / 64 ^ 0 % 64 = b.toNat := by omega
        rw [fronts n (by omega) (by omega) (by omega), tails, byte, UInt8.ofNat_toNat]
        rfl
      next => cases h
    next => cases h

/-- A character that is not complete can be completed, for instance by the least number that the
bounds let through. -/
theorem exists_more_of_holds (holds : State.Holds part s) :
    ∃ c more, part ++ more = encodeChar c ∧ more ≠ [] := by
  cases holds with
  | between => exact ⟨'\n', [10], rfl, by simp⟩
  | @inside _ bits owed lo hi nonempty bounds fronts =>
    have power : 0 < 64 ^ owed := Nat.pow_pos (by decide)
    generalize number : (64 * bits + (lo - 0x80)) * 64 ^ owed = n
    have bits' : n / 64 ^ owed = 64 * bits + (lo - 0x80) := by
      rw [← number, Nat.mul_div_cancel _ power]
    have six := bits_of_tail n owed
    refine ⟨Char.ofNat n, tails n (owed + 1), ?_, List.cons_ne_nil _ _⟩
    exact (fronts n (by omega) (by omega) (by omega)).symm

/-- What a reader has taken of a character, with nothing written for it. -/
structure Reads (part : List UInt8) (s : State) : Prop where
  decodes : ∀ rest, decode (part ++ rest) = decodeFrom s rest
  holds : State.Holds part s

/-- At the beginning nothing has been taken. -/
theorem Reads.between : Reads [] .between := ⟨fun _ => rfl, .between⟩

/-- A byte that is taken without completing a character is part of what has been taken. -/
theorem Reads.next (reads : Reads part s) (h : next? s b.toNat = some (none, s')) :
    Reads (part ++ [b]) s' where
  decodes rest := by
    rw [List.append_assoc, List.singleton_append, reads.decodes, decodeFrom_of_taken h]
    rfl
  holds := holds_of_next? reads.holds h

/-- What has been taken is the beginning of a character. -/
theorem Reads.front (reads : Reads part s) : Front part := by
  obtain ⟨c, more, written, _⟩ := exists_more_of_holds reads.holds
  exact ⟨c, more, written⟩

/-- And it is no character yet, since no character begins with another. -/
theorem Reads.incomplete (reads : Reads part s) (c : Char) : part ≠ encodeChar c := by
  intro written
  obtain ⟨c', more, longer, nonempty⟩ := exists_more_of_holds reads.holds
  exact nonempty (eq_nil_of_encodeChar_append (written ▸ longer))

/-- A byte is refused where no character has it after the bytes that were taken. One direction is
that a character with it would have been read; the other is that a byte which is taken goes on with
one. -/
theorem Reads.next?_eq_none_iff (reads : Reads part s) :
    next? s b.toNat = none ↔ ¬ Front (part ++ [b]) := by
  constructor
  · rintro refused ⟨c, more, written⟩
    have read : [c] = decodeFrom s (b :: more) := by
      rw [← reads.decodes, List.append_cons, written, decode_encodeChar_nil]
    cases reads.holds with
    | between =>
      -- the byte would be all of the replacement character
      obtain ⟨rfl, none⟩ := List.cons.inj (read.trans (decode_of_refused refused more))
      rw [decode_eq_nil_iff.mp none.symm] at written
      cases written
    | inside =>
      have none := (List.cons.inj (read.trans (decodeFrom_of_refused refused more))).2
      cases decode_eq_nil_iff.mp none.symm
  · intro misplaced
    match taken : next? s b.toNat with
    | none => rfl
    | some (none, s') => exact absurd (reads.next taken).front misplaced
    | some (some c, s') =>
      have written := (encodeChar_of_next? reads.holds taken).2
      exact absurd ⟨c, written ▸ List.prefix_rfl⟩ misplaced

/-! ## Cutting into parts -/

/-- Bytes that are taken are cut as the bytes after them are. The byte goes on with a part, or
completes a character, and then a new part begins. -/
theorem lossy_of_taken {taken : Option Char × State} (reads : Reads part s)
    (h : next? s b.toNat = some taken)
    (later : ∀ part s, Reads part s → Lossy (part ++ rest) (decodeFrom s rest)) :
    Lossy (part ++ b :: rest) (decodeFrom s (b :: rest)) := by
  obtain ⟨c, s'⟩ := taken
  rw [decodeFrom_of_taken h, List.append_cons]
  cases c with
  | none => exact later (part ++ [b]) s' (reads.next h)
  | some c =>
    obtain ⟨rfl, written⟩ := encodeChar_of_next? reads.holds h
    rw [← written]
    exact .char c (later [] .between .between)

/-- What a reader makes of the rest of the bytes is how they are cut, together with what it has
taken. By induction on the rest: a byte is taken, or refused inside of a character, or refused at
its beginning. -/
theorem lossy_decodeFrom (reads : Reads part s) (rest : List UInt8) :
    Lossy (part ++ rest) (decodeFrom s rest) := by
  induction rest generalizing part s with
  | nil =>
    cases reads.holds with
    | between => exact .nil
    | inside nonempty =>
      exact .broken nonempty reads.front reads.incomplete (by simp) .nil
  | cons b rest ih =>
    have fresh : Lossy (b :: rest) (decode (b :: rest)) := by
      cases taken : first? b.toNat with
      | none =>
        rw [decode_of_refused taken]
        exact .stray (Reads.between.next?_eq_none_iff.mp taken) (ih .between)
      | some result => exact lossy_of_taken .between taken fun part s reads => ih reads
    cases taken : next? s b.toNat with
    | some result => exact lossy_of_taken reads taken fun part s reads => ih reads
    | none =>
      cases reads.holds with
      | between => exact fresh
      | inside nonempty =>
        rw [decodeFrom_of_refused taken]
        refine .broken nonempty reads.front reads.incomplete ?_ fresh
        intro b' first
        obtain rfl := Option.some.inj first
        exact reads.next?_eq_none_iff.mp taken

/-- What begins a character is taken as far as it goes. By induction from the end of the part. -/
theorem exists_reads (front : Front part) (incomplete : ∀ c, part ≠ encodeChar c) :
    ∃ s, Reads part s := by
  induction part using List.reverseRecOn with
  | nil => exact ⟨.between, .between⟩
  | append_singleton part b ih =>
    obtain ⟨c, more, written⟩ := front
    have shorter : part ++ b :: more = encodeChar c := by
      rw [← written, List.append_assoc, List.singleton_append]
    have broken : ∀ c', part ≠ encodeChar c' := by
      rintro c' rfl
      cases eq_nil_of_encodeChar_append shorter
    obtain ⟨s, reads⟩ := ih ⟨c, b :: more, shorter⟩ broken
    match taken : next? s b.toNat with
    | none => exact absurd ⟨c, more, written⟩ (reads.next?_eq_none_iff.mp taken)
    | some (none, s') => exact ⟨s', reads.next taken⟩
    | some (some c', s') =>
      exact absurd (encodeChar_of_next? reads.holds taken).2.symm (incomplete c')

/-- Bytes are read as what they are cut into, and in no other way. So `Lossy`, which does not
mention states, says all about the reader. -/
theorem decode_eq_iff {bytes : List UInt8} {cs : List Char} :
    decode bytes = cs ↔ Lossy bytes cs := by
  constructor
  · rintro rfl
    exact lossy_decodeFrom .between bytes
  · intro lossy
    induction lossy with
    | nil => rfl
    | char c _ ih => rw [decode_encodeChar, ih]
    | stray misplaced _ ih =>
      have refused := Reads.between.next?_eq_none_iff.mpr misplaced
      rw [decode_of_refused refused, ih]
    | @broken part rest cs nonempty front incomplete longest _ ih =>
      obtain ⟨s, reads⟩ := exists_reads front incomplete
      rw [reads.decodes]
      cases reads.holds with
      | between => exact absurd rfl nonempty
      | inside =>
        cases rest with
        | nil => rw [← ih]; rfl
        | cons b rest =>
          have refused := reads.next?_eq_none_iff.mpr (longest b rfl)
          rw [decodeFrom_of_refused refused, ih]

/-! ## Line feeds -/

/-- A text with a line feed was read from bytes with one. The replacement character is none. -/
theorem newline_mem_of_decode {bytes : List UInt8} (h : '\n' ∈ decode bytes) : 10 ∈ bytes := by
  have other : '\n' ≠ replacement := by decide
  have lossy := decode_eq_iff.mp (Eq.refl (decode bytes))
  generalize decode bytes = cs at h lossy
  induction lossy with
  | nil => cases h
  | char c _ ih =>
    rcases List.mem_cons.mp h with here | later
    · exact List.mem_append_left _ (newline_mem_encodeChar.mpr here.symm)
    · exact List.mem_append_right _ (ih later)
  | broken _ _ _ _ _ ih => exact List.mem_append_right _ (ih (List.mem_of_ne_of_mem other h))
  | stray _ _ ih => exact List.mem_cons_of_mem _ (ih (List.mem_of_ne_of_mem other h))

/-- No character goes on with a line feed. -/
theorem not_front_newline (nonempty : part ≠ []) : ¬ Front (part ++ [10]) := by
  rintro ⟨c, more, written⟩
  have newline : c = '\n' := by
    rw [← newline_mem_encodeChar, ← written]
    simp
  subst newline
  have one : (part ++ [10] ++ more).length = 1 := congrArg List.length written
  have some := List.length_pos_iff.mpr nonempty
  simp only [List.length_append, List.length_singleton] at one
  omega

/-- What is before a line feed is cut as if nothing were behind it. By induction on how the line is
cut. -/
theorem Lossy.append_newline {line rest : List UInt8} {cs more : List Char} (first : Lossy line cs)
    (later : Lossy rest more) : Lossy (line ++ 10 :: rest) (cs ++ '\n' :: more) := by
  induction first with
  | nil => exact .char '\n' later
  | char c _ ih =>
    rw [List.append_assoc]
    exact .char c ih
  | stray misplaced _ ih => exact .stray misplaced ih
  | @broken part line cs nonempty front incomplete longest _ ih =>
    rw [List.append_assoc]
    refine .broken nonempty front incomplete ?_ ih
    intro b first
    cases line with
    | nil =>
      obtain rfl := Option.some.inj first
      exact not_front_newline nonempty
    | cons b' line => exact longest b first

/-- A text is read line by line. A part that is not complete at the end of a line is replaced there,
and the next line is read from its own beginning. -/
theorem decode_append_newline (line rest : List UInt8) :
    decode (line ++ 10 :: rest) = decode line ++ '\n' :: decode rest :=
  decode_eq_iff.mpr ((decode_eq_iff.mp rfl).append_newline (decode_eq_iff.mp rfl))

/-- A character that a line feed breaks off is one part; a solidus in two bytes and a surrogate are
no characters, so each of their bytes is a part. -/
example : decode [0xe2, 0x82, 0x0a, 0xc0, 0xaf, 0xed, 0xa0, 0x80] =
    ['\ufffd', '\n', '\ufffd', '\ufffd', '\ufffd', '\ufffd', '\ufffd'] := by decide

end TokenClassifier.Utf8
