import Mathlib.Algebra.Group.Nat.Defs
import TokenClassifier.Text.Utf8

/-!
# Characters in UTF-8

A character is written with the highest bits of its number in a first byte and six bits in each of
the bytes that are owed after it (`tails`). The reader puts them together in the same order, and so
reads a character that was written as it was, whatever is behind it (`decode_encodeChar`).

A line feed is a byte of its own: no other character has it among its bytes
(`newline_mem_encodeChar`).
-/

namespace TokenClassifier.Utf8

/-! ## The bytes of a character -/

/-- The number of a character is below the surrogates, or above them and within the planes. -/
theorem toNat_valid (c : Char) :
    c.toNat < 0xd800 ∨ 0xdfff < c.toNat ∧ c.toNat < 0x110000 := c.valid

/-- A character that is made from such a number has this number. -/
theorem toNat_ofNat {n : Nat} (valid : n < 0xd800 ∨ 0xdfff < n ∧ n < 0x110000) :
    (Char.ofNat n).toNat = n := by
  have made : Char.ofNat n = Char.ofNatAux n valid := dif_pos valid
  rw [made]
  rfl

/-- The bytes of a character after the first one, as many as are owed. -/
def tails (n : Nat) : Nat → List UInt8
  | 0 => []
  | owed + 1 => UInt8.ofNat (0x80 + n / 64 ^ owed % 64) :: tails n owed

/-- The bytes of a character, with the last six bits and those before them told apart by `tails`.
Four lengths, and the highest bits of the number in the first byte of each. -/
theorem encodeChar_eq (c : Char) : encodeChar c =
    if c.toNat ≤ 0x7f then [UInt8.ofNat c.toNat]
    else if c.toNat ≤ 0x7ff then UInt8.ofNat (0xc0 + c.toNat / 64 ^ 1) :: tails c.toNat 1
    else if c.toNat ≤ 0xffff then UInt8.ofNat (0xe0 + c.toNat / 64 ^ 2) :: tails c.toNat 2
    else UInt8.ofNat (0xf0 + c.toNat / 64 ^ 3) :: tails c.toNat 3 := by
  simp [encodeChar, tails]

/-- Only the line feed has its byte among its bytes. So bytes can be cut into lines before they are
decoded. -/
theorem newline_mem_encodeChar {c : Char} : 10 ∈ encodeChar c ↔ c = '\n' := by
  have below : c.toNat < 0x110000 := by
    have valid := toNat_valid c
    omega
  rw [← Char.toNat_inj, show '\n'.toNat = 10 from rfl]
  unfold encodeChar
  generalize c.toNat = n at below ⊢
  dsimp only
  repeat' split
  all_goals
    simp only [List.mem_cons, List.not_mem_nil, or_false, ← UInt8.toNat_inj, UInt8.toNat_ofNat',
      UInt8.toNat_ofNat]
    omega

/-- A text has a line feed exactly if its bytes have one. -/
theorem newline_mem_ofString {s : String} : 10 ∈ ofString s ↔ '\n' ∈ s.toList := by
  simp [ofString, encode, newline_mem_encodeChar]

/-! ## Reading a character

The first byte of a longer character has the highest bits of the number, and it bounds the next byte
such that this one can stand there. -/

variable {s s' : State} {b : Nat} {c : Option Char}

/-- The first byte of a character of two bytes is taken, with its bits, and any tail may follow. -/
theorem first?_of_two {n : Nat} (least : 0x7f < n) (most : n ≤ 0x7ff) :
    first? (0xc0 + n / 64 ^ 1) = some (none, .inside (n / 64 ^ 1) 1 0x80 0xbf) := by
  unfold first?
  rw [if_neg (by omega), if_neg (by omega), if_pos (by omega), Nat.add_sub_cancel_left]

/-- The first byte of a character of three bytes is taken with its bits. The next byte of this
character is within the bounds that the first one sets, which leave out the surrogates and what two
bytes are enough for. -/
theorem first?_of_three {n : Nat} (least : 0x7ff < n) (most : n ≤ 0xffff)
    (valid : n < 0xd800 ∨ 0xdfff < n) : ∃ lo hi,
    first? (0xe0 + n / 64 ^ 2) = some (none, .inside (n / 64 ^ 2) 2 lo hi) ∧
      lo ≤ 0x80 + n / 64 ^ 1 % 64 ∧ 0x80 + n / 64 ^ 1 % 64 ≤ hi := by
  unfold first?
  rw [if_neg (by omega), if_neg (by omega), if_neg (by omega)]
  split
  next e =>
    have bits : n / 64 ^ 2 = 0 := by omega
    exact ⟨0xa0, 0xbf, by rw [bits], by omega, by omega⟩
  next =>
    split
    next e =>
      have bits : n / 64 ^ 2 = 0xd := by omega
      exact ⟨0x80, 0x9f, by rw [bits], by omega, by omega⟩
    next =>
      rw [if_pos (by omega), Nat.add_sub_cancel_left]
      exact ⟨0x80, 0xbf, rfl, by omega, by omega⟩

/-- The same for four bytes, where the bounds leave out what three bytes are enough for and what is
beyond the planes. -/
theorem first?_of_four {n : Nat} (least : 0xffff < n) (most : n < 0x110000) : ∃ lo hi,
    first? (0xf0 + n / 64 ^ 3) = some (none, .inside (n / 64 ^ 3) 3 lo hi) ∧
      lo ≤ 0x80 + n / 64 ^ 2 % 64 ∧ 0x80 + n / 64 ^ 2 % 64 ≤ hi := by
  unfold first?
  rw [if_neg (by omega), if_neg (by omega), if_neg (by omega), if_neg (by omega),
    if_neg (by omega), if_neg (by omega)]
  split
  next e =>
    have bits : n / 64 ^ 3 = 0 := by omega
    exact ⟨0x90, 0xbf, by rw [bits], by omega, by omega⟩
  next =>
    split
    next =>
      rw [Nat.add_sub_cancel_left]
      exact ⟨0x80, 0xbf, rfl, by omega, by omega⟩
    next =>
      have bits : n / 64 ^ 3 = 4 := by omega
      rw [if_pos (by omega), bits]
      exact ⟨0x80, 0x8f, rfl, by omega, by omega⟩

/-- Decoding takes one step for each byte and goes on from the state after it. -/
theorem decodeFrom_cons (s : State) (b : UInt8) (rest : List UInt8) :
    decodeFrom s (b :: rest) = (step s b.toNat).1 ++ decodeFrom (step s b.toNat).2 rest := by
  cases s <;> rfl

/-- A byte that is taken writes what it completes, if anything. -/
theorem decodeFrom_of_taken {b : UInt8} (h : next? s b.toNat = some (c, s')) (rest : List UInt8) :
    decodeFrom s (b :: rest) = c.toList ++ decodeFrom s' rest := by
  rw [decodeFrom_cons, step, h]

/-- The same for a byte given by its number. -/
theorem decodeFrom_ofNat (small : b < 256) (h : next? s b = some (c, s')) (rest : List UInt8) :
    decodeFrom s (UInt8.ofNat b :: rest) = c.toList ++ decodeFrom s' rest := by
  rw [← UInt8.toNat_ofNat_of_lt' small] at h
  exact decodeFrom_of_taken h rest

/-- The same at the beginning of a character. -/
theorem decode_ofNat (small : b < 256) (h : first? b = some (c, s)) (rest : List UInt8) :
    decode (UInt8.ofNat b :: rest) = c.toList ++ decodeFrom s rest :=
  decodeFrom_ofNat (s := .between) small h rest

/-- Six bits are put behind the bits above them. -/
theorem bits_of_tail (n owed : Nat) :
    64 * (n / 64 ^ (owed + 1)) + n / 64 ^ owed % 64 = n / 64 ^ owed := by
  rw [Nat.pow_succ, ← Nat.div_div_eq_div_mul]
  exact Nat.div_add_mod _ 64

/-- The bytes that are owed complete the number that they were written for. By induction on how many
are owed; the bounds matter for the first of them only. -/
theorem decodeFrom_tails {n owed lo hi : Nat} (least : lo ≤ 0x80 + n / 64 ^ owed % 64)
    (most : 0x80 + n / 64 ^ owed % 64 ≤ hi) (rest : List UInt8) :
    decodeFrom (.inside (n / 64 ^ (owed + 1)) (owed + 1) lo hi) (tails n (owed + 1) ++ rest) =
      Char.ofNat n :: decode rest := by
  have small (owed : Nat) : 0x80 + n / 64 ^ owed % 64 < 256 := by omega
  induction owed generalizing lo hi with
  | zero =>
    have last : next? (.inside (n / 64 ^ 1) 1 lo hi) (0x80 + n / 64 ^ 0 % 64) =
        some (some (Char.ofNat n), .between) := by
      rw [next?, if_pos ⟨least, most⟩, if_pos rfl, Nat.add_sub_cancel_left, bits_of_tail,
        Nat.pow_zero, Nat.div_one]
    exact decodeFrom_ofNat (small 0) last rest
  | succ owed ih =>
    have more : next? (.inside (n / 64 ^ (owed + 2)) (owed + 2) lo hi)
        (0x80 + n / 64 ^ (owed + 1) % 64) =
          some (none, .inside (n / 64 ^ (owed + 1)) (owed + 1) 0x80 0xbf) := by
      rw [next?, if_pos ⟨least, most⟩, if_neg (by omega), Nat.add_sub_cancel_left, bits_of_tail]
      rfl
    rw [tails, List.cons_append, decodeFrom_ofNat (small (owed + 1)) more]
    exact ih (by omega) (by omega)

/-- A character that was written is read as it was, whatever is behind it. -/
theorem decode_encodeChar (c : Char) (rest : List UInt8) :
    decode (encodeChar c ++ rest) = c :: decode rest := by
  have valid := toNat_valid c
  have same := Char.ofNat_toNat c
  rw [encodeChar_eq]
  generalize c.toNat = n at valid same ⊢
  subst same
  split
  next least =>
    have first : first? n = some (some (Char.ofNat n), .between) := by rw [first?, if_pos least]
    exact decode_ofNat (by omega) first rest
  next =>
    split
    next =>
      have first := @first?_of_two n (by omega) (by omega)
      rw [List.cons_append, decode_ofNat (by omega) first]
      exact decodeFrom_tails (by omega) (by omega) rest
    next =>
      split
      next =>
        obtain ⟨lo, hi, first, least, most⟩ := @first?_of_three n (by omega) (by omega) (by omega)
        rw [List.cons_append, decode_ofNat (by omega) first]
        exact decodeFrom_tails least most rest
      next =>
        obtain ⟨lo, hi, first, least, most⟩ := @first?_of_four n (by omega) (by omega)
        rw [List.cons_append, decode_ofNat (by omega) first]
        exact decodeFrom_tails least most rest

/-- Text that was written is read as it was. No replacement is made for bytes that come from
characters. -/
theorem decode_encode (cs : List Char) : decode (encode cs) = cs := by
  induction cs with
  | nil => rfl
  | cons c cs ih =>
    have bytes : encode (c :: cs) = encodeChar c ++ encode cs := List.flatMap_cons
    rw [bytes, decode_encodeChar, ih]

end TokenClassifier.Utf8
