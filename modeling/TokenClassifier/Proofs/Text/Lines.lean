import TokenClassifier.Proofs.Text.Lossy
import TokenClassifier.Text.Lines

/-!
# Cutting into lines

Cutting at a separator and joining with it undo each other, as long as no piece has a separator of
its own (`splitAt_eq_iff`), and so do cutting at line feeds and ending each piece with a line feed
(`splitAt_eq_concat_nil_iff`). The lines of a text are those of its bytes, each decoded
(`splitAt_decode`): both are cut at the first line feed, and what is behind it is read as if nothing
were before it.
-/

namespace TokenClassifier.Text

variable {α : Type} {p : α → Bool}

/-- Cutting is what the library calls splitting. Facts about the library's function carry over. -/
theorem splitAt_eq_splitOnP (p : α → Bool) (xs : List α) : splitAt p xs = xs.splitOnP p := by
  induction xs with
  | nil => rfl
  | cons a xs ih =>
    rw [splitAt, ih, List.splitOnP_cons_eq_if_modifyHead]
    split
    next => rfl
    next =>
      cases hs : xs.splitOnP p with
      | nil => exact absurd hs (List.splitOnP_ne_nil p xs)
      | cons piece pieces => rfl

/-- A piece has nothing in it at which it would be cut. -/
theorem not_of_mem_splitAt {xs piece : List α} (mem : piece ∈ splitAt p xs) {a : α}
    (ha : a ∈ piece) : p a = false := by
  induction xs generalizing piece with
  | nil =>
    obtain rfl := List.mem_singleton.mp mem
    cases ha
  | cons b xs ih =>
    rw [splitAt] at mem
    split at mem
    next =>
      rcases List.mem_cons.mp mem with rfl | later
      · cases ha
      · exact ih later ha
    next other =>
      split at mem
      next none =>
        rw [splitAt_eq_splitOnP] at none
        exact absurd none (List.splitOnP_ne_nil p xs)
      next first pieces cut =>
        rw [cut] at ih
        rcases List.mem_cons.mp mem with rfl | later
        · rcases List.mem_cons.mp ha with rfl | ha
          · exact Bool.eq_false_iff.mpr other
          · exact ih List.mem_cons_self ha
        · exact ih (List.mem_cons_of_mem _ later) ha

/-! ## Piece by piece -/

section Pieces

variable [DecidableEq α] {sep : α} {piece : List α}

/-- A list without a separator is one piece. -/
theorem splitAt_of_notMem (whole : sep ∉ piece) : splitAt (· == sep) piece = [piece] := by
  rw [splitAt_eq_splitOnP]
  apply List.splitOnP_eq_singleton
  intro a mem
  exact beq_eq_false_iff_ne.mpr fun e => whole (e ▸ mem)

/-- Cutting at a separator in the middle cuts what is before it and what is behind it. -/
theorem splitAt_append_cons (xs ys : List α) :
    splitAt (· == sep) (xs ++ sep :: ys) = splitAt (· == sep) xs ++ splitAt (· == sep) ys := by
  simp only [splitAt_eq_splitOnP]
  exact List.splitOnP_append_cons xs ys (beq_iff_eq.mpr rfl)

/-- A first piece without a separator is cut off as it is. -/
theorem splitAt_cons_of_notMem (whole : sep ∉ piece) (rest : List α) :
    splitAt (· == sep) (piece ++ sep :: rest) = piece :: splitAt (· == sep) rest := by
  rw [splitAt_append_cons, splitAt_of_notMem whole, List.singleton_append]

/-- There is no separator, or there is a first one with a piece before it. An induction over a text
goes along its pieces by this. -/
@[elab_as_elim]
theorem pieces_induction {motive : List α → Prop} (sep : α)
    (last : ∀ piece, sep ∉ piece → motive piece)
    (more : ∀ piece rest, sep ∉ piece → motive rest → motive (piece ++ sep :: rest))
    (xs : List α) : motive xs := by
  by_cases mem : sep ∈ xs
  · obtain ⟨piece, rest, e, whole⟩ := List.eq_append_cons_of_mem mem
    have shorter : rest.length < xs.length := by
      rw [e, List.length_append, List.length_cons]
      omega
    rw [e]
    exact more piece rest whole (pieces_induction sep last more rest)
  · exact last xs mem
termination_by xs.length

end Pieces

/-! ## Joining -/

/-- Joining puts a separator before each member but the first. -/
theorem intercalate_cons_eq_append_flatMap (sep : α) (first : List α) (rest : List (List α)) :
    [sep].intercalate (first :: rest) = first ++ rest.flatMap (sep :: ·) := by
  induction rest generalizing first with
  | nil => rw [List.intercalate_singleton, List.flatMap_nil, List.append_nil]
  | cons piece rest ih =>
    rw [List.intercalate_cons_cons, ih, List.flatMap_cons, List.append_assoc,
      List.singleton_append, List.cons_append]

/-- Pieces are what a list is cut into exactly if the list is what they are joined to and no piece
has a separator of its own. So pieces can be found again only if they have none. -/
theorem splitAt_eq_iff [DecidableEq α] {sep : α} {xs : List α} {pieces : List (List α)}
    (nonempty : pieces ≠ []) :
    splitAt (· == sep) xs = pieces ↔
      [sep].intercalate pieces = xs ∧ ∀ piece ∈ pieces, sep ∉ piece := by
  constructor
  · rintro rfl
    refine ⟨?_, fun piece mem inside => ?_⟩
    · rw [splitAt_eq_splitOnP]
      exact List.intercalate_splitOn sep
    · exact absurd (not_of_mem_splitAt mem inside) (by simp)
  · rintro ⟨rfl, whole⟩
    rw [splitAt_eq_splitOnP]
    exact List.splitOn_intercalate sep whole nonempty

/-- Joining rows with nothing behind the last separator puts a separator behind each row. -/
theorem intercalate_concat_nil (sep : α) (rows : List (List α)) :
    [sep].intercalate (rows ++ [[]]) = rows.flatMap (· ++ [sep]) := by
  induction rows with
  | nil => exact List.intercalate_singleton
  | cons row rows ih =>
    have more : rows ++ [[]] ≠ [] := by simp
    rw [List.cons_append, List.intercalate_cons_of_ne_nil more, ih, List.flatMap_cons]

/-- Rows are what a list is cut into, with nothing behind the last separator, exactly if the list is
made of the rows, each with a separator behind it, and no row has a separator of its own. -/
theorem splitAt_eq_concat_nil_iff [DecidableEq α] {sep : α} {xs : List α} {rows : List (List α)} :
    splitAt (· == sep) xs = rows ++ [[]] ↔
      rows.flatMap (· ++ [sep]) = xs ∧ ∀ row ∈ rows, sep ∉ row := by
  have nonempty : rows ++ [[]] ≠ [] := by simp
  have whole : (∀ piece ∈ rows ++ [[]], sep ∉ piece) ↔ ∀ row ∈ rows, sep ∉ row := by
    simp only [List.forall_mem_append, List.forall_mem_singleton, List.not_mem_nil,
      not_false_eq_true, and_true]
  rw [splitAt_eq_iff nonempty, intercalate_concat_nil, whole]

/-! ## Lines of bytes -/

/-- The lines of a text are the lines of its bytes, each decoded by itself. By induction along the
lines, since a text is read line by line. -/
theorem splitAt_decode (bytes : List UInt8) :
    splitAt (· == '\n') (Utf8.decode bytes) = (splitAt (· == 10) bytes).map Utf8.decode := by
  have plain {line : List UInt8} (whole : 10 ∉ line) : '\n' ∉ Utf8.decode line :=
    fun mem => whole (Utf8.newline_mem_of_decode mem)
  refine pieces_induction 10 ?last ?more bytes
  case last =>
    intro line whole
    rw [splitAt_of_notMem whole, splitAt_of_notMem (plain whole), List.map_singleton]
  case more =>
    intro line rest whole ih
    rw [splitAt_cons_of_notMem whole, Utf8.decode_append_newline,
      splitAt_cons_of_notMem (plain whole), ih, List.map_cons]

end TokenClassifier.Text
