import Mathlib.Data.List.Chain
import TokenClassifier.Proofs.Template

/-!
# Templates and their segments

A template is read in two ways, and both take every dollar sign alike: its expansion is made of the
texts that its segments have in the match, one after the other (`expand_eq_join_segments`).

Segments are also all that there is to a template but its spelling. Two templates can be spelled
differently and be read alike, since a dollar sign before a letter may be doubled or not. The rows
of segments that templates are read as are those in normal form, and a row in normal form is what
its own spelling is read as. So spelling the segments of a template anew changes nothing of what
the template stands for (`segments_ofSegments_inverse`).
-/

namespace TokenClassifier

/-- The text of a segment in a match. A group that the match does not have is left as the
reference to it. -/
def Segment.text (groups : List String) : Segment → String
  | .literal text => String.ofList text
  | .group index => if h : index < groups.length then groups[index] else "$" ++ toString index

/-- Whether a segment is a literal run. -/
def Segment.isLiteral : Segment → Bool
  | .literal _ => true
  | .group _ => false

/-- Whether two segments can stand side by side. Two literal runs would be one. -/
def Segment.Apart (a b : Segment) : Prop := a.isLiteral = false ∨ b.isLiteral = false

namespace Template

/-! ## The texts of segments -/

/-- A digit stands for a number below ten. -/
theorem digit_lt_ten {c : Char} (h : c.isDigit = true) : digit c < 10 := by
  obtain ⟨_, high⟩ := by simpa [Char.isDigit] using h
  have high' : c.toNat ≤ 57 := high
  unfold digit
  omega

/-- A character put in front of a row of segments brings no reference with it, and takes none
away. -/
theorem group_mem_pushChar_iff {c : Char} {segs : List Segment} {index : Nat} :
    .group index ∈ pushChar c segs ↔ .group index ∈ segs := by
  unfold pushChar
  split <;> simp

/-- There are ten groups that a template can refer to, since a reference is written with one
digit. -/
theorem lt_ten_of_mem_segmentsOf {cs : List Char} {index : Nat}
    (mem : .group index ∈ segmentsOf cs) : index < 10 := by
  fun_induction segmentsOf cs with
  | case1 => cases mem
  | case2 rest ih | case4 c rest _ _ ih | case5 c rest _ _ ih =>
    exact ih (group_mem_pushChar_iff.mp mem)
  | case3 c rest _ isDigit ih =>
    rcases List.mem_cons.mp mem with here | later
    · cases here
      exact digit_lt_ten isDigit
    · exact ih later

/-- A reference is written as a dollar sign and the number of the group. Numbers below ten have one
digit. -/
theorem writeSegment_group {index : Nat} (h : index < 10) :
    writeSegment (.group index) = ("$" ++ toString index).toList := by
  have all : ∀ index < 10, writeSegment (.group index) = ("$" ++ toString index).toList := by
    decide
  exact all index h

/-- The text of a segment has the characters that the segment expands to. -/
theorem toList_text {groups : List String} {seg : Segment}
    (digits : ∀ index, seg = .group index → index < 10) :
    (seg.text groups).toList = seg.expand (groups.map String.toList) := by
  cases seg with
  | literal text => exact String.toList_ofList
  | group index =>
    rw [Segment.text, Segment.expand, List.getElem?_map]
    split
    next present => rw [List.getElem?_eq_getElem present, Option.map_some, Option.getD_some]
    next absent =>
      rw [List.getElem?_eq_none (Nat.le_of_not_lt absent), Option.map_none, Option.getD_none,
        writeSegment_group (digits index rfl)]

/-- A template expands to the texts of its segments: a literal run stands for itself, a reference to
a group that the match has for the text of the group, and every other reference for itself. -/
theorem expand_eq_join_segments (template : String) (groups : List String) :
    expand template groups = String.join ((segments template).map (Segment.text groups)) := by
  refine String.toList_inj.mp ?_
  rw [toList_expand, String.toList_join, List.flatMap_map]
  refine List.flatMap_congr fun seg mem => (toList_text fun index e => ?_).symm
  exact lt_ten_of_mem_segmentsOf (e ▸ mem)

/-! ## Normal form -/

/-- A row of segments in normal form: no literal run is empty, no two of them stand side by side,
and every reference is to one of the groups `$0` to `$9`. -/
structure NormalForm (segs : List Segment) : Prop where
  nonempty : ∀ text, .literal text ∈ segs → text ≠ []
  apart : segs.IsChain Segment.Apart
  digits : ∀ index, .group index ∈ segs → index < 10

/-- The rest of a row in normal form is in normal form. -/
theorem NormalForm.tail {seg : Segment} {segs : List Segment} (h : NormalForm (seg :: segs)) :
    NormalForm segs where
  nonempty text mem := h.nonempty text (List.mem_cons_of_mem _ mem)
  apart := h.apart.tail
  digits index mem := h.digits index (List.mem_cons_of_mem _ mem)

/-- A character put in front keeps literal runs apart: it joins the first run, if there is one. -/
theorem isChain_pushChar (c : Char) {segs : List Segment} (h : segs.IsChain Segment.Apart) :
    (pushChar c segs).IsChain Segment.Apart := by
  unfold pushChar
  split
  next text rest =>
    -- the run that grows is a literal run as before
    rw [List.isChain_cons] at h ⊢
    exact h
  next other =>
    refine List.isChain_cons.mpr ⟨fun seg first => .inr ?_, h⟩
    cases seg with
    | literal text =>
      obtain ⟨rest, e⟩ := List.head?_eq_some_iff.mp first
      exact absurd e (other text rest)
    | group index => rfl

/-- In the segments of a template no two literal runs stand side by side. By induction along the
scanner. -/
theorem isChain_segmentsOf (cs : List Char) : (segmentsOf cs).IsChain Segment.Apart := by
  fun_induction segmentsOf cs with
  | case1 => exact List.isChain_nil
  | case2 rest ih | case4 c rest _ _ ih | case5 c rest _ _ ih => exact isChain_pushChar _ ih
  | case3 c rest _ isDigit ih =>
    exact List.isChain_cons.mpr ⟨fun _ _ => .inl rfl, ih⟩

/-- Whatever a template is, its segments are in normal form: no literal run is empty, no two of them
stand side by side, and references are to the ten groups. -/
theorem normalForm_segments (template : String) : NormalForm (segments template) where
  nonempty _ mem := ne_nil_of_mem_segmentsOf mem
  apart := isChain_segmentsOf _
  digits _ mem := lt_ten_of_mem_segmentsOf mem

/-! ## Reading what segments are written as -/

/-- The escaped characters of a text are read as the text, whatever is behind them. The text joins a
literal run that is already there. -/
theorem segmentsOf_escapeChars_append (text cs : List Char) :
    segmentsOf (escapeChars text ++ cs) = text.foldr pushChar (segmentsOf cs) := by
  induction text with
  | nil => rfl
  | cons c text ih =>
    rw [escapeChars, List.foldr_cons, ← ih]
    split
    next dollar =>
      rw [dollar]
      rfl
    next other =>
      exact segmentsOf.eq_4 _ _ (fun _ e _ => other e) (fun _ _ e _ => other e)

/-- A text is read as one literal run, unless the segments behind it begin with one. By induction
from the end of the text. -/
theorem foldr_pushChar {text : List Char} (nonempty : text ≠ []) {segs : List Segment}
    (after : ∀ run rest, segs ≠ .literal run :: rest) :
    text.foldr pushChar segs = .literal text :: segs := by
  induction text with
  | nil => exact absurd rfl nonempty
  | cons c text ih =>
    rw [List.foldr_cons]
    cases text with
    | nil =>
      rw [List.foldr_nil, pushChar]
      exact after
    | cons d text =>
      rw [ih (List.cons_ne_nil _ _)]
      rfl

/-- A reference is read as a reference, whatever is behind it. A digit behind it is not taken into
the number. -/
theorem segmentsOf_group_append {index : Nat} (h : index < 10) (cs : List Char) :
    segmentsOf (writeSegment (.group index) ++ cs) = .group index :: segmentsOf cs := by
  have all : ∀ index < 10, Char.ofNat (48 + index) ≠ '$' ∧
      (Char.ofNat (48 + index)).isDigit = true ∧ digit (Char.ofNat (48 + index)) = index := by
    decide
  obtain ⟨other, isDigit, value⟩ := all index h
  change segmentsOf ('$' :: Char.ofNat (48 + index) :: cs) = _
  rw [segmentsOf.eq_3 _ _ other, if_pos isDigit, value]

/-- The spelling of a row in normal form is read as this row. By induction on the segments: that
literal runs are apart is used in each of them. -/
theorem segmentsOf_flatMap_writeSegment {segs : List Segment} (h : NormalForm segs) :
    segmentsOf (segs.flatMap writeSegment) = segs := by
  induction segs with
  | nil => rfl
  | cons seg segs ih =>
    rw [List.flatMap_cons]
    cases seg with
    | literal text =>
      rw [writeSegment, segmentsOf_escapeChars_append, ih h.tail]
      refine foldr_pushChar (h.nonempty text List.mem_cons_self) fun run rest e => ?_
      have apart := (List.isChain_cons.mp h.apart).1 (.literal run) (by rw [e]; rfl)
      rcases apart with no | no <;> cases no
    | group index =>
      rw [segmentsOf_group_append (h.digits index List.mem_cons_self), ih h.tail]

/-- A row of segments is what its own spelling is read as exactly if it is in normal form. The one
direction is that every template has its segments in normal form. -/
theorem segments_ofSegments_iff {segs : List Segment} :
    segments (ofSegments segs) = segs ↔ NormalForm segs := by
  constructor
  · intro same
    rw [← same]
    exact normalForm_segments _
  · intro h
    rw [segments, ofSegments, String.toList_ofList, segmentsOf_flatMap_writeSegment h]

/-- Reading templates as segments and writing segments as templates undo each other on the rows in
normal form, which are all that templates are read as. So a template that is written anew has the
same shape and the same expansions, and an escaped text expands to itself. The template that is
written anew need not be the same text: a lone dollar comes back doubled. -/
theorem segments_ofSegments_inverse :
    (∀ template, NormalForm (segments template)) ∧
      (∀ segs, segments (ofSegments segs) = segs ↔ NormalForm segs) ∧
      (∀ template, shape (ofSegments (segments template)) = shape template ∧
        ∀ groups, expand (ofSegments (segments template)) groups = expand template groups) ∧
      ∀ text groups, expand (ofLiteral text) groups = text := by
  refine ⟨normalForm_segments, fun segs => segments_ofSegments_iff, fun template => ?_,
    expand_ofLiteral⟩
  have same : segments (ofSegments (segments template)) = segments template :=
    segments_ofSegments_iff.mpr (normalForm_segments template)
  constructor
  · rw [shape, same, shape]
  · intro groups
    refine String.toList_inj.mp ?_
    rw [toList_expand, same, toList_expand]

example : segments "$$$1" = [.literal ['$'], .group 1] := by decide

end Template

end TokenClassifier
