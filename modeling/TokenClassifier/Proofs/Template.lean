import TokenClassifier.Template

/-!
# What templates expand to

The two readings of a template agree: its expansion is what its segments stand for, one after the
other (`expandChars_eq_flatMap`). Whether an expansion depends on the groups at all is therefore a
question about segments, and `shape` answers it.
-/

namespace TokenClassifier

/-- What a segment stands for. A group that is missing stays as it is written. -/
def Segment.expand (groups : List (List Char)) : Segment → List Char
  | .literal text => text
  | .group index => groups[index]?.getD (Template.writeSegment (.group index))

namespace Template

variable {groups : List (List Char)}

/-- The number that a digit stands for gives the digit back. -/
theorem ofNat_digit {c : Char} (h : c.isDigit = true) : Char.ofNat (48 + digit c) = c := by
  obtain ⟨low, _⟩ := by simpa [Char.isDigit] using h
  have low' : 48 ≤ c.toNat := low
  rw [digit, show 48 + (c.toNat - 48) = c.toNat by omega]
  exact Char.ofNat_toNat c

/-- A character put in front of a row of segments comes first in what the row expands to, whether it
begins a literal run or joins one. -/
theorem flatMap_pushChar (c : Char) (segs : List Segment) :
    (pushChar c segs).flatMap (Segment.expand groups) =
      c :: segs.flatMap (Segment.expand groups) := by
  unfold pushChar
  split <;> rfl

/-- A template expands to what its segments stand for. Expanding and cutting into segments are two
scanners, and this is by induction along the first. -/
theorem expandChars_eq_flatMap (groups : List (List Char)) (cs : List Char) :
    expandChars groups cs = (segmentsOf cs).flatMap (Segment.expand groups) := by
  fun_induction segmentsOf cs with
  | case1 => rfl
  | case2 rest ih => rw [expandChars, flatMap_pushChar, ih]
  | case3 c rest other digit ih =>
    rw [expandChars.eq_3 _ _ _ (fun e => other e), if_pos digit, List.flatMap_cons, Segment.expand,
      writeSegment, ofNat_digit digit]
    cases groups[Template.digit c]? with
    | none => simp [ih]
    | some text => simp [ih]
  | case4 c rest other digit ih =>
    rw [expandChars.eq_3 _ _ _ (fun e => other e), if_neg digit, flatMap_pushChar, ih]
  | case5 c rest one two ih =>
    rw [expandChars.eq_4 _ _ _ one two, flatMap_pushChar, ih]

/-- Without a dollar there is nothing to replace. -/
theorem expandChars_of_notMem {cs : List Char} (plain : '$' ∉ cs) :
    expandChars groups cs = cs := by
  induction cs with
  | nil => rfl
  | cons c cs ih =>
    have other : c ≠ '$' := fun e => plain (e ▸ List.mem_cons_self)
    rw [expandChars.eq_4 _ _ _ (fun _ e _ => other e) (fun _ _ e _ => other e),
      ih fun mem => plain (List.mem_cons_of_mem _ mem)]

/-- A template that is its own text is what its characters expand to. The short way that expanding
takes for such a template gives the same. -/
theorem toList_expand_eq_expandChars (template : String) (groups : List String) :
    (expand template groups).toList =
      expandChars (groups.map String.toList) template.toList := by
  unfold expand
  split
  next => rw [String.toList_ofList]
  next plain => rw [expandChars_of_notMem plain]

/-- So a template expands to what its segments stand for, in whichever way it is expanded. -/
theorem toList_expand (template : String) (groups : List String) :
    (expand template groups).toList =
      (segments template).flatMap (Segment.expand (groups.map String.toList)) := by
  rw [toList_expand_eq_expandChars, expandChars_eq_flatMap, segments]

/-- A character that has no part in a reference stays in an expansion, and comes into it from the
template or from a group. Line feeds are such characters. -/
theorem mem_expandChars_iff {c : Char} (dollar : c ≠ '$') (digit : c.isDigit = false)
    (none : ∀ group ∈ groups, c ∉ group) (cs : List Char) :
    c ∈ expandChars groups cs ↔ c ∈ cs := by
  fun_induction expandChars groups cs with
  | case1 => rfl
  | case2 rest ih => simp [ih, dollar]
  | case3 d rest _ isDigit text found ih =>
    have other : c ≠ d := by
      rintro rfl
      rw [digit] at isDigit
      cases isDigit
    simp [ih, dollar, other, none text (List.mem_of_getElem? found)]
  | case4 d rest _ _ _ ih => simp [ih]
  | case5 d rest _ _ ih => rw [List.mem_cons, ih, ← List.mem_cons]
  | case6 d rest _ _ ih => simp [ih]

/-! ## Literal templates -/

/-- A text in which dollars are doubled expands to the text itself, whatever the groups are. -/
theorem expandChars_escapeChars (text : List Char) :
    expandChars groups (escapeChars text) = text := by
  induction text with
  | nil => rfl
  | cons c text ih =>
    rw [escapeChars]
    split
    next dollar => rw [expandChars, ih, dollar]
    next other =>
      rw [expandChars.eq_4 _ _ _ (fun _ e _ => other e) (fun _ _ e _ => other e), ih]

/-- The template of a literal text expands to the text. There is a template for every token. -/
@[simp] theorem expand_ofLiteral (text : String) (groups : List String) :
    expand (ofLiteral text) groups = text := by
  refine String.toList_inj.mp ?_
  rw [toList_expand_eq_expandChars, ofLiteral, String.toList_ofList, expandChars_escapeChars]

/-! ## Shapes -/

/-- A row of segments is constant exactly if there is no reference in it. -/
theorem shapeOf_eq_constant_iff {segs : List Segment} :
    shapeOf segs = .constant ↔ ∀ index, .group index ∉ segs := by
  fun_induction shapeOf segs with
  | case1 => simp
  | case2 text rest ih => simp [ih]
  | case3 rest | case4 rest =>
    exact iff_of_false (by simp) fun h => h 0 List.mem_cons_self
  | case5 index rest =>
    exact iff_of_false (by simp) fun h => h index List.mem_cons_self

/-- A row of segments has no captures exactly if each of its references is to the whole token. -/
theorem shapeOf_ne_captures_iff {segs : List Segment} :
    shapeOf segs ≠ .captures ↔ ∀ index, .group index ∈ segs → index = 0 := by
  fun_induction shapeOf segs with
  | case1 => simp
  | case2 text rest ih => simpa using ih
  | case3 rest captures ih =>
    have later := mt ih.mpr (fun e => e captures)
    simpa using later
  | case4 rest whole ih =>
    have later := ih.mp whole
    simpa using later
  | case5 index rest other =>
    constructor
    · intro h
      exact absurd rfl h
    · intro h
      exact absurd (h index List.mem_cons_self) other

/-- Whether a template refers to a group. -/
def Refers (template : String) (index : Nat) : Prop := .group index ∈ segments template

instance (template : String) (index : Nat) : Decidable (Refers template index) :=
  inferInstanceAs (Decidable (.group index ∈ segments template))

/-- Whether a template refers to one of the groups `$1` to `$9`. -/
def RefersToCapture (template : String) : Prop := ∃ index, 0 < index ∧ Refers template index

/-- A template is constant exactly if it refers to nothing. -/
theorem shape_eq_constant_iff {template : String} :
    shape template = .constant ↔ ∀ index, ¬ Refers template index :=
  shapeOf_eq_constant_iff

/-- A template has captures exactly if it refers to one. References to the whole token beside it do
not matter. -/
theorem shape_eq_captures_iff {template : String} :
    shape template = .captures ↔ RefersToCapture template := by
  constructor
  · intro captures
    refine Classical.byContradiction fun none => ?_
    refine shapeOf_ne_captures_iff.mpr (fun index refers => ?_) captures
    exact Nat.eq_zero_of_not_pos fun pos => none ⟨index, pos, refers⟩
  · rintro ⟨index, pos, refers⟩
    refine Decidable.byContradiction fun other => ?_
    exact Nat.ne_of_gt pos (shapeOf_ne_captures_iff.mp other index refers)

/-- The third shape is that of the templates that refer to the whole token, and to nothing else. -/
theorem shape_eq_whole_iff {template : String} :
    shape template = .whole ↔ Refers template 0 ∧ ¬ RefersToCapture template := by
  constructor
  · intro whole
    have noCapture : ¬ RefersToCapture template := by
      rw [← shape_eq_captures_iff, whole]
      nofun
    refine ⟨Classical.byContradiction fun noWhole => ?_, noCapture⟩
    have constant : shape template = .constant := by
      refine shape_eq_constant_iff.mpr fun index refers => ?_
      cases index with
      | zero => exact noWhole refers
      | succ n => exact noCapture ⟨n + 1, Nat.succ_pos n, refers⟩
    rw [whole] at constant
    cases constant
  · rintro ⟨refers, noCapture⟩
    cases hs : shape template with
    | constant => exact absurd refers (shape_eq_constant_iff.mp hs 0)
    | whole => rfl
    | captures => exact absurd (shape_eq_captures_iff.mp hs) noCapture

/-- Whether a template refers to a capture can be computed, from its shape. -/
theorem hasCapture_iff {template : String} :
    hasCapture template = true ↔ RefersToCapture template := by
  rw [hasCapture, beq_iff_eq, shape_eq_captures_iff]

instance (template : String) : Decidable (RefersToCapture template) :=
  decidable_of_iff _ hasCapture_iff

/-- A constant template expands to the same token for all groups. This is why it can be registered
before any token is seen. -/
theorem expand_eq_of_constant {template : String} (h : shape template = .constant)
    (groups groups' : List String) : expand template groups = expand template groups' := by
  have literal := shapeOf_eq_constant_iff.mp h
  refine String.toList_inj.mp ?_
  rw [toList_expand, toList_expand, List.flatMap_def, List.flatMap_def]
  refine congrArg List.flatten (List.map_congr_left fun seg mem => ?_)
  cases seg with
  | literal text => rfl
  | group index => exact absurd mem (literal index)

/-- A row of segments with the whole token in place of every reference. -/
def fill (token : List Char) : List Segment → List Char
  | [] => []
  | .literal text :: rest => text ++ fill token rest
  | .group _ :: rest => token ++ fill token rest

/-- A row of segments whose references are all to the whole token expands to the row filled with
that token. -/
theorem flatMap_expand_eq_fill {token : List Char} (h : groups[0]? = some token)
    {segs : List Segment} (whole : ∀ index, .group index ∈ segs → index = 0) :
    segs.flatMap (Segment.expand groups) = fill token segs := by
  induction segs with
  | nil => rfl
  | cons seg segs ih =>
    have rest := ih fun index mem => whole index (List.mem_cons_of_mem _ mem)
    rw [List.flatMap_cons, rest]
    cases seg with
    | literal text => rfl
    | group index =>
      obtain rfl := whole index List.mem_cons_self
      rw [Segment.expand, h]
      rfl

/-- A template without captures expands to its segments, filled with the whole token. The other
groups have no part in it. -/
theorem toList_expand_of_whole {template : String} (h : shape template ≠ .captures)
    {groups : List String} {token : String} (hg : groups[0]? = some token) :
    (expand template groups).toList = fill token.toList (segments template) := by
  rw [toList_expand]
  refine flatMap_expand_eq_fill ?_ (shapeOf_ne_captures_iff.mp h)
  rw [List.getElem?_map, hg]
  rfl

/-! ## Rows of segments -/

/-- The number of references in a row of segments. -/
def references : List Segment → Nat
  | [] => 0
  | .literal _ :: rest => references rest
  | .group _ :: rest => references rest + 1

/-- There is a reference to count if there is one in the row. -/
theorem references_pos_iff {segs : List Segment} :
    0 < references segs ↔ ∃ index, .group index ∈ segs := by
  induction segs with
  | nil => simp [references]
  | cons seg segs ih =>
    cases seg with
    | literal text => simp [references, ih]
    | group index =>
      exact iff_of_true (Nat.succ_pos _) ⟨index, List.mem_cons_self⟩

/-- A row of segments with a text of its own for every reference, one after the other. -/
def weave : List Segment → List (List Char) → List Char
  | [], _ => []
  | .literal text :: rest, parts => text ++ weave rest parts
  | .group _ :: rest, part :: parts => part ++ weave rest parts
  | .group _ :: _, [] => []

/-- A character put in front of a row of segments makes no literal run empty. -/
theorem mem_pushChar {c : Char} {segs : List Segment} {text : List Char}
    (mem : .literal text ∈ pushChar c segs) : text ≠ [] ∨ .literal text ∈ segs := by
  unfold pushChar at mem
  split at mem
  next run rest =>
    rcases List.mem_cons.mp mem with heq | later
    · cases heq
      exact .inl (List.cons_ne_nil _ _)
    · exact .inr (List.mem_cons_of_mem _ later)
  next =>
    rcases List.mem_cons.mp mem with heq | later
    · cases heq
      exact .inl (List.cons_ne_nil _ _)
    · exact .inr later

/-- No literal run of a template is empty. So segments can be counted where parts of a pattern
are. -/
theorem ne_nil_of_mem_segmentsOf {cs text : List Char} (mem : .literal text ∈ segmentsOf cs) :
    text ≠ [] := by
  fun_induction segmentsOf cs with
  | case1 => cases mem
  | case2 rest ih | case4 c rest _ _ ih | case5 c rest _ _ ih =>
    rcases mem_pushChar mem with some | later
    · exact some
    · exact ih later
  | case3 c rest _ _ ih =>
    rcases List.mem_cons.mp mem with heq | later
    · cases heq
    · exact ih later

/-- A character put in front of a row of segments leaves a literal run there. -/
theorem pushChar_eq_literal (c : Char) (segs : List Segment) :
    ∃ text rest, pushChar c segs = .literal text :: rest := by
  unfold pushChar
  split <;> exact ⟨_, _, rfl⟩

/-- A row of segments is empty, begins with a literal run, or with a reference that is written
there. In the last case the rest of the row is that of the characters behind the reference. -/
theorem segmentsOf_cases (cs : List Char) :
    (cs = [] ∧ segmentsOf cs = []) ∨ (∃ text rest, segmentsOf cs = .literal text :: rest) ∨
      ∃ c after, cs = '$' :: c :: after ∧ c.isDigit = true ∧
        segmentsOf cs = .group (digit c) :: segmentsOf after := by
  fun_cases segmentsOf cs with
  | case1 => exact .inl ⟨rfl, rfl⟩
  | case2 rest => exact .inr (.inl (pushChar_eq_literal _ _))
  | case3 c rest other digit =>
    exact .inr (.inr ⟨c, rest, rfl, digit, rfl⟩)
  | case4 c rest other digit => exact .inr (.inl (pushChar_eq_literal _ _))
  | case5 c rest one two => exact .inr (.inl (pushChar_eq_literal _ _))

/-- The template that is nothing but the whole token is the only one with this row of segments. -/
theorem segments_eq_whole_iff {template : String} :
    segments template = [.group 0] ↔ template = "$0" := by
  constructor
  · intro h
    refine String.toList_inj.mp ?_
    change segmentsOf template.toList = _ at h
    obtain ⟨_, none⟩ | ⟨text, rest, run⟩ | ⟨c, after, written, digit, refers⟩ :=
      segmentsOf_cases template.toList
    · rw [none] at h
      cases h
    · rw [run] at h
      cases h
    · rw [refers] at h
      obtain ⟨zero, last⟩ := List.cons.inj h
      have here : c = '0' := by
        rw [← ofNat_digit digit, Segment.group.inj zero]
      have nothing : after = [] := by
        obtain ⟨nil, _⟩ | ⟨_, _, run⟩ | ⟨_, _, _, _, refers⟩ := segmentsOf_cases after
        · exact nil
        · rw [run] at last
          cases last
        · rw [refers] at last
          cases last
      rw [written, here, nothing]
      rfl
  · rintro rfl
    rfl

/-- It is the only template of one segment that refers to the whole token. Its splice has no
sequence around the copy, and this is where the depth of the others differs. -/
theorem length_segments_eq_one_iff {template : String} (refers : Refers template 0) :
    (segments template).length = 1 ↔ template = "$0" := by
  rw [← segments_eq_whole_iff]
  constructor
  · intro one
    obtain ⟨seg, hseg⟩ := List.length_eq_one_iff.mp one
    have here : .group 0 ∈ segments template := refers
    rw [hseg] at here ⊢
    rw [← List.mem_singleton.mp here]
  · intro h
    rw [h, List.length_singleton]

end Template

end TokenClassifier
