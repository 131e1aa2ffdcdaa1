import Mathlib.Algebra.GroupWithZero.Nat
import Mathlib.Algebra.Order.BigOperators.Group.List
import Mathlib.Algebra.Order.Group.Nat
import TokenClassifier.Proofs.PatternTable
import TokenClassifier.Proofs.Segments

/-!
# What templates depend on

The shape of a template is read off its references before there is a match. It says exactly what of
a match the expansion depends on: nothing, the whole token, or a capture as well
(`shape_dependence`).

That a template depends on nothing that it does not refer to is plain from its segments. The other
half is that every reference shows in some expansion. Two expansions could agree by chance, where
one reference makes up for what another one changes. So matches are compared of which one has longer
groups than the other throughout: all that a reference can change then makes the expansion longer.
-/

namespace TokenClassifier

/-- The number of characters that a segment stands for in a match. -/
def Segment.width (groups : List String) (seg : Segment) : Nat :=
  (seg.expand (groups.map String.toList)).length

/-- A reference is as wide as its group, if there is such a group. -/
theorem Segment.width_group {groups : List String} {index : Nat} {text : String}
    (h : groups[index]? = some text) : (Segment.group index).width groups = text.length := by
  rw [width, expand, List.getElem?_map, h]
  exact String.length_toList

namespace Template

variable {template : String} {groups groups' : List String} {index : Nat}

/-! ## Longer groups -/

/-- An expansion is as long as its segments are wide, all together. -/
theorem length_expand (template : String) (groups : List String) :
    (expand template groups).length = ((segments template).map (Segment.width groups)).sum := by
  rw [← String.length_toList, toList_expand, List.length_flatMap]
  rfl

/-- Where no segment stands for less than in another match and one stands for more, the expansions
differ. Comparing lengths is enough for all that follows. -/
theorem expand_ne_of_width (le : ∀ seg ∈ segments template, seg.width groups ≤ seg.width groups')
    (lt : ∃ seg ∈ segments template, seg.width groups < seg.width groups') :
    expand template groups ≠ expand template groups' := by
  intro same
  have longer : (expand template groups).length < (expand template groups').length := by
    rw [length_expand, length_expand]
    exact List.sum_lt_sum _ _ le lt
  rw [same] at longer
  exact Nat.lt_irrefl _ longer

/-- A reference shows between a match without groups and one with empty groups: the first leaves it
as it is written, and the second removes it. -/
theorem expand_ne_of_refers (refers : Refers template index) :
    expand template (List.replicate 10 "") ≠ expand template [] := by
  have empty {index : Nat} (mem : .group index ∈ segments template) :
      (Segment.group index).width (List.replicate 10 "") = 0 := by
    have digit : index < 10 := lt_ten_of_mem_segmentsOf mem
    have read : (List.replicate 10 "")[index]? = some "" := by
      rw [List.getElem?_replicate, if_pos digit]
    exact Segment.width_group read
  refine expand_ne_of_width (fun seg mem => ?_) ⟨_, refers, ?_⟩
  · cases seg with
    | literal text => exact Nat.le_refl _
    | group index =>
      rw [empty mem]
      exact Nat.zero_le _
  · rw [empty refers]
    exact Nat.succ_pos 1

/-- A reference to a capture shows between two matches of a token of which one has empty captures
and the other one has not. The token itself is the same, so references to it do not show. -/
theorem expand_ne_of_refersToCapture (captures : RefersToCapture template) (token : String) :
    expand template (token :: List.replicate 9 "") ≠
      expand template (token :: List.replicate 9 "x") := by
  have whole (text : String) :
      (Segment.group 0).width (token :: List.replicate 9 text) = token.length :=
    Segment.width_group rfl
  have capture (text : String) {n : Nat} (mem : .group (n + 1) ∈ segments template) :
      (Segment.group (n + 1)).width (token :: List.replicate 9 text) = text.length := by
    have digit : n < 9 := Nat.lt_of_succ_lt_succ (lt_ten_of_mem_segmentsOf mem)
    refine Segment.width_group ?_
    rw [List.getElem?_cons_succ, List.getElem?_replicate, if_pos digit]
  obtain ⟨index, pos, refers⟩ := captures
  obtain ⟨n, rfl⟩ := Nat.exists_eq_succ_of_ne_zero (Nat.ne_of_gt pos)
  refine expand_ne_of_width (fun seg mem => ?_) ⟨_, refers, ?_⟩
  · match seg with
    | .literal text => exact Nat.le_refl _
    | .group 0 => rw [whole, whole]
    | .group (n + 1) =>
      rw [capture _ mem, capture _ mem]
      exact Nat.zero_le _
  · rw [capture _ refers, capture _ refers]
    exact Nat.one_pos

/-! ## Shapes -/

/-- A template without captures has the same expansion in all matches of a token. -/
theorem expand_eq_of_ne_captures (h : shape template ≠ .captures) {token : String}
    (first : groups[0]? = some token) (first' : groups'[0]? = some token) :
    expand template groups = expand template groups' := by
  refine String.toList_inj.mp ?_
  rw [toList_expand_of_whole h first, toList_expand_of_whole h first']

/-- The shape of a template is what its expansion depends on. It is constant exactly if the
expansion is the same for all groups, and it has no captures exactly if the expansion is the same
for all groups of the same token. So a template refers to a capture exactly if two patterns match
the same token, as a whole, with captures for which the expansions differ. The patterns are the same
for every template: both have nine groups, which are empty in the one match and not in the other. -/
theorem shape_dependence (template : String) :
    (shape template = .constant ↔
        ∀ groups groups', expand template groups = expand template groups') ∧
      (shape template ≠ .captures ↔ ∀ token groups groups',
        expand template (token :: groups) = expand template (token :: groups')) ∧
      (hasCapture template = true ↔ ∃ pattern pattern' token groups groups',
        tokenGroups? pattern token = some (token :: groups) ∧
        tokenGroups? pattern' token = some (token :: groups') ∧
        expand template (token :: groups) ≠ expand template (token :: groups')) := by
  refine ⟨⟨expand_eq_of_constant, fun same => ?_⟩, ⟨fun h _ _ _ => ?_, fun same => ?_⟩, ?_, ?_⟩
  · exact shape_eq_constant_iff.mpr fun index refers => expand_ne_of_refers refers (same _ _)
  · exact expand_eq_of_ne_captures h rfl rfl
  · intro captures
    exact expand_ne_of_refersToCapture (shape_eq_captures_iff.mp captures) "" (same _ _ _)
  · intro captures
    refine ⟨"x()()()()()()()()()", "(((((((((x)))))))))", "x", List.replicate 9 "",
      List.replicate 9 "x", by decide +kernel, by decide +kernel, ?_⟩
    exact expand_ne_of_refersToCapture (hasCapture_iff.mp captures) "x"
  · rintro ⟨_, _, token, groups, groups', _, _, differ⟩
    rw [hasCapture_iff, ← shape_eq_captures_iff]
    by_contra h
    exact differ (expand_eq_of_ne_captures h rfl rfl)

end Template

end TokenClassifier
