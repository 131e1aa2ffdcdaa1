import Mathlib.Data.List.Induction
import TokenClassifier.Endings
import TokenClassifier.Proofs.Lists
import TokenClassifier.Proofs.Template

/-!
# What the endings of a form list

The set of a list is the list without later repeats (`OrderedSet.toList_ofList`), and mapping such
a set needs no care: repeats that mapping makes go with the ones that were there before
(`OrderedSet.ofList_map_toList`). So the end tokens of a form are its templates, expanded, without
later repeats (`Endings.tokens_ofList`).
-/

namespace TokenClassifier

namespace OrderedSet

variable {α β : Type} [DecidableEq α] [DecidableEq β]

/-- The set of a list has the members of the list. -/
theorem mem_toList_ofList {xs : List α} {a : α} : a ∈ (ofList xs).toList ↔ a ∈ xs := by
  induction xs using List.reverseRecOn with
  | nil => exact Iff.rfl
  | append_singleton xs b ih =>
    rw [ofList_concat, mem_toList_insert, ih, List.mem_append, List.mem_singleton]

/-- The members of a list in order of their first occurrence are the list without later repeats. -/
theorem toList_ofList (xs : List α) : (ofList xs).toList = xs.eraseDups := by
  induction xs using List.reverseRecOn with
  | nil => rfl
  | append_singleton xs b ih =>
    rw [ofList_concat, toList_insert, eraseDups_concat, ← ih]
    by_cases known : b ∈ xs
    · rw [if_pos (mem_toList_ofList.mpr known), if_pos known]
    · rw [if_neg (mt mem_toList_ofList.mp known), if_neg known]

/-- Adding a known member changes nothing, not even the order. -/
theorem insert_of_mem {s : OrderedSet α} {a : α} (h : a ∈ s.toList) : s.insert a = s :=
  ext_toList (by rw [toList_insert, if_pos h])

/-- Repeats can be removed before mapping or after it. Of the members that are mapped to one, the
first stands for all in either case. -/
theorem ofList_map_toList (f : α → β) (xs : List α) :
    ofList ((ofList xs).toList.map f) = ofList (xs.map f) := by
  induction xs using List.reverseRecOn with
  | nil => rfl
  | append_singleton xs b ih =>
    rw [List.map_append, List.map_singleton, ofList_concat, ofList_concat, ← ih, toList_insert]
    by_cases known : b ∈ (ofList xs).toList
    · rw [if_pos known, insert_of_mem (mem_toList_ofList.mpr (List.mem_map_of_mem known))]
    · rw [if_neg known, List.map_append, List.map_singleton, ofList_concat]

/-- What is added to a set can be added without its later repeats. By induction from the end of the
list, where the last member is either known or new. -/
theorem ofList_append_map_eraseDups (front : List β) (f : α → β) (xs : List α) :
    ofList (front ++ xs.eraseDups.map f) = ofList (front ++ xs.map f) := by
  induction xs using List.reverseRecOn with
  | nil => rfl
  | append_singleton xs a ih =>
    rw [eraseDups_concat, List.map_append, List.map_singleton, ← List.append_assoc, ofList_concat,
      ← ih]
    split
    next known =>
      have mem : f a ∈ front ++ xs.eraseDups.map f :=
        List.mem_append_right _ (List.mem_map_of_mem (List.mem_eraseDups.mpr known))
      rw [insert_of_mem (mem_toList_ofList.mpr mem)]
    next =>
      rw [List.map_append, List.map_singleton, ← List.append_assoc, ofList_concat]

end OrderedSet

namespace Endings

/-- An end token is the expansion of one of the templates. -/
theorem mem_tokens_iff {endings : Endings} {groups : List String} {e : String} :
    e ∈ endings.tokens groups ↔
      ∃ template ∈ endings.toList, Template.expand template groups = e := by
  rw [tokens, OrderedSet.mem_toList_ofList, List.mem_map]

/-- No end token is listed twice, even if two templates expand to the same. -/
theorem nodup_tokens (endings : Endings) (groups : List String) : (endings.tokens groups).Nodup :=
  OrderedSet.nodup _

/-- The end tokens are the expanded templates without later repeats. Sets of templates are not
looked at any more after this. -/
theorem tokens_ofList (templates groups : List String) :
    tokens (.ofList templates) groups =
      (templates.map fun template => Template.expand template groups).eraseDups := by
  rw [tokens, OrderedSet.ofList_map_toList, OrderedSet.toList_ofList]

/-- More templates add end tokens after those that were listed before, so what a start lists only
grows. -/
theorem tokens_ofList_prefix (templates more groups : List String) :
    tokens (.ofList templates) groups <+: tokens (.ofList (templates ++ more)) groups := by
  rw [tokens_ofList, tokens_ofList, List.map_append, List.eraseDups_append]
  exact List.prefix_append _ _

/-- Adding a token as it is adds its template at the end, unless it is there. -/
theorem insertLiteral_ofList (templates : List String) (token : String) :
    insertLiteral (.ofList templates) token =
      .ofList (templates ++ [Template.ofLiteral token]) := by
  rw [insertLiteral, addLiteral, OrderedSet.ofList_concat, OrderedSet.insert]

/-- Tokens that were added as they are are listed as they are, whatever the groups. -/
theorem tokens_ofList_literals (found groups : List String) :
    tokens (.ofList (found.map Template.ofLiteral)) groups = found.eraseDups := by
  rw [tokens_ofList, List.map_map]
  refine congrArg List.eraseDups ?_
  calc found.map ((fun template => Template.expand template groups) ∘ Template.ofLiteral)
      = found.map id := List.map_congr_left fun token _ => Template.expand_ofLiteral token groups
    _ = found := List.map_id found

end Endings

end TokenClassifier
