import TokenClassifier.Proofs.Except
import TokenClassifier.Rules

/-!
# What the check of a record ensures

A rule that has passed its check says what closes its forms in one of two ways: by an end pattern,
or by templates none of which refers to a capture (`SurroundRule.check_eq_ok_iff`). A record passes
if every rule does.
-/

namespace TokenClassifier

/-- A rule that says what closes its forms, by an end pattern or by templates that can be told
without the stream. -/
def SurroundRule.Declared (rule : SurroundRule) : Prop :=
  rule.endPattern? = none →
    rule.endings ≠ [] ∧ ∀ template ∈ rule.endings, Template.shape template ≠ .captures

/-- A rule passes its check, at whatever index, exactly if it says what closes its forms: by an end
pattern, or else by templates of which none refers to a capture. -/
theorem SurroundRule.check_eq_ok_iff {index : Nat} {rule : SurroundRule} :
    rule.check index = .ok () ↔ rule.Declared := by
  unfold check Declared
  cases hp : rule.endPattern? with
  | some pattern => simp
  | none =>
    cases he : rule.endings with
    | nil => simp
    | cons template rest =>
      rw [← he]
      have nonempty : rule.endings.isEmpty = false := by rw [he]; rfl
      simp only [Option.isSome_none, Bool.false_eq_true, if_false, nonempty]
      cases hf : rule.endings.findIdx? Template.hasCapture with
      | some j =>
        obtain ⟨lt, captures, _⟩ := List.findIdx?_eq_some_iff_getElem.mp hf
        refine iff_of_false (by simp) fun h => ?_
        exact (h trivial).2 _ (List.getElem_mem lt) (by simpa [Template.hasCapture] using captures)
      | none =>
        have none := List.findIdx?_eq_none_iff.mp hf
        refine iff_of_true rfl fun _ => ⟨by simp [he], fun t mem captures => ?_⟩
        simpa [Template.hasCapture, captures] using none t mem

/-- Rules pass their check one after the other exactly if each of them does. By induction on the
rules. -/
theorem SurroundRule.checkAll_eq_ok_iff {index : Nat} {rules : List SurroundRule} :
    checkAll index rules = .ok () ↔ ∀ rule ∈ rules, rule.Declared := by
  induction rules generalizing index with
  | nil => simp [checkAll]
  | cons rule rules ih =>
    rw [checkAll, bind_eq_ok_iff, List.forall_mem_cons]
    constructor
    · rintro ⟨_, hrule, hrest⟩
      exact ⟨check_eq_ok_iff.mp hrule, ih.mp hrest⟩
    · rintro ⟨hrule, hrest⟩
      exact ⟨(), check_eq_ok_iff.mpr hrule, ih.mpr hrest⟩

/-- A record passes its check exactly if every surround rule says what closes its forms. No pattern
is compiled for it. -/
theorem RuleSet.check_eq_ok_iff {rules : RuleSet} :
    rules.check = .ok () ↔ ∀ rule ∈ rules.surround, rule.Declared :=
  SurroundRule.checkAll_eq_ok_iff

end TokenClassifier
