import Mathlib.Data.List.Perm.Basic
import TokenClassifier.Proofs.Endings

/-!
# Endings after a row of insertions

Endings begin as the templates of a list, and templates and tokens are added one by one. Whatever
was done, and in whatever order, they list what was inserted, each template once and in the order of
the first insertion (`endings_inFirstOrder`).

Members are dropped as repeats twice: once as templates, when they are inserted, and once more as
end tokens, since different templates can expand to the same token. The order is that of the first
place both times (`InFirstOrder`), and it leaves no choice (`inFirstOrder_iff`).
-/

namespace TokenClassifier

/-! ## The order of first places -/

/-- A list has the members of another one, each once, in the order of their first places in it. -/
structure InFirstOrder {α : Type} [DecidableEq α] (xs ys : List α) : Prop where
  nodup : ys.Nodup
  mem_iff : ∀ a, a ∈ ys ↔ a ∈ xs
  ordered : ys.Pairwise fun a b => xs.idxOf a < xs.idxOf b

section InFirstOrder

variable {α : Type} [DecidableEq α] {xs ys : List α}

/-- A list without later repeats has its members in the order of their first places. By induction
from the end of the list. -/
theorem inFirstOrder_eraseDups (xs : List α) : InFirstOrder xs xs.eraseDups := by
  have ordered : xs.eraseDups.Pairwise fun a b => xs.idxOf a < xs.idxOf b := by
    induction xs using List.reverseRecOn with
    | nil => exact .nil
    | append_singleton xs a ih =>
      -- a new last member has its first place behind all others
      have kept : xs.eraseDups.Pairwise fun b c => (xs ++ [a]).idxOf b < (xs ++ [a]).idxOf c := by
        refine ih.imp_of_mem fun hb hc lt => ?_
        rwa [List.idxOf_append_of_mem (List.mem_eraseDups.mp hb),
          List.idxOf_append_of_mem (List.mem_eraseDups.mp hc)]
      rw [eraseDups_concat]
      split
      next => exact kept
      next new =>
        refine List.pairwise_append.mpr ⟨kept, List.pairwise_singleton _ _, fun b hb c hc => ?_⟩
        obtain rfl := List.mem_singleton.mp hc
        have mem := List.mem_eraseDups.mp hb
        rw [List.idxOf_append_of_mem mem, List.idxOf_append_of_notMem new]
        exact Nat.lt_add_right _ (List.idxOf_lt_length_iff.mpr mem)
  refine ⟨ordered.imp ?_, fun a => List.mem_eraseDups, ordered⟩
  intro a b lt same
  exact Nat.ne_of_lt lt (congrArg xs.idxOf same)

/-- Members and order determine the list: it is the other one without later repeats. So nothing is
lost by describing the order instead of the list. -/
theorem inFirstOrder_iff : InFirstOrder xs ys ↔ ys = xs.eraseDups := by
  constructor
  · intro h
    have known := inFirstOrder_eraseDups xs
    have same : ys.Perm xs.eraseDups :=
      (List.perm_ext_iff_of_nodup h.nodup known.nodup).mpr fun a => by
        rw [h.mem_iff, known.mem_iff]
    exact same.eq_of_pairwise (fun _ _ _ _ lt gt => absurd gt (Nat.lt_asymm lt)) h.ordered
      known.ordered
  · rintro rfl
    exact inFirstOrder_eraseDups xs

end InFirstOrder

/-- A set is the set of its members. Collecting them in order gives the same set again. -/
theorem OrderedSet.ofList_toList {α : Type} [DecidableEq α] (s : OrderedSet α) :
    ofList s.toList = s := by
  have same : InFirstOrder s.toList s.toList :=
    ⟨s.nodup, fun _ => Iff.rfl, List.pairwise_iff_getElem.mpr fun i j hi hj lt => by
      rwa [s.nodup.idxOf_getElem, s.nodup.idxOf_getElem]⟩
  exact ext_toList ((toList_ofList _).trans (inFirstOrder_iff.mp same).symm)

/-! ## Histories -/

namespace Endings

/-- What is done with endings. -/
inductive Change where
  /-- Begins anew with the templates of a list. -/
  | collect (templates : List String)
  /-- Adds a template. -/
  | insert (template : String)
  /-- Adds a token that is to stand for itself. -/
  | insertLiteral (token : String)

/-- The endings after a change. -/
def Change.apply (endings : Endings) : Change → Endings
  | .collect templates => .ofList templates
  | .insert template => (endings.add template).2
  | .insertLiteral token => (endings.addLiteral token).2

/-- The endings after a row of changes. -/
def after (changes : List Change) : Endings := changes.foldl Change.apply .empty

/-- A token with every dollar sign doubled. -/
def doubled (token : String) : String :=
  String.ofList (token.toList.flatMap fun c => if c = '$' then ['$', '$'] else [c])

/-- The templates inserted so far and those that a change inserts. -/
def Change.inserts (templates : List String) : Change → List String
  | .collect others => others
  | .insert template => templates ++ [template]
  | .insertLiteral token => templates ++ [doubled token]

/-- The templates that a row of changes inserts, repeats included, since the last new beginning. -/
def inserted (changes : List Change) : List String := changes.foldl Change.inserts []

/-- The template that stands for a token is the token with its dollars doubled. -/
theorem ofLiteral_eq_doubled (token : String) : Template.ofLiteral token = doubled token := by
  have chars : ∀ cs : List Char,
      Template.escapeChars cs = cs.flatMap fun c => if c = '$' then ['$', '$'] else [c] := by
    intro cs
    induction cs with
    | nil => rfl
    | cons c cs ih =>
      rw [Template.escapeChars, List.flatMap_cons, ih]
      split <;> rfl
  exact congrArg String.ofList (chars token.toList)

/-- One change keeps the endings in step with what was inserted: a new beginning forgets what came
before, and any other change adds one template. -/
theorem apply_ofList (templates : List String) (change : Change) :
    change.apply (.ofList templates) = .ofList (change.inserts templates) := by
  cases change with
  | collect others => rfl
  | insert template => exact (OrderedSet.ofList_concat templates template).symm
  | insertLiteral token =>
    rw [Change.apply, Change.inserts, ← ofLiteral_eq_doubled]
    exact insertLiteral_ofList templates token

/-- The endings after a row of changes are the set of all that was inserted. By induction on the
row, with `apply_ofList` for the step. -/
theorem after_eq_ofList (changes : List Change) : after changes = .ofList (inserted changes) := by
  have run : ∀ templates, changes.foldl Change.apply (.ofList templates) =
      .ofList (changes.foldl Change.inserts templates) := by
    induction changes with
    | nil => exact fun _ => rfl
    | cons change changes ih =>
      intro templates
      rw [List.foldl_cons, List.foldl_cons, apply_ofList, ih]
  exact run []

/-- End tokens are listed in the order of the first templates that expand to them. Templates are
different, but what they expand to need not be. -/
theorem inFirstOrder_tokens (endings : Endings) (groups : List String) :
    InFirstOrder (endings.toList.map fun template => Template.expand template groups)
      (endings.tokens groups) := by
  rw [inFirstOrder_iff, tokens, OrderedSet.toList_ofList]

/-- After any row of changes the endings list the templates that were inserted, each once and in the
order of the first insertion. The test tells just these, and a template or a token is told to be new
exactly if it was not inserted before. Collecting the list gives the same endings again. The end
tokens for the groups of a match are what the templates expand to, each once and in the order of the
first template for it. -/
theorem endings_inFirstOrder (changes : List Change) :
    InFirstOrder (inserted changes) (after changes).toList ∧
    (∀ template, (after changes).seen template = true ↔ template ∈ (after changes).toList) ∧
    (∀ template, ((after changes).add template).1 = true ↔ template ∉ inserted changes) ∧
    (∀ token, ((after changes).addLiteral token).1 = true ↔ doubled token ∉ inserted changes) ∧
    OrderedSet.ofList (after changes).toList = after changes ∧
    ∀ rule groups,
      InFirstOrder ((after changes).toList.map fun template => Template.expand template groups)
        (StartInfo.endTokens ⟨rule, after changes⟩ groups) := by
  have listed : InFirstOrder (inserted changes) (after changes).toList := by
    rw [inFirstOrder_iff, after_eq_ofList, OrderedSet.toList_ofList]
  have new : ∀ template,
      ((after changes).add template).1 = true ↔ template ∉ inserted changes := by
    intro template
    rw [OrderedSet.fst_add, listed.mem_iff]
  refine ⟨listed, (after changes).seen_iff, new, fun token => ?_, OrderedSet.ofList_toList _,
    fun rule groups => inFirstOrder_tokens (after changes) groups⟩
  rw [addLiteral, new, ofLiteral_eq_doubled]

/-- Two templates and a token that stand for the same end token, which is listed once, where the
first of them stands. -/
example : StartInfo.endTokens ⟨0, after [.collect ["b", "end$0"], .insert "endif",
    .insertLiteral "$", .insert "end$0", .insert "$$"]⟩ ["if"] = ["b", "endif", "$"] := by
  decide +kernel

end Endings

end TokenClassifier
