import Mathlib.Data.List.Induction

/-!
# First hits in lists

A search through a list that was made from another list is a search through that other list. Where
it is asked for the place as well, `FirstAt` says at which place something is found. The last
section is about lists of which only the first of equal members is kept.
-/

namespace TokenClassifier

variable {α β γ : Type}

/-- Searching what a filter has left is searching the list for what passes it and hits. -/
theorem findSome?_filterMap (f : α → Option β) (g : β → Option γ) (xs : List α) :
    (xs.filterMap f).findSome? g = xs.findSome? fun a => (f a).bind g := by
  rw [← List.head?_filterMap, List.filterMap_filterMap, List.head?_filterMap]

/-- Searching lists put together is searching for the first list with a hit. -/
theorem findSome?_flatMap (f : α → List β) (g : β → Option γ) (xs : List α) :
    (xs.flatMap f).findSome? g = xs.findSome? fun a => (f a).findSome? g := by
  induction xs with
  | nil => rfl
  | cons a xs ih =>
    rw [List.flatMap_cons, List.findSome?_append, ih, List.findSome?_cons]
    cases (f a).findSome? g <;> rfl

/-- A search takes the hit of the first member or, if it has none, searches the rest. -/
theorem findSome?_cons_or (f : α → Option β) (a : α) (xs : List α) :
    (a :: xs).findSome? f = (f a).or (xs.findSome? f) := by
  rw [List.findSome?_cons]
  cases f a <;> rfl

/-- Searches that do the same with each member of a list find the same. -/
theorem findSome?_congr {f g : α → Option β} {xs : List α} (h : ∀ a ∈ xs, f a = g a) :
    xs.findSome? f = xs.findSome? g := by
  induction xs with
  | nil => rfl
  | cons a xs ih =>
    rw [List.findSome?_cons, List.findSome?_cons, h a List.mem_cons_self,
      ih fun b mem => h b (List.mem_cons_of_mem _ mem)]

/-- A search that can find one thing only finds it if some member hits. -/
theorem findSome?_constant (p : α → Bool) (b : β) (xs : List α) :
    (xs.findSome? fun a => if p a then some b else none) = if xs.any p then some b else none := by
  induction xs with
  | nil => rfl
  | cons a xs ih =>
    rw [List.findSome?_cons, List.any_cons, ih]
    cases p a <;> rfl

/-- A search whose hits all stay hits: it finds what it found, or it finds a new hit before that.
What "before" means is up to `r`, by which the list is sorted. -/
theorem findSome?_of_kept {f g : α → Option β} {xs : List α} {r : α → α → Prop}
    (sorted : xs.Pairwise r) (kept : ∀ a b, f a = some b → g a = some b) :
    xs.findSome? g = xs.findSome? f ∨
      ∃ a b, f a = none ∧ g a = some b ∧ xs.findSome? g = some b ∧
        ∀ b', xs.findSome? f = some b' → ∃ a', r a a' ∧ f a' = some b' := by
  induction xs with
  | nil => exact .inl rfl
  | cons a xs ih =>
    obtain ⟨before, sorted⟩ := List.pairwise_cons.mp sorted
    rw [List.findSome?_cons, List.findSome?_cons]
    cases hf : f a with
    | some b =>
      rw [kept a b hf]
      exact .inl rfl
    | none =>
      cases hg : g a with
      | none => exact ih sorted
      | some b =>
        refine .inr ⟨a, b, hf, hg, rfl, fun b' found => ?_⟩
        obtain ⟨a', mem, ha'⟩ := List.exists_of_findSome?_eq_some found
        exact ⟨a', before a' mem, ha'⟩

/-- The first hit comes no later than a given one. -/
theorem exists_findIdx?_le {p : α → Bool} {xs : List α} {i : Nat} {a : α} (h : xs[i]? = some a)
    (hit : p a = true) : ∃ j ≤ i, xs.findIdx? p = some j := by
  cases hf : xs.findIdx? p with
  | none =>
    have miss := List.findIdx?_eq_none_iff.mp hf a (List.mem_of_getElem? h)
    rw [hit] at miss
    cases miss
  | some j =>
    obtain ⟨_, _, first⟩ := List.findIdx?_eq_some_iff_getElem.mp hf
    obtain ⟨lt, rfl⟩ := List.getElem?_eq_some_iff.mp h
    refine ⟨j, Nat.le_of_not_lt fun later => ?_, rfl⟩
    exact first i later hit

/-- What does not ask for the places of a list need not be told them. -/
theorem any_zipIdx (p : α → Bool) (xs : List α) : (xs.zipIdx.any fun x => p x.1) = xs.any p := by
  have fsts : xs.zipIdx.map Prod.fst = xs := List.zipIdx_map_fst 0 xs
  calc xs.zipIdx.any (fun x => p x.1)
      = (xs.zipIdx.map Prod.fst).any p := List.any_map.symm
    _ = xs.any p := by rw [fsts]

/-- The same for mapping a list. -/
theorem map_zipIdx (f : α → β) (xs : List α) : (xs.zipIdx.map fun x => f x.1) = xs.map f := by
  have fsts : xs.zipIdx.map Prod.fst = xs := List.zipIdx_map_fst 0 xs
  calc xs.zipIdx.map (fun x => f x.1)
      = (xs.zipIdx.map Prod.fst).map f := List.map_map.symm
    _ = xs.map f := by rw [fsts]

/-- The same for counting. -/
theorem countP_zipIdx (p : α → Bool) (xs : List α) :
    (xs.zipIdx.countP fun x => p x.1) = xs.countP p := by
  have fsts : xs.zipIdx.map Prod.fst = xs := List.zipIdx_map_fst 0 xs
  calc xs.zipIdx.countP (fun x => p x.1)
      = (xs.zipIdx.map Prod.fst).countP p := List.countP_map.symm
    _ = xs.countP p := by rw [fsts]

/-- The same for searching. -/
theorem findSome?_zipIdx (f : α → Option β) (xs : List α) :
    (xs.zipIdx.findSome? fun x => f x.1) = xs.findSome? f := by
  have fsts : xs.zipIdx.map Prod.fst = xs := List.zipIdx_map_fst 0 xs
  calc xs.zipIdx.findSome? (fun x => f x.1)
      = (xs.zipIdx.map Prod.fst).findSome? f := List.findSome?_map.symm
    _ = xs.findSome? f := by rw [fsts]

/-- A condition that does not ask for the places holds of all members with their places exactly if
it holds of all members. -/
theorem forall_mem_zipIdx {p : α × Nat → Prop} {q : α → Prop} {xs : List α}
    (h : ∀ a index, p (a, index) ↔ q a) : (∀ x ∈ xs.zipIdx, p x) ↔ ∀ a ∈ xs, q a := by
  have fsts : xs.zipIdx.map Prod.fst = xs := List.zipIdx_map_fst 0 xs
  calc (∀ x ∈ xs.zipIdx, p x)
      ↔ ∀ x ∈ xs.zipIdx, q x.1 := forall₂_congr fun x _ => h x.1 x.2
    _ ↔ ∀ a ∈ xs.zipIdx.map Prod.fst, q a := List.forall_mem_map.symm
    _ ↔ ∀ a ∈ xs, q a := by rw [fsts]

/-- What a look-up finds is in the list. -/
theorem mem_of_lookup_eq_some [BEq α] [LawfulBEq α] {xs : List (α × β)} {a : α} {b : β}
    (h : xs.lookup a = some b) : (a, b) ∈ xs := by
  obtain ⟨before, after, rfl, _⟩ := List.lookup_eq_some_iff.mp h
  exact List.mem_append_right _ List.mem_cons_self

/-- A look-up for what is made from a value is one for the value. -/
theorem lookup_map_snd [BEq α] (f : β → γ) (xs : List (α × β)) (a : α) :
    (xs.map fun x => (x.1, f x.2)).lookup a = (xs.lookup a).map f := by
  induction xs with
  | nil => rfl
  | cons x xs ih =>
    obtain ⟨first, b⟩ := x
    rw [List.map_cons, List.lookup_cons, List.lookup_cons, ih]
    cases a == first <;> rfl

/-! ## The place of a first hit -/

/-- The member of a list at a place, which is the first place where one has a property. -/
structure FirstAt (p : α → Prop) (xs : List α) (i : Nat) (a : α) : Prop where
  here : xs[i]? = some a
  holds : p a
  first : ∀ j < i, ∀ b, xs[j]? = some b → ¬ p b

section FirstAt

variable {p : α → Prop} {x a : α} {xs : List α} {i : Nat}

/-- A first hit at the front of a list is the first member, if it hits. -/
theorem firstAt_cons_zero_iff : FirstAt p (x :: xs) 0 a ↔ x = a ∧ p a := by
  constructor
  · intro h
    exact ⟨Option.some.inj h.here, h.holds⟩
  · rintro ⟨rfl, holds⟩
    exact ⟨rfl, holds, nofun⟩

/-- A first hit further on is one of the rest, if the first member does not hit. With
`firstAt_cons_zero_iff` this takes first hits apart along the list. -/
theorem firstAt_cons_succ_iff : FirstAt p (x :: xs) (i + 1) a ↔ ¬ p x ∧ FirstAt p xs i a := by
  constructor
  · intro h
    refine ⟨h.first 0 (Nat.succ_pos i) x rfl, h.here, h.holds, fun j lt b at' => ?_⟩
    exact h.first (j + 1) (Nat.succ_lt_succ lt) b at'
  · rintro ⟨miss, h⟩
    refine ⟨h.here, h.holds, fun j lt b at' => ?_⟩
    cases j with
    | zero => exact Option.some.inj at' ▸ miss
    | succ j => exact h.first j (Nat.lt_of_succ_lt_succ lt) b at'

/-- A search that is told the places finds something at the first member that it does not pass by.
Which members it passes by may not depend on the places; what it finds may. -/
theorem findSome?_zipIdx_eq_some_iff {f : α × Nat → Option β}
    (misses : ∀ a i, f (a, i) = none ↔ ¬ p a) {n : Nat} {b : β} :
    (xs.zipIdx n).findSome? f = some b ↔ ∃ i a, FirstAt p xs i a ∧ f (a, n + i) = some b := by
  induction xs generalizing n with
  | nil =>
    refine iff_of_false nofun ?_
    rintro ⟨i, a, h, _⟩
    cases h.here
  | cons x xs ih =>
    rw [List.zipIdx_cons, List.findSome?_cons]
    cases hf : f (x, n) with
    | none =>
      have miss := (misses x n).mp hf
      rw [ih]
      constructor
      · rintro ⟨i, a, h, found⟩
        refine ⟨i + 1, a, firstAt_cons_succ_iff.mpr ⟨miss, h⟩, ?_⟩
        rwa [Nat.add_assoc, Nat.add_comm 1] at found
      · rintro ⟨i, a, h, found⟩
        cases i with
        | zero =>
          obtain ⟨rfl, holds⟩ := firstAt_cons_zero_iff.mp h
          exact absurd holds miss
        | succ i =>
          refine ⟨i, a, (firstAt_cons_succ_iff.mp h).2, ?_⟩
          rwa [Nat.add_assoc, Nat.add_comm 1]
    | some c =>
      have hit : p x := by
        by_contra miss
        rw [(misses x n).mpr miss] at hf
        cases hf
      constructor
      · rintro ⟨⟩
        exact ⟨0, x, firstAt_cons_zero_iff.mpr ⟨rfl, hit⟩, hf⟩
      · rintro ⟨i, a, h, found⟩
        cases i with
        | zero =>
          obtain ⟨rfl, _⟩ := firstAt_cons_zero_iff.mp h
          exact hf.symm.trans found
        | succ i => exact absurd hit (firstAt_cons_succ_iff.mp h).1

/-- The place of a first hit is found exactly if there is one, with the member that stands there. -/
theorem findIdx?_eq_some_iff_firstAt {q : α → Bool} (hits : ∀ a ∈ xs, q a = true ↔ p a) :
    xs.findIdx? q = some i ↔ ∃ a, FirstAt p xs i a := by
  rw [List.findIdx?_eq_some_iff_getElem]
  constructor
  · rintro ⟨lt, holds, first⟩
    refine ⟨_, List.getElem?_eq_getElem lt, (hits _ (List.getElem_mem lt)).mp holds, ?_⟩
    intro j lt' b at' hit
    have mem := List.mem_of_getElem? at'
    obtain ⟨_, rfl⟩ := List.getElem?_eq_some_iff.mp at'
    exact first j lt' ((hits _ mem).mpr hit)
  · rintro ⟨a, h⟩
    have mem := List.mem_of_getElem? h.here
    obtain ⟨lt, rfl⟩ := List.getElem?_eq_some_iff.mp h.here
    refine ⟨lt, (hits _ mem).mpr h.holds, fun j lt' hit => ?_⟩
    exact h.first j lt' _ (List.getElem?_eq_getElem _) ((hits _ (List.getElem_mem _)).mp hit)

end FirstAt

/-! ## Without later repeats -/

variable [DecidableEq α]

/-- A last member is kept if it is a new one. So inductions on lists without repeats go from the
end. -/
theorem eraseDups_concat (xs : List α) (a : α) :
    (xs ++ [a]).eraseDups = if a ∈ xs then xs.eraseDups else xs.eraseDups ++ [a] := by
  rw [List.eraseDups_append]
  by_cases known : a ∈ xs <;> simp [List.removeAll, known, List.eraseDups_cons]

/-- Members can be sorted out before repeats are removed or after it. -/
theorem filter_eraseDups (p : α → Bool) (xs : List α) :
    xs.eraseDups.filter p = (xs.filter p).eraseDups := by
  induction xs using List.reverseRecOn with
  | nil => rfl
  | append_singleton xs a ih =>
    rw [eraseDups_concat, List.filter_append]
    cases hp : p a with
    | false =>
      rw [List.filter_cons_of_neg (by simp [hp]), List.filter_nil, List.append_nil, ← ih]
      split
      next => rfl
      next => simp [hp]
    | true =>
      rw [List.filter_cons_of_pos hp, List.filter_nil, eraseDups_concat, ← ih]
      by_cases known : a ∈ xs <;> simp [known, hp]

end TokenClassifier
