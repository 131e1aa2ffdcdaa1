/-!
# Sets in order of insertion

A list without repeats, in which the first insertion of a member fixes its place. A set keeps its
members twice: in a list, for their order, and in a test, which tells whether something is a member.
Only the test is asked before a member is added; that the two agree goes with the set.
-/

namespace TokenClassifier

/-- A set that remembers the order in which its members were inserted. -/
structure OrderedSet (α : Type) where
  toList : List α
  /-- Tells the members. -/
  seen : α → Bool
  nodup : toList.Nodup
  seen_iff : ∀ a, seen a = true ↔ a ∈ toList

namespace OrderedSet

variable {α : Type}

/-- The set without members. -/
def empty : OrderedSet α := ⟨[], fun _ => false, List.nodup_nil, by simp⟩

instance : Inhabited (OrderedSet α) := ⟨empty⟩

@[simp] theorem toList_empty : (empty : OrderedSet α).toList = [] := rfl

/-- The list tells all of a set. -/
theorem ext_toList {a b : OrderedSet α} (h : a.toList = b.toList) : a = b := by
  have same : a.seen = b.seen := by
    funext x
    rw [Bool.eq_iff_iff, a.seen_iff, b.seen_iff, h]
  cases a
  cases b
  cases h
  cases same
  rfl

instance [DecidableEq α] : DecidableEq (OrderedSet α) := fun a b =>
  if h : a.toList = b.toList then .isTrue (ext_toList h)
  else .isFalse fun e => h (e ▸ rfl)

instance [Repr α] : Repr (OrderedSet α) := ⟨fun s n => reprPrec s.toList n⟩

/-- The number of members. -/
def size (s : OrderedSet α) : Nat := s.toList.length

/-- Whether there is no member. -/
def isEmpty (s : OrderedSet α) : Bool := s.toList.isEmpty

variable [DecidableEq α]

/-- Adds a member after all others, and tells that it is new. A known member changes nothing. -/
def add (s : OrderedSet α) (a : α) : Bool × OrderedSet α :=
  if known : s.seen a then (false, s)
  else
    have fresh : a ∉ s.toList := fun mem => known ((s.seen_iff a).mpr mem)
    (true,
      { toList := s.toList ++ [a]
        seen := fun b => b == a || s.seen b
        nodup := by
          rw [List.nodup_append]
          refine ⟨s.nodup, by simp, ?_⟩
          intro x hx y hy e
          simp only [List.mem_singleton] at hy
          exact fresh (hy ▸ e ▸ hx)
        seen_iff := by simp [s.seen_iff, or_comm] })

/-- The set with one more member. -/
def insert (s : OrderedSet α) (a : α) : OrderedSet α := (s.add a).2

/-- The members of a list, in order of their first occurrence. -/
def ofList (xs : List α) : OrderedSet α := xs.foldl insert empty

/-! ## Members -/

/-- Adding tells whether the member is new. -/
theorem fst_add (s : OrderedSet α) (a : α) : (s.add a).1 = true ↔ a ∉ s.toList := by
  rw [← s.seen_iff, add]
  split
  next known => simp [known]
  next new => simp [new]

/-- A new member comes last, and a known one changes nothing. With `toList_empty` this is all that
is asked of how sets are kept. -/
theorem toList_insert (s : OrderedSet α) (a : α) :
    (s.insert a).toList = if a ∈ s.toList then s.toList else s.toList ++ [a] := by
  rw [insert, add]
  split
  next known => rw [if_pos ((s.seen_iff a).mp known)]
  next new => rw [if_neg fun mem => new ((s.seen_iff a).mpr mem)]

/-- The members after adding are those before it and the one that was added. -/
@[simp] theorem mem_toList_insert {s : OrderedSet α} {a x : α} :
    x ∈ (s.insert a).toList ↔ x ∈ s.toList ∨ x = a := by
  by_cases h : a ∈ s.toList
  · simp only [toList_insert, h, if_true]
    exact ⟨.inl, fun e => e.elim id fun e => e ▸ h⟩
  · simp [toList_insert, h]

/-- The set of a list is built from its front: the last element is inserted last. -/
@[simp] theorem ofList_concat (xs : List α) (a : α) :
    ofList (xs ++ [a]) = (ofList xs).insert a := by
  simp [ofList]

end OrderedSet

end TokenClassifier
