import Mathlib.Data.List.Nodup
import TokenClassifier.Proofs.Except
import TokenClassifier.Rules.Document

/-!
# Records in mappings

A record is read off a mapping pair by pair, and what has been found so far is kept. The pairs are
taken in the order in which they stand, but each field of the record only heeds the pairs under its
own name. So a field is filled by the values that stand under its name (`Document.valuesOf`),
wherever they stand and whatever stands between them: with the one value if there is one, and not at
all if there is none. More than one is refused.

This is said once for all records (`filled_of_record`, `exists_record`). A record is described by
its slots, one for each field, and the three records of a configuration are read by theirs
(`surroundField_eq`, `operatorField_eq`, `ruleSetField_eq`).

Numbers and lists come first: digits spell the number that they were made from, and a list can be
read only if each of its members can.
-/

namespace TokenClassifier

open Yaml

namespace Yaml.Document

variable (d : Document)

/-- The text of a node, if it stands for a scalar. -/
def text? (n : Node) : Option String :=
  match d.follow n with
  | .scalar s => some (String.ofList s.text)
  | _ => none

/-- The values of a mapping that stand under a name. -/
def valuesOf (name : String) (pairs : List (Node × Node)) : List Node :=
  pairs.filterMap fun (key, value) => if d.text? key = some name then some value else none

variable {d} {name : String} {key value : Node} {pairs : List (Node × Node)}

/-- A pair under the name adds its value in front. -/
theorem valuesOf_cons_of_eq (h : d.text? key = some name) :
    d.valuesOf name ((key, value) :: pairs) = value :: d.valuesOf name pairs :=
  List.filterMap_cons_some (if_pos h)

/-- A pair under another name adds nothing. A key that is no text stands under no name at all. -/
theorem valuesOf_cons_of_ne (h : d.text? key ≠ some name) :
    d.valuesOf name ((key, value) :: pairs) = d.valuesOf name pairs :=
  List.filterMap_cons_none (if_neg h)

end Yaml.Document

namespace Decode

variable {d : Document}

/-- A text is read off a node exactly if the node stands for a scalar, and then it is the text of
that, whatever its quotes and its tag. -/
theorem text_eq_ok_iff {n : Node} {s : String} : text d n = .ok s ↔ d.text? n = some s := by
  unfold text Document.text?
  cases d.follow n <;> simp

/-- A value that is a text is whole, so it may stand under a name of no interest. -/
theorem isWhole_of_text? {n : Node} {s : String} (h : d.text? n = some s) : n.isWhole = true := by
  cases n with
  | sequence | mapping | broken => cases h
  | _ => rfl

/-! ## Numbers -/

/-- Digits spell the number that they were made from, in any base up to sixteen. By induction on the
number, taking off the last digit. -/
theorem digits?_toDigits {base : Nat} (least : 1 < base) (most : base ≤ 16) (n : Nat) :
    digits? base (Nat.toDigits base n) = some n := by
  have digit : ∀ k < base, digit? base (Nat.digitChar k) = some k := by
    intro k lt
    have hex : ∀ k < 16, hexDigit? (Nat.digitChar k) = some k := by decide
    rw [digit?, hex k (Nat.lt_of_lt_of_le lt most)]
    exact if_pos lt
  have read : (Nat.toDigits base n).foldlM
      (fun n c => (digit? base c).map (base * n + ·)) 0 = some n := by
    induction n using Nat.strongRecOn with
    | ind n ih =>
      by_cases small : n < base
      · rw [Nat.toDigits_of_lt_base small, List.foldlM_cons, digit n small]
        simp
      · have smaller : n / base < n := Nat.div_lt_self (by omega) least
        have last := digit (n % base) (Nat.mod_lt n (by omega))
        rw [Nat.toDigits_of_base_le least (by omega), List.foldlM_append, ih _ smaller]
        simp [last, Nat.div_add_mod]
  rw [digits?, if_neg (by simp [Nat.toDigits_ne_nil]), read]

/-- The digits of a number begin with a zero only if there is no other. So a decimal number is never
taken for the mark of another base, which begins with a zero. -/
theorem head?_toDigits_ne_zero {n : Nat} (pos : 0 < n) : (Nat.toDigits 10 n).head? ≠ some '0' := by
  induction n using Nat.strongRecOn with
  | ind n ih =>
    by_cases small : n < 10
    · rw [Nat.toDigits_of_lt_base small]
      simp
      omega
    · have front := ih (n / 10) (by omega) (by omega)
      rw [Nat.toDigits_of_base_le (by decide) (by omega), List.head?_append]
      cases h : (Nat.toDigits 10 (n / 10)).head? with
      | none => simp [Nat.toDigits_ne_nil] at h
      | some c => simpa [h] using front

/-- No digit is a plus sign, so a number without a sign is not taken for one with it. -/
theorem head?_toDigits_ne_plus (n : Nat) : (Nat.toDigits 10 n).head? ≠ some '+' := by
  intro h
  have digit := Nat.isDigit_of_mem_toDigits (by decide) (by decide) (List.mem_of_mem_head? h)
  cases digit

/-- A number in decimal is read as itself. -/
theorem natural?_toDigits (n : Nat) : natural? (Nat.toDigits 10 n) = some n := by
  rcases Nat.eq_zero_or_pos n with rfl | pos
  · rfl
  · have zero := head?_toDigits_ne_zero pos
    have plus := head?_toDigits_ne_plus n
    rw [← @digits?_toDigits 10 (by decide) (by decide) n]
    generalize Nat.toDigits 10 n = cs at zero plus
    -- neither a sign nor a mark of another base begins with such a digit
    unfold natural?
    split
    next => simp at plus
    next =>
      dsimp only
      split
      next => simp at zero
      next => simp at zero
      next => simp at zero
      next => simp at zero
      next => rfl

/-- A plus sign before a number changes nothing, unless another one follows it. -/
theorem natural?_plus {cs : List Char} (unsigned : cs.head? ≠ some '+') :
    natural? ('+' :: cs) = natural? cs := by
  unfold natural?
  split
  next rest heq =>
    cases heq
    split
    next => simp at unsigned
    next => rfl
  next other => exact absurd rfl (other cs)

/-! ## Lists -/

/-- The members of a list are read one after the other, and the first that cannot be read ends
it. -/
theorem each_eq_mapM {α : Type} (decode : Node → Except DecodeError α) (items : List Node) :
    each decode items = items.mapM decode := by
  induction items with
  | nil => rfl
  | cons n items ih => rw [each, ih, List.mapM_cons]

/-- If a list can be read, so can each of its members. There is no reading of a list that skips
one. -/
theorem exists_member_of_list {α : Type} {decode : Node → Except DecodeError α} {n item : Node}
    {items : List Node} {as : List α} (h : list d decode n = .ok as)
    (hn : d.follow n = .sequence items) (mem : item ∈ items) : ∃ a, decode item = .ok a := by
  unfold list at h
  rw [hn] at h
  dsimp only at h
  rw [each_eq_mapM, mapM_eq_ok_iff] at h
  clear hn
  induction h with
  | nil => cases mem
  | cons first _ ih =>
    rcases List.mem_cons.mp mem with rfl | mem
    · exact ⟨_, first⟩
    · exact ih mem

/-! ## Fields -/

/-- The fields of a node that stands for a mapping are its pairs. -/
theorem fields_of_mapping {n : Node} {pairs : List (Node × Node)}
    (h : d.follow n = .mapping pairs) : fields d n = .ok pairs := by
  rw [fields, h]

/-- A field can be taken once: nothing has been found of it, and the value can be decoded. -/
theorem once_eq_ok_iff {α : Type} {name : String} {known : Option α}
    {decode : Node → Except DecodeError α} {n : Node} {found : Option α} :
    once name known decode n = .ok found ↔
      known = none ∧ ∃ a, decode n = .ok a ∧ found = some a := by
  unfold once
  cases known with
  | some _ => simp
  | none => cases decode n <;> simp [Except.map, eq_comm]

/-- A value of no interest is passed over if it is whole, and what has been found stays as it is. -/
theorem pass_eq_ok_iff {σ : Type} {f f' : σ} {n : Node} :
    pass f n = .ok f' ↔ n.isWhole = true ∧ f' = f := by
  unfold pass
  split
  next whole => simp [whole, eq_comm]
  next broken => simp [broken]

/-- A field without a default has to have been found. -/
theorem required_eq_ok_iff {α : Type} {name : String} {found : Option α} {a : α} :
    required name found = .ok a ↔ found = some a := by
  cases found <;> simp [required]

/-! ## Slots -/

/-- A field of a record: its name, how it is decoded, and where it is kept once it is found. -/
structure Slot (σ : Type) where
  name : String
  {α : Type}
  decode : Node → Except DecodeError α
  kept : σ → Option α
  keep : σ → Option α → σ
  kept_keep : ∀ f found, kept (keep f found) = found

/-- The slots of a record. They have different names, and what is kept in one of them leaves the
others as they are. -/
structure Slots (σ : Type) where
  all : List (Slot σ)
  distinct : (all.map Slot.name).Nodup
  apart : ∀ slot ∈ all, ∀ other ∈ all, other.name ≠ slot.name → ∀ f found,
    other.kept (slot.keep f found) = other.kept f

namespace Slots

variable {σ : Type} {f f' : σ} {n : Node}

/-- The names of the fields. -/
def names (slots : Slots σ) : List String := slots.all.map Slot.name

/-- Takes a value under a name into the first slot of the name. -/
def takeFirst (f : σ) (name : String) (n : Node) : List (Slot σ) → Except DecodeError σ
  | [] => pass f n
  | slot :: rest =>
    if name = slot.name then do
      return slot.keep f (← once slot.name (slot.kept f) slot.decode n)
    else takeFirst f name n rest

/-- Takes a value under a name. -/
def take (slots : Slots σ) (f : σ) (name : String) (n : Node) : Except DecodeError σ :=
  takeFirst f name n slots.all

variable {slots : Slots σ}

/-- A value under a name that no slot has is passed over. -/
theorem take_of_notMem {name : String} (unknown : name ∉ slots.names) :
    slots.take f name n = pass f n := by
  have none : ∀ all : List (Slot σ), name ∉ all.map Slot.name →
      takeFirst f name n all = pass f n := by
    intro all
    induction all with
    | nil => exact fun _ => rfl
    | cons first all ih =>
      intro unknown
      rw [List.map_cons, List.mem_cons, not_or] at unknown
      rw [takeFirst, if_neg unknown.1]
      exact ih unknown.2
  exact none slots.all unknown

/-- A value under the name of a slot goes into the slot, which has to be empty, if it can be
decoded. The names of the slots are different, so there is no other slot of the name before it. -/
theorem take_of_mem {slot : Slot σ} (mem : slot ∈ slots.all) :
    slots.take f slot.name n = .ok f' ↔ slot.kept f = none ∧
      ∃ a, slot.decode n = .ok a ∧ f' = slot.keep f (some a) := by
  have taken : ∀ all : List (Slot σ), (all.map Slot.name).Nodup → slot ∈ all →
      takeFirst f slot.name n all =
        (do return slot.keep f (← once slot.name (slot.kept f) slot.decode n)) := by
    intro all
    induction all with
    | nil => exact fun _ mem => nomatch mem
    | cons first all ih =>
      intro distinct mem
      obtain ⟨new, distinct⟩ := List.nodup_cons.mp distinct
      rcases List.mem_cons.mp mem with rfl | mem
      · rw [takeFirst, if_pos rfl]
      · have other : slot.name ≠ first.name :=
          fun same => new (same ▸ List.mem_map_of_mem mem)
        rw [takeFirst, if_neg other, ih distinct mem]
  rw [take, taken _ slots.distinct mem, bind_eq_ok_iff]
  constructor
  · rintro ⟨found, h, heq⟩
    obtain ⟨free, a, decoded, rfl⟩ := once_eq_ok_iff.mp h
    exact ⟨free, a, decoded, (Except.ok.inj heq).symm⟩
  · rintro ⟨free, a, decoded, rfl⟩
    exact ⟨_, once_eq_ok_iff.mpr ⟨free, a, decoded, rfl⟩, rfl⟩

/-- What is taken under another name leaves a slot as it is. With `take_of_mem` it says all that
taking a value does to what is kept. -/
theorem kept_of_take {name : String} (h : slots.take f name n = .ok f') {slot : Slot σ}
    (mem : slot ∈ slots.all) (other : slot.name ≠ name) : slot.kept f' = slot.kept f := by
  by_cases known : name ∈ slots.names
  · obtain ⟨first, first_mem, rfl⟩ := List.mem_map.mp known
    obtain ⟨_, a, _, rfl⟩ := (take_of_mem first_mem).mp h
    exact slots.apart first first_mem slot mem other f _
  · rw [take_of_notMem known, pass_eq_ok_iff] at h
    rw [h.2]

end Slots

/-! ## Records -/

/-- How the values under the name of a field change what has been found of it. -/
def Filled {α : Type} (decode : Node → Except DecodeError α) (before : Option α)
    (values : List Node) (after : Option α) : Prop :=
  values = [] ∧ after = before ∨
    before = none ∧ ∃ value a, values = [value] ∧ decode value = .ok a ∧ after = some a

section Filled

variable {α : Type} {decode : Node → Except DecodeError α} {before after after' : Option α}
  {values : List Node}

/-- What is found of a field is settled by what was found before and the values under its name. -/
theorem Filled.unique (h : Filled decode before values after)
    (h' : Filled decode before values after') : after = after' := by
  rcases h with ⟨rfl, rfl⟩ | ⟨_, value, a, rfl, decoded, rfl⟩
  · rcases h' with ⟨_, rfl⟩ | ⟨_, _, _, nothing, _⟩
    · rfl
    · cases nothing
  · rcases h' with ⟨nothing, _⟩ | ⟨_, value', a', one, decoded', rfl⟩
    · cases nothing
    · cases one
      cases decoded.symm.trans decoded'
      rfl

/-- There is at most one value under the name of a field that was filled. -/
theorem Filled.length_le (h : Filled decode before values after) : values.length ≤ 1 := by
  rcases h with ⟨rfl, _⟩ | ⟨_, _, _, rfl, _⟩
  · exact Nat.zero_le 1
  · exact Nat.le_refl 1

/-- What has been found stood somewhere, if nothing was known before. -/
theorem Filled.ne_nil {a : α} (h : Filled decode none values (some a)) : values ≠ [] := by
  rcases h with ⟨_, nothing⟩ | ⟨_, _, _, rfl, _⟩
  · cases nothing
  · exact List.cons_ne_nil _ _

end Filled

section Record

variable {σ : Type} {slots : Slots σ} {f f' : σ} {pairs : List (Node × Node)}

/-- A pair with a text for its key is taken first, and then the other pairs. A key of another kind
ends the reading. -/
theorem record_cons_eq_ok_iff {field : σ → String → Node → Except DecodeError σ}
    {key value : Node} :
    record d field f ((key, value) :: pairs) = .ok f' ↔ ∃ name g, d.text? key = some name ∧
      field f name value = .ok g ∧ record d field g pairs = .ok f' := by
  simp only [record, bind_eq_ok_iff, text_eq_ok_iff, exists_and_left]

/-- Whatever is read of a record, its slots are filled by the values under their names. By induction
on the pairs, for a slot that heeds only some of them; the order of the others is lost on the way,
and this is why it does not matter. -/
theorem filled_of_record (h : record d slots.take f pairs = .ok f') :
    ∀ slot ∈ slots.all,
      Filled slot.decode (slot.kept f) (d.valuesOf slot.name pairs) (slot.kept f') := by
  intro slot mem
  induction pairs generalizing f with
  | nil =>
    cases h
    exact .inl ⟨rfl, rfl⟩
  | cons pair pairs ih =>
    obtain ⟨key, value⟩ := pair
    obtain ⟨name, g, hname, taken, later⟩ := record_cons_eq_ok_iff.mp h
    by_cases same : slot.name = name
    · subst same
      obtain ⟨free, a, decoded, rfl⟩ := (Slots.take_of_mem mem).mp taken
      rw [Document.valuesOf_cons_of_eq hname]
      have kept := slot.kept_keep f (some a)
      -- what is kept now leaves no room for another value
      rcases ih later with ⟨none, after⟩ | ⟨free', _⟩
      · exact .inr ⟨free, value, a, by rw [none], decoded, after.trans kept⟩
      · rw [kept] at free'
        cases free'
    · have other : d.text? key ≠ some slot.name := by
        rw [hname]
        exact fun e => same (Option.some.inj e).symm
      rw [Document.valuesOf_cons_of_ne other, ← Slots.kept_of_take taken mem same]
      exact ih later

/-- A record can be read if each of its slots can be filled and nothing else is in the way: all keys
are texts, and what stands under a name of no interest is whole. By induction on the pairs, each of
which is the one value of its slot or passed over. -/
theorem exists_record
    (keyed : ∀ pair ∈ pairs, ∃ name, d.text? pair.1 = some name ∧
      (name ∈ slots.names ∨ pair.2.isWhole = true))
    (fillable : ∀ slot ∈ slots.all, ∃ after,
      Filled slot.decode (slot.kept f) (d.valuesOf slot.name pairs) after) :
    ∃ f', record d slots.take f pairs = .ok f' := by
  induction pairs generalizing f with
  | nil => exact ⟨f, rfl⟩
  | cons pair pairs ih =>
    obtain ⟨key, value⟩ := pair
    obtain ⟨name, hname, place⟩ := keyed _ List.mem_cons_self
    -- the first value is the only one of its slot
    have only : ∀ slot ∈ slots.all, slot.name = name → d.valuesOf slot.name pairs = [] ∧
        slot.kept f = none ∧ ∃ a, slot.decode value = .ok a := by
      intro slot mem same
      obtain ⟨after, filled⟩ := fillable slot mem
      rw [Document.valuesOf_cons_of_eq (same ▸ hname)] at filled
      rcases filled with ⟨nothing, _⟩ | ⟨free, value', a, one, decoded, _⟩
      · cases nothing
      · obtain ⟨rfl, rest⟩ := List.cons_eq_cons.mp one
        exact ⟨rest, free, a, decoded⟩
    obtain ⟨g, taken⟩ : ∃ g, slots.take f name value = .ok g := by
      by_cases known : name ∈ slots.names
      · obtain ⟨slot, mem, rfl⟩ := List.mem_map.mp known
        obtain ⟨_, free, a, decoded⟩ := only slot mem rfl
        exact ⟨_, (Slots.take_of_mem mem).mpr ⟨free, a, decoded, rfl⟩⟩
      · rw [Slots.take_of_notMem known]
        exact ⟨f, pass_eq_ok_iff.mpr ⟨place.resolve_left known, rfl⟩⟩
    have fillable' : ∀ slot ∈ slots.all, ∃ after,
        Filled slot.decode (slot.kept g) (d.valuesOf slot.name pairs) after := by
      intro slot mem
      by_cases same : slot.name = name
      · exact ⟨_, .inl ⟨(only slot mem same).1, rfl⟩⟩
      · obtain ⟨after, filled⟩ := fillable slot mem
        have other : d.text? key ≠ some slot.name := by
          rw [hname]
          exact fun e => same (Option.some.inj e).symm
        rw [Document.valuesOf_cons_of_ne other, ← Slots.kept_of_take taken mem same] at filled
        exact ⟨after, filled⟩
    obtain ⟨f', later⟩ := ih (fun pair mem => keyed pair (List.mem_cons_of_mem _ mem)) fillable'
    exact ⟨f', record_cons_eq_ok_iff.mpr ⟨name, g, hname, taken, later⟩⟩

end Record

/-! ## The records of a configuration -/

/-- The slots of a surround rule. -/
def surroundSlots (d : Document) : Slots SurroundFields where
  all :=
    [⟨"start", text d, (·.start), fun f x => { f with start := x }, fun _ _ => rfl⟩,
      ⟨"end", optionalText d, (·.stop), fun f x => { f with stop := x }, fun _ _ => rfl⟩,
      ⟨"endings", list d (text d), (·.endings), fun f x => { f with endings := x },
        fun _ _ => rfl⟩]
  distinct := by simp
  apart := by simp

/-- A surround rule is read by its slots. -/
theorem surroundField_eq : surroundField d = (surroundSlots d).take := by
  funext f name n
  unfold surroundField
  split
  next => rfl
  next => rfl
  next => rfl
  next start stop endings =>
    have unknown : name ∉ (surroundSlots d).names := by
      simpa [Slots.names, surroundSlots] using ⟨start, stop, endings⟩
    exact (Slots.take_of_notMem unknown).symm

/-- The slots of an operator rule. -/
def operatorSlots (d : Document) : Slots OperatorFields where
  all :=
    [⟨"pattern", text d, (·.pattern), fun f x => { f with pattern := x }, fun _ _ => rfl⟩,
      ⟨"prefix-prec", precedence d, (·.before), fun f x => { f with before := x },
        fun _ _ => rfl⟩,
      ⟨"infix-prec", precedence d, (·.between), fun f x => { f with between := x },
        fun _ _ => rfl⟩,
      ⟨"postfix-prec", precedence d, (·.after), fun f x => { f with after := x },
        fun _ _ => rfl⟩]
  distinct := by simp
  apart := by simp

/-- An operator rule is read by its slots. -/
theorem operatorField_eq : operatorField d = (operatorSlots d).take := by
  funext f name n
  unfold operatorField
  split
  next => rfl
  next => rfl
  next => rfl
  next => rfl
  next pattern before between after =>
    have unknown : name ∉ (operatorSlots d).names := by
      simpa [Slots.names, operatorSlots] using ⟨pattern, before, between, after⟩
    exact (Slots.take_of_notMem unknown).symm

/-- The slots of a rule set. -/
def ruleSetSlots (d : Document) : Slots RuleSetFields where
  all :=
    [⟨"surround-regexp", list d (surroundRule d), (·.surround),
        fun f x => { f with surround := x }, fun _ _ => rfl⟩,
      ⟨"form-prefix-regexp", list d (text d), (·.formPrefixes),
        fun f x => { f with formPrefixes := x }, fun _ _ => rfl⟩,
      ⟨"simple-label-regexp", list d (text d), (·.simpleLabels),
        fun f x => { f with simpleLabels := x }, fun _ _ => rfl⟩,
      ⟨"compound-label-regexp", list d (text d), (·.compoundLabels),
        fun f x => { f with compoundLabels := x }, fun _ _ => rfl⟩,
      ⟨"variable-regexp", list d (text d), (·.variableNames),
        fun f x => { f with variableNames := x }, fun _ _ => rfl⟩,
      ⟨"operator-regexp", list d (operatorRule d), (·.operators),
        fun f x => { f with operators := x }, fun _ _ => rfl⟩]
  distinct := by simp
  apart := by simp

/-- A rule set is read by its slots. Where a field is added to one of the records, its slot and this
equation are what has to be added here. -/
theorem ruleSetField_eq : ruleSetField d = (ruleSetSlots d).take := by
  funext f name n
  unfold ruleSetField
  split
  next => rfl
  next => rfl
  next => rfl
  next => rfl
  next => rfl
  next => rfl
  next surround formPrefixes simpleLabels compoundLabels variableNames operators =>
    have unknown : name ∉ (ruleSetSlots d).names := by
      simpa [Slots.names, ruleSetSlots] using
        ⟨surround, formPrefixes, simpleLabels, compoundLabels, variableNames, operators⟩
    exact (Slots.take_of_notMem unknown).symm

end Decode

end TokenClassifier
