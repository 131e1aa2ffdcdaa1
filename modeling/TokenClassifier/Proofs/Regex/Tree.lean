import TokenClassifier.Proofs.Regex.Scan
import TokenClassifier.Regex.Parser

/-!
# The tree of a pattern inside of another

The same tokens build the same tree wherever they stand, except that the groups that capture are
numbered from another number on. `Syntax.forget` forgets those numbers.

`Draft.Like` relates the draft of a pattern read by itself to the draft of the same tokens between
parentheses: the groups around the parentheses stay as they are, and what is built inside is equal
but for the numbers (`Like.foldlM`).
-/

namespace TokenClassifier.Regex

/-! ## Trees without numbers -/

/-- A tree in which every group that captures has the number zero. -/
def Syntax.forget : Syntax → Syntax
  | .capture _ inner => .capture 0 inner.forget
  | .scope changes inner => .scope changes inner.forget
  | .repeated count greedy inner => .repeated count greedy inner.forget
  | .concat a b => .concat a.forget b.forget
  | .alt a b => .alt a.forget b.forget
  | r => r

/-- The tree of a row without its numbers is the row of the trees without theirs. -/
theorem Syntax.forget_sequence : ∀ parts : List Syntax,
    (sequence parts).forget = sequence (parts.map forget)
  | [] => rfl
  | [_] => rfl
  | a :: b :: rest => congrArg (Syntax.concat a.forget) (forget_sequence (b :: rest))

/-- The same for the alternatives of a pattern. -/
theorem Syntax.forget_alternation : ∀ parts : List Syntax,
    (alternation parts).forget = alternation (parts.map forget)
  | [] => rfl
  | [_] => rfl
  | a :: b :: rest => congrArg (Syntax.alt a.forget) (forget_alternation (b :: rest))

namespace Branches

/-- Branches in which every group that captures has the number zero. -/
def forget (b : Branches) : Branches := ⟨b.ended.map Syntax.forget, b.parts.map Syntax.forget⟩

/-- Numbers may be forgotten before or after a piece is put behind the last branch. -/
theorem forget_push (b : Branches) (r : Syntax) : (b.push r).forget = b.forget.push r.forget := rfl

/-- Numbers may be forgotten before or after a new branch is begun. -/
theorem forget_bar (b : Branches) : b.bar.forget = b.forget.bar := by
  simp [forget, bar, Syntax.forget_sequence, List.map_reverse]

/-- Numbers may be forgotten before or after branches are read as one tree. -/
theorem forget_toSyntax (b : Branches) : b.toSyntax.forget = b.forget.toSyntax := by
  rw [toSyntax, Syntax.forget_alternation, List.map_reverse, toSyntax, ← forget_bar]
  rfl

/-- Repeating the last piece of a branch needs no numbers: it succeeds without them where it does
with them, and both results differ by the numbers only. -/
theorem forget_repeatLast (b : Branches) (count : Count) (greedy : Bool) :
    b.forget.repeatLast count greedy = (b.repeatLast count greedy).map forget := by
  obtain ⟨ended, parts⟩ := b
  cases parts with
  | nil => rfl
  | cons r rest => cases r <;> rfl

end Branches

/-- A kind of group in which one that captures has the number zero. -/
def GroupKind.forget : GroupKind → GroupKind
  | .capture _ => .capture 0
  | .scope changes => .scope changes

/-- Numbers may be forgotten before or after a group is closed. The kind of the group holds its own
number, which goes too. -/
theorem GroupKind.forget_toSyntax (kind : GroupKind) (r : Syntax) :
    (kind.toSyntax r).forget = kind.forget.toSyntax r.forget := by
  cases kind <;> rfl

/-- An open group with the alternatives around it, without numbers. -/
def forgetFrame (frame : GroupKind × Branches) : GroupKind × Branches :=
  (frame.1.forget, frame.2.forget)

/-! ## Drafts -/

namespace Draft

/-- Two drafts that differ only in numbers and names, the second one inside of further groups. -/
structure Like (further : List (GroupKind × Branches)) (d inner : Draft) : Prop where
  current : inner.current.forget = d.current.forget
  outer : ∃ frames, inner.outer = frames ++ further ∧
    frames.map forgetFrame = d.outer.map forgetFrame

variable {further : List (GroupKind × Branches)} {d d' inner inner' : Draft}

/-- Two drafts that are alike stay so when both open a group, even one of another number. Numbers
are what two patterns differ in when one of them has groups before the other begins. -/
theorem Like.enter (h : Like further d inner) {kind kind' : GroupKind}
    (same : kind'.forget = kind.forget) : Like further (d.enter kind) (inner.enter kind') := by
  obtain ⟨frames, houter, hframes⟩ := h.outer
  refine ⟨rfl, (kind', inner.current) :: frames, ?_, ?_⟩
  · simp [Draft.enter, houter]
  · simp [Draft.enter, forgetFrame, same, h.current] at hframes ⊢
    exact hframes

/-- Two drafts that are alike stay so when both get a piece, and the pieces are the same but for
their numbers. -/
theorem Like.push (h : Like further d inner) {r r' : Syntax} (same : r'.forget = r.forget) :
    Like further { d with current := d.current.push r }
      { inner with current := inner.current.push r' } :=
  ⟨by rw [Branches.forget_push, Branches.forget_push, h.current, same], h.outer⟩

/-- Two drafts that are alike stay so when both close a group. That both can is assumed here: it is
the further groups of the inner draft that make it able to close more of them. -/
theorem Like.leave (h : Like further d inner) (left : d.leave = .ok d')
    (left' : inner.leave = .ok inner') : Like further d' inner' := by
  obtain ⟨frames, houter, hframes⟩ := h.outer
  unfold Draft.leave at left left'
  split at left
  next => cases left
  next kind around outer hd =>
    rw [hd] at hframes
    cases frames with
    | nil => cases hframes
    | cons frame frames =>
      obtain ⟨kind', around'⟩ := frame
      rw [houter] at left'
      cases left
      cases left'
      simp only [List.map_cons, List.cons.injEq, forgetFrame, Prod.mk.injEq] at hframes
      obtain ⟨⟨hkind, haround⟩, hframes⟩ := hframes
      refine ⟨?_, frames, rfl, hframes⟩
      simp only [Branches.forget_push, GroupKind.forget_toSyntax, Branches.forget_toSyntax, hkind,
        haround, h.current]

/-- Names are noted beside the tree, so a name changes neither the branches nor the groups that are
open. -/
theorem addName_eq {name : Option String} (h : d.addName name = .ok d') :
    d'.next = d.next ∧ d'.current = d.current ∧ d'.outer = d.outer := by
  unfold addName at h
  split at h
  next => cases h; exact ⟨rfl, rfl, rfl⟩
  next =>
    split at h
    next => cases h
    next => cases h; exact ⟨rfl, rfl, rfl⟩

/-- A token does the same to both drafts. One case for each kind of token, by the lemmas above. -/
theorem Like.step (h : Like further d inner) {t : Token} (took : d.step t = .ok d')
    (took' : inner.step t = .ok inner') : Like further d' inner' := by
  cases t with
  | item r =>
    cases took
    cases took'
    exact h.push rfl
  | openCapture name =>
    obtain ⟨a, ha, heq⟩ := bind_eq_ok_iff.mp took
    obtain ⟨a', ha', heq'⟩ := bind_eq_ok_iff.mp took'
    cases heq
    cases heq'
    obtain ⟨_, hcurrent, houter⟩ := addName_eq ha
    obtain ⟨_, hcurrent', houter'⟩ := addName_eq ha'
    have named : Like further { a with next := a.next + 1 } { a' with next := a'.next + 1 } :=
      ⟨by rw [hcurrent, hcurrent', h.current], by rw [houter, houter']; exact h.outer⟩
    exact named.enter rfl
  | openScope changes =>
    cases took
    cases took'
    exact h.enter rfl
  | close => exact h.leave took took'
  | bar =>
    cases took
    cases took'
    exact ⟨by rw [Branches.forget_bar, Branches.forget_bar, h.current], h.outer⟩
  | flags changes =>
    cases took
    cases took'
    exact h.push rfl
  | repeated count greedy =>
    obtain ⟨b, hb, heq⟩ := bind_eq_ok_iff.mp took
    obtain ⟨b', hb', heq'⟩ := bind_eq_ok_iff.mp took'
    cases heq
    cases heq'
    have e := Branches.forget_repeatLast d.current count greedy
    have e' := Branches.forget_repeatLast inner.current count greedy
    rw [h.current, e, hb, hb'] at e'
    exact ⟨(Except.ok.inj e').symm, h.outer⟩

/-- A row of tokens does the same to both drafts, if both can read it. This is `Like.step` by
induction on the row. -/
theorem Like.foldlM (h : Like further d inner) {ts : List Token}
    (took : ts.foldlM Draft.step d = .ok d') (took' : ts.foldlM Draft.step inner = .ok inner') :
    Like further d' inner' := by
  induction ts generalizing d inner with
  | nil =>
    cases took
    cases took'
    exact h
  | cons t ts ih =>
    rw [List.foldlM_cons] at took took'
    obtain ⟨a, ha, took⟩ := bind_eq_ok_iff.mp took
    obtain ⟨a', ha', took'⟩ := bind_eq_ok_iff.mp took'
    exact ih (h.step ha ha') took took'

/-- Where the one pattern has closed all its groups, the other one stands inside of the further
groups, with the same tree. So a balanced pattern has the same meaning wherever it is written. -/
theorem Like.closed (h : Like further d inner) (closed : d.outer = []) :
    inner.outer = further ∧ inner.current.toSyntax.forget = d.current.toSyntax.forget := by
  obtain ⟨frames, houter, hframes⟩ := h.outer
  rw [closed] at hframes
  obtain rfl := List.map_eq_nil_iff.mp hframes
  exact ⟨houter, by rw [Branches.forget_toSyntax, Branches.forget_toSyntax, h.current]⟩

/-- A draft knows how many groups are open: counting brackets token by token gives the number of its
open groups. -/
theorem nest_of_step {t : Token} (took : d.step t = .ok d') :
    Token.nest d.outer.length t = some d'.outer.length := by
  cases t with
  | item | bar | flags => cases took; rfl
  | openCapture name =>
    obtain ⟨a, ha, heq⟩ := bind_eq_ok_iff.mp took
    cases heq
    obtain ⟨_, _, houter⟩ := addName_eq ha
    simp [Token.nest, enter, houter]
  | openScope => cases took; rfl
  | close =>
    change d.leave = _ at took
    unfold leave at took
    split at took
    next => cases took
    next kind around outer hd =>
      cases took
      simp [Token.nest, hd]
  | repeated =>
    obtain ⟨_, _, heq⟩ := bind_eq_ok_iff.mp took
    cases heq
    rfl

/-- The same for a row of tokens. What a draft can read is nested, and this is how a pattern that
reads is seen to close the groups that it opens. -/
theorem nest_of_foldlM {ts : List Token} (took : ts.foldlM step d = .ok d') :
    ts.foldlM Token.nest d.outer.length = some d'.outer.length := by
  induction ts generalizing d with
  | nil => cases took; rfl
  | cons t ts ih =>
    rw [List.foldlM_cons] at took ⊢
    obtain ⟨a, ha, took⟩ := bind_eq_ok_iff.mp took
    rw [nest_of_step ha]
    exact ih took

end Draft

end TokenClassifier.Regex
