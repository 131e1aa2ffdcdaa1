import TokenClassifier.Proofs.Regex.Concatenation

/-!
# Copies of a pattern in one text

A spliced pattern has a copy of the pattern for every reference. Each copy reads as the pattern does
by itself, but a text is refused for two reasons that concern it as a whole: a name may be given to
one group only, and constructs may only nest up to a limit. Nothing else is in the way
(`Pattern.exists_compile_splice_iff`).

Names are noted along the row of tokens, so the row succeeds inside of another pattern if it does by
itself and brings no name that is taken (`Draft.Like.exists_foldlM`). The depth is told from the
parts of the sequence that a spliced pattern is (`depth_spliceParts`).

An escaped text has no groups and nests nothing, so it compiles whatever the text is
(`Pattern.exists_compile_escape`).
-/

namespace TokenClassifier.Regex

open Template

/-! ## Names -/

namespace Token

/-- The name that a token gives to a group. -/
def name? : Token → Option String
  | .openCapture name => name
  | _ => none

/-- The names in a row of tokens. -/
def names (ts : List Token) : List String := ts.filterMap name?

/-- The names in two rows of tokens are those of the one and then those of the other. -/
theorem names_append (ts us : List Token) : names (ts ++ us) = names ts ++ names us :=
  List.filterMap_append

/-- Characters give no names, so the literal runs of a template add none. -/
theorem names_ofChar (text : List Char) : names (text.map ofChar) = [] := by
  induction text with
  | nil => rfl
  | cons c text ih => exact ih

end Token

namespace Draft

variable {further : List (GroupKind × Branches)} {d d' inner : Draft} {ts : List Token}

/-- A name is noted if it is new, and nothing else about the draft changes. Being taken twice is the
only thing that can be wrong with the name of a group that is read. -/
theorem addName_eq_ok_iff {name : Option String} :
    d.addName name = .ok d' ↔
      (∀ n ∈ name, n ∉ d.names) ∧ d' = { d with names := name.toList ++ d.names } := by
  cases name with
  | none =>
    change Except.ok d = .ok d' ↔ _ ∧ d' = d
    simp [eq_comm]
  | some n =>
    simp only [addName, List.contains_iff_mem]
    split
    next taken => simp [taken]
    next new => simp [new, eq_comm]

/-- A token notes the name that it gives, which has to be new. Tokens that give none leave the names
as they are. -/
theorem names_of_step {t : Token} (took : d.step t = .ok d') :
    (∀ n ∈ t.name?, n ∉ d.names) ∧ d'.names = t.name?.toList ++ d.names := by
  cases t with
  | item | openScope | bar | flags =>
    cases took
    exact ⟨nofun, rfl⟩
  | openCapture name =>
    obtain ⟨a, ha, heq⟩ := bind_eq_ok_iff.mp took
    cases heq
    obtain ⟨new, rfl⟩ := addName_eq_ok_iff.mp ha
    exact ⟨new, rfl⟩
  | close =>
    change d.leave = _ at took
    unfold leave at took
    split at took
    next => cases took
    next =>
      cases took
      exact ⟨nofun, rfl⟩
  | repeated =>
    obtain ⟨_, _, heq⟩ := bind_eq_ok_iff.mp took
    cases heq
    exact ⟨nofun, rfl⟩

/-- A row of tokens notes its names, newest first. By induction on the row. -/
theorem names_of_foldlM (took : ts.foldlM step d = .ok d') :
    d'.names = (Token.names ts).reverse ++ d.names := by
  induction ts generalizing d with
  | nil =>
    cases took
    rfl
  | cons t ts ih =>
    rw [List.foldlM_cons] at took
    obtain ⟨a, ha, took⟩ := bind_eq_ok_iff.mp took
    rw [ih took, (names_of_step ha).2]
    cases ht : t.name? <;> simp [Token.names, ht]

/-- No name is noted twice: taking a row of tokens keeps the names of a draft different. -/
theorem nodup_names_of_foldlM (took : ts.foldlM step d = .ok d') (h : d.names.Nodup) :
    d'.names.Nodup := by
  induction ts generalizing d with
  | nil =>
    cases took
    exact h
  | cons t ts ih =>
    rw [List.foldlM_cons] at took
    obtain ⟨a, ha, took⟩ := bind_eq_ok_iff.mp took
    obtain ⟨new, noted⟩ := names_of_step ha
    refine ih took ?_
    rw [noted]
    cases ht : t.name? with
    | none => exact h
    | some n => exact List.nodup_cons.mpr ⟨new n ht, h⟩

/-- The names in a row that is taken are different. This is the condition that copies of a pattern
with a name cannot meet. -/
theorem nodup_names (took : ts.foldlM step d = .ok d') (none : d.names = []) :
    (Token.names ts).Nodup := by
  have once := nodup_names_of_foldlM took (none ▸ List.nodup_nil)
  rw [names_of_foldlM took] at once
  exact (List.reverse_perm _).nodup_iff.mp (List.nodup_append.mp once).1

/-! ## Inside of another pattern -/

/-- A token that is taken by itself is taken inside of another pattern, if its name is not one of
those noted around it. Names are the only thing that can go wrong there which could not by itself,
since closing a group succeeds where it does with fewer of them open. -/
theorem Like.exists_step (h : Like further d inner) {old : List String}
    (noted : inner.names = d.names ++ old) {t : Token} (fresh : ∀ n ∈ t.name?, n ∉ old)
    (took : d.step t = .ok d') : ∃ inner', inner.step t = .ok inner' := by
  cases t with
  | item | openScope | bar | flags => exact ⟨_, rfl⟩
  | openCapture name =>
    have new := (names_of_step took).1
    have free : ∀ n ∈ name, n ∉ inner.names := by
      intro n hn
      rw [noted, List.mem_append, not_or]
      exact ⟨new n hn, fresh n hn⟩
    exact ⟨_, bind_eq_ok_iff.mpr ⟨_, addName_eq_ok_iff.mpr ⟨free, rfl⟩, rfl⟩⟩
  | close =>
    obtain ⟨frames, houter, hframes⟩ := h.outer
    change d.leave = _ at took
    unfold Draft.leave at took
    split at took
    next => cases took
    next hd =>
      rw [hd] at hframes
      cases frames with
      | nil => cases hframes
      | cons frame frames =>
        change ∃ inner', inner.leave = .ok inner'
        rw [Draft.leave, houter]
        exact ⟨_, rfl⟩
  | repeated count greedy =>
    obtain ⟨b, hb, _⟩ := bind_eq_ok_iff.mp took
    have same := Branches.forget_repeatLast inner.current count greedy
    rw [h.current, Branches.forget_repeatLast, hb] at same
    cases hb' : inner.current.repeatLast count greedy with
    | error e =>
      rw [hb'] at same
      cases same
    | ok b' => exact ⟨_, bind_eq_ok_iff.mpr ⟨b', hb', rfl⟩⟩

/-- A row of tokens that is taken by itself is taken inside of another pattern, if none of its names
is noted there. By induction on the row; the names noted meanwhile are the same in both drafts, so
only the older ones have to be compared. -/
theorem Like.exists_foldlM (h : Like further d inner) {old : List String}
    (noted : inner.names = d.names ++ old) (fresh : ∀ n ∈ Token.names ts, n ∉ old)
    (took : ts.foldlM Draft.step d = .ok d') :
    ∃ inner', ts.foldlM Draft.step inner = .ok inner' := by
  induction ts generalizing d inner with
  | nil => exact ⟨inner, rfl⟩
  | cons t ts ih =>
    rw [List.foldlM_cons] at took
    obtain ⟨a, ha, took⟩ := bind_eq_ok_iff.mp took
    have here : ∀ n ∈ t.name?, n ∉ old := fun n hn =>
      fresh n (List.mem_filterMap.mpr ⟨t, List.mem_cons_self, hn⟩)
    obtain ⟨a', ha'⟩ := h.exists_step noted here ha
    have noted' : a'.names = a.names ++ old := by
      rw [(names_of_step ha').2, (names_of_step ha).2, noted, List.append_assoc]
    have later : ∀ n ∈ Token.names ts, n ∉ old := fun n hn => by
      obtain ⟨u, hu, hname⟩ := List.mem_filterMap.mp hn
      exact fresh n (List.mem_filterMap.mpr ⟨u, List.mem_cons_of_mem _ hu, hname⟩)
    obtain ⟨inner', took'⟩ := ih (h.step ha ha') noted' later took
    refine ⟨inner', ?_⟩
    rw [List.foldlM_cons]
    exact bind_eq_ok_iff.mpr ⟨a', ha', took'⟩

end Draft

/-! ## The row of a spliced pattern -/

/-- Parentheses around a pattern give no name. -/
theorem Token.names_group (ts : List Token) :
    names (.openScope [] :: (ts ++ [.close])) = names ts := by
  change names (ts ++ [.close]) = names ts
  rw [names_append]
  exact List.append_nil _

/-- A spliced pattern has the names of the pattern once for every reference. The references are not
asked for their indices: every one of them stands for a copy of the whole pattern. -/
theorem Token.names_spliceTokens (ts : List Token) (segs : List Segment) :
    names (spliceTokens ts segs) = (List.replicate (references segs) (names ts)).flatten := by
  induction segs with
  | nil => rfl
  | cons seg segs ih =>
    cases seg with
    | literal text => rw [spliceTokens, names_append, names_ofChar, ih, references, List.nil_append]
    | group index =>
      rw [spliceTokens, names_append, names_group, ih, references, List.replicate_succ,
        List.flatten_cons]

/-- Copies of different names are different only if there is one copy, or no name. So a start with a
named group and a template with two references do not go together. -/
theorem Token.nodup_names_spliceTokens_iff {ts : List Token} (once : (names ts).Nodup)
    {segs : List Segment} :
    (names (spliceTokens ts segs)).Nodup ↔ names ts = [] ∨ references segs ≤ 1 := by
  rw [names_spliceTokens]
  match references segs with
  | 0 => simp
  | 1 => simp [once]
  | n + 2 =>
    simp only [List.replicate_succ, List.flatten_cons]
    constructor
    · intro h
      refine .inl (List.eq_nil_iff_forall_not_mem.mpr fun name mem => ?_)
      exact (List.nodup_append.mp h).2.2 name mem name (List.mem_append_left _ mem) rfl
    · rintro (none | few)
      · simp [none]
      · omega

namespace Draft

variable {ts : List Token} {tree : Syntax} {d : Draft}

/-- A pattern between parentheses is taken everywhere, if its names are new. It closes all the
groups that it opens, so the parenthesis after it closes the one before it. -/
theorem exists_foldlM_group (htree : Syntax.ofTokens ts = .ok tree)
    (fresh : ∀ n ∈ Token.names ts, n ∉ d.names) :
    ∃ d', (.openScope [] :: (ts ++ [.close])).foldlM step d = .ok d' := by
  obtain ⟨_, took₀, _⟩ := Syntax.ofTokens_eq_ok_iff.mp htree
  have start : Like ((.scope [], d.current) :: d.outer) .empty (d.enter (.scope [])) :=
    ⟨rfl, [], rfl, rfl⟩
  obtain ⟨e, took⟩ := start.exists_foldlM rfl fresh took₀
  obtain ⟨houter, _⟩ := Syntax.forget_of_foldlM htree rfl took
  change ∃ d', (ts ++ [Token.close]).foldlM step (d.enter (.scope [])) = .ok d'
  rw [List.foldlM_append, took]
  refine ⟨{ e with current := d.current.push (.scope [] e.current.toSyntax), outer := d.outer }, ?_⟩
  simp [step, leave, houter, enter, GroupKind.toSyntax]

/-- A spliced pattern is taken if all its names are new, among themselves and beside those noted
before. By induction on the segments. -/
theorem exists_foldlM_splice (htree : Syntax.ofTokens ts = .ok tree) {segs : List Segment}
    (fresh : (Token.names (spliceTokens ts segs) ++ d.names).Nodup) :
    ∃ d', (spliceTokens ts segs).foldlM step d = .ok d' := by
  induction segs generalizing d with
  | nil => exact ⟨d, rfl⟩
  | cons seg segs ih =>
    cases seg with
    | literal text =>
      rw [spliceTokens, Token.names_append, Token.names_ofChar, List.nil_append] at fresh
      rw [spliceTokens, List.foldlM_append, foldlM_ofChar]
      exact ih fresh
    | group index =>
      rw [spliceTokens, Token.names_append, Token.names_group] at fresh
      have new : ∀ n ∈ Token.names ts, n ∉ d.names := fun n hn taken =>
        (List.nodup_append.mp fresh).2.2 n (List.mem_append_left _ hn) n taken rfl
      obtain ⟨e, group⟩ := exists_foldlM_group htree new
      have moved : (Token.names (spliceTokens ts segs) ++ e.names).Perm
          (Token.names ts ++ Token.names (spliceTokens ts segs) ++ d.names) := by
        rw [names_of_foldlM group, Token.names_group, ← List.append_assoc]
        refine List.Perm.append_right _ (List.perm_append_comm.trans ?_)
        exact List.Perm.append_right _ (List.reverse_perm _)
      obtain ⟨d', took⟩ := ih (moved.nodup_iff.mpr fresh)
      refine ⟨d', ?_⟩
      rw [spliceTokens, List.foldlM_append]
      exact bind_eq_ok_iff.mpr ⟨e, group, took⟩

end Draft

/-! ## Depth -/

namespace Syntax

/-- Numbers do not matter for how deep constructs nest, nor for the depths as a part of a row, from
which that is computed. -/
theorem depths_forget (tree : Syntax) : tree.forget.depths = tree.depths := by
  induction tree with
  | capture _ inner ih | scope _ inner ih | repeated _ _ inner ih => simp only [forget, depths, ih]
  | concat a b iha ihb | alt a b iha ihb => simp only [forget, depths, iha, ihb]
  | _ => rfl

/-- A tree that is no sequence, so that as a part of one it counts as deep as by itself. -/
def IsPart (r : Syntax) : Prop := r.depths.2.1 = r.depth

/-- The deepest part of a sequence is either its first part or the deepest one of the rest. -/
theorem row_sequence_cons {a : Syntax} (part : a.IsPart) (rest : List Syntax) :
    (sequence (a :: rest)).depths.2.1 = max a.depth (sequence rest).depths.2.1 := by
  cases rest with
  | nil => exact part.trans (Nat.max_zero _).symm
  | cons b rest => rfl

/-- A sequence of several parts counts as one construct more than its deepest part. -/
theorem depth_sequence_cons_cons (a b : Syntax) (rest : List Syntax) :
    (sequence (a :: b :: rest)).depth = (sequence (a :: b :: rest)).depths.2.1 + 1 := rfl

/-- A sequence of any number of parts counts as at most one construct more. A single part is not
wrapped, so it may be one less. -/
theorem depth_sequence_le {parts : List Syntax} (all : ∀ part ∈ parts, part.IsPart) :
    (sequence parts).depth ≤ (sequence parts).depths.2.1 + 1 := by
  match parts with
  | [] => exact Nat.zero_le _
  | [a] => exact Nat.le_succ_of_le (Nat.le_of_eq (all a List.mem_cons_self).symm)
  | a :: b :: rest => exact Nat.le_of_eq (depth_sequence_cons_cons a b rest)

/-- The anchors and the group between them add two levels: one for the sequence and one for the
group. -/
theorem depth_anchored (tree : Syntax) :
    (Syntax.concat (.anchor .textStart)
      (.concat (.scope [] tree) (.anchor .textEnd))).depth = tree.depth + 2 := by
  simp [depth, depths]

end Syntax

/-- A part of a spliced pattern is a character or a copy of the pattern, in its group. -/
theorem eq_of_mem_spliceParts {tree part : Syntax} {segs : List Segment}
    (mem : part ∈ spliceParts tree segs) : (∃ c, part = .ofChar c) ∨ part = .scope [] tree := by
  induction segs with
  | nil => cases mem
  | cons seg segs ih =>
    cases seg with
    | literal text =>
      rcases List.mem_append.mp mem with char | later
      · obtain ⟨c, _, rfl⟩ := List.mem_map.mp char
        exact .inl ⟨c, rfl⟩
      · exact ih later
    | group index =>
      rcases List.mem_cons.mp mem with copy | later
      · exact .inr copy
      · exact ih later

/-- The parts of a spliced pattern are no sequences themselves, so in a row they count as deep as by
themselves. -/
theorem isPart_of_mem_spliceParts {tree part : Syntax} {segs : List Segment}
    (mem : part ∈ spliceParts tree segs) : part.IsPart := by
  rcases eq_of_mem_spliceParts mem with ⟨c, rfl⟩ | rfl <;> rfl

/-- The deepest part of a spliced pattern is a copy of the pattern, in the group around it. Without
references there is none, and characters do not nest. -/
theorem row_spliceParts (tree : Syntax) (segs : List Segment) :
    (Syntax.sequence (spliceParts tree segs)).depths.2.1 =
      if references segs = 0 then 0 else tree.depth + 1 := by
  induction segs with
  | nil => rfl
  | cons seg segs ih =>
    cases seg with
    | literal text =>
      rw [spliceParts, references, ← ih]
      induction text with
      | nil => rfl
      | cons c text run =>
        have char : (Syntax.ofChar c).IsPart := rfl
        rw [List.map_cons, List.cons_append, Syntax.row_sequence_cons char, run]
        exact Nat.zero_max _
    | group index =>
      have copy : (Syntax.scope [] tree).IsPart := rfl
      have deeper : (Syntax.scope [] tree).depth = tree.depth + 1 := rfl
      rw [spliceParts, references, Syntax.row_sequence_cons copy, ih, deeper,
        if_neg (Nat.succ_ne_zero _)]
      split <;> omega

/-- A spliced pattern has at least as many parts as the template has segments, since no literal run
is empty. Whether there are several parts decides whether there is a sequence around them. -/
theorem length_le_spliceParts (tree : Syntax) {segs : List Segment}
    (runs : ∀ text, .literal text ∈ segs → text ≠ []) :
    segs.length ≤ (spliceParts tree segs).length := by
  induction segs with
  | nil => exact Nat.le_refl _
  | cons seg segs ih =>
    have later := ih fun text mem => runs text (List.mem_cons_of_mem _ mem)
    cases seg with
    | literal text =>
      have some := List.length_pos_iff.mpr (runs text List.mem_cons_self)
      simp only [spliceParts, List.length_append, List.length_map, List.length_cons]
      omega
    | group index =>
      simp only [spliceParts, List.length_cons]
      omega

/-- How deep a spliced pattern nests: a copy is a group of its own, and what stands beside it makes
a sequence around it. That there are several copies makes no difference to the depth. -/
theorem depth_spliceParts (tree : Syntax) {segs : List Segment}
    (runs : ∀ text, .literal text ∈ segs → text ≠ []) (refers : references segs ≠ 0) :
    (Syntax.sequence (spliceParts tree segs)).depth =
      tree.depth + if segs.length = 1 then 1 else 2 := by
  match segs with
  | [] => exact absurd rfl refers
  | [.literal _] => exact absurd rfl refers
  | [.group _] => rfl
  | first :: second :: segs =>
    have parts := length_le_spliceParts tree runs
    have row := row_spliceParts tree (first :: second :: segs)
    rw [if_neg refers] at row
    match spliceParts tree (first :: second :: segs), parts, row with
    | a :: b :: rest, _, row =>
      rw [Syntax.depth_sequence_cons_cons, row]
      simp

/-! ## Meaning -/

/-- A sequence means something if each part does and leaves the flags as they are. Without the
second half a part could set a flag under which a later one means nothing. -/
theorem exists_toTerm_sequence {parts : List Syntax}
    (means : ∀ part ∈ parts, ∃ r, part.toTerm {} = .ok (r, {})) :
    ∃ r, (Syntax.sequence parts).toTerm {} = .ok (r, {}) := by
  induction parts with
  | nil => exact ⟨.empty, rfl⟩
  | cons a parts ih =>
    obtain ⟨ra, ha⟩ := means a List.mem_cons_self
    obtain ⟨rest, hrest⟩ := ih fun part mem => means part (List.mem_cons_of_mem _ mem)
    cases parts with
    | nil => exact ⟨ra, ha⟩
    | cons b parts =>
      exact ⟨.seq ra rest, bind_eq_ok_iff.mpr ⟨_, ha, bind_eq_ok_iff.mpr ⟨_, hrest, rfl⟩⟩⟩

/-- What is spliced means something if the pattern does. Flags that the pattern sets for its own
rest end with the group around it, so the next copy begins with the initial ones. -/
theorem exists_toTerm_spliceParts {tree : Syntax} {r : Term} {m : Mode}
    (hr : tree.toTerm {} = .ok (r, m)) (segs : List Segment) :
    ∃ s, (Syntax.sequence (spliceParts tree segs)).toTerm {} = .ok (s, {}) := by
  refine exists_toTerm_sequence fun part mem => ?_
  rcases eq_of_mem_spliceParts mem with ⟨c, rfl⟩ | rfl
  · exact ⟨.chars (.one c), rfl⟩
  · exact ⟨r, bind_eq_ok_iff.mpr ⟨_, hr, rfl⟩⟩

namespace Pattern

/-- A spliced pattern compiles exactly if no name is given twice in it and it nests within the
limit. Reading the row, building the tree and settling the flags have a lemma each above, and of the
three only the second can fail. -/
theorem exists_compile_splice_iff {start : List Char} {ts : List Token}
    (alone : Token.ReadsAlone start ts) {tree : Syntax} (htree : Syntax.ofTokens ts = .ok tree)
    {r : Term} {m : Mode} (hr : tree.toTerm {} = .ok (r, m)) {p : String} {segs : List Segment}
    (hp : p.toList = splice start segs) :
    (∃ pattern, compile (anchor p) = .ok pattern) ↔
      (Token.names (spliceTokens ts segs)).Nodup ∧
        (Syntax.sequence (spliceParts tree segs)).depth + 2 ≤ Syntax.depthLimit := by
  have spliced := readsAlone_splice alone segs
  rw [← hp] at spliced
  have depth : ∀ {d : Draft}, (spliceTokens ts segs).foldlM Draft.step .anchored = .ok d →
      (Syntax.concat (.anchor .textStart)
        (.concat (.scope [] d.current.toSyntax) (.anchor .textEnd))).depth =
          (Syntax.sequence (spliceParts tree segs)).depth + 2 := by
    intro d took
    have same := (Draft.forget_splice htree took).2
    rw [Syntax.depth_anchored, Syntax.depth, ← Syntax.depths_forget, same, Syntax.depths_forget,
      Syntax.depth]
  constructor
  · rintro ⟨pattern, compiled⟩
    obtain ⟨whole, _, _, hparse, _⟩ := compile_eq_ok_iff.mp compiled
    obtain ⟨d, took, shape⟩ := parse_anchor spliced hparse
    obtain rfl := shape (Draft.forget_splice htree took).1
    refine ⟨?_, ?_⟩
    · exact Draft.nodup_names took rfl
    · rw [← depth took]
      exact Syntax.depth_le_of_parse hparse
  · rintro ⟨once, shallow⟩
    obtain ⟨d, took⟩ := @Draft.exists_foldlM_splice ts tree .anchored htree segs
      (by rwa [Draft.anchored, List.append_nil])
    obtain ⟨houter, same⟩ := Draft.forget_splice htree took
    obtain ⟨s, hs⟩ := exists_toTerm_spliceParts hr segs
    obtain ⟨s', hs', _⟩ := Syntax.toTerm_of_forget same.symm hs
    have hparse := parse_anchor_of_foldlM spliced took houter rfl (depth took ▸ shallow)
    exact ⟨_, compile_eq_ok_iff.mpr ⟨_, _, _, hparse, toTerm_anchored hs', rfl⟩⟩

/-- An escaped text compiles, whatever the text is. It is the spliced pattern of a template without
references, so it has no names, and its depth does not grow with its length. -/
theorem exists_compile_escape (text : String) :
    ∃ pattern, compile (anchor (escape text)) = .ok pattern := by
  refine (exists_compile_splice_iff readsAlone_nil rfl rfl (toList_escape text)).mpr ⟨?_, ?_⟩
  · rw [Token.names_spliceTokens]
    exact List.nodup_nil
  · show (Syntax.sequence (spliceParts .empty [.literal text.toList])).depth + 2 ≤ 250
    have flat := @Syntax.depth_sequence_le (spliceParts .empty [.literal text.toList])
      fun _ mem => isPart_of_mem_spliceParts mem
    have none : references [.literal text.toList] = 0 := rfl
    rw [row_spliceParts, if_pos none] at flat
    exact Nat.le_trans (Nat.add_le_add_right flat 2) (by decide)

end Pattern

end TokenClassifier.Regex
