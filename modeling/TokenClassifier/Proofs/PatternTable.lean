import Mathlib.Data.List.Forall2
import TokenClassifier.PatternTable
import TokenClassifier.Proofs.Except
import TokenClassifier.Proofs.Lists
import TokenClassifier.Proofs.Regex.Pattern

/-!
# What a table answers

A table is built if every pattern in it compiles, and it then answers as if its entries were asked
one after the other (`lookup?_of_build`): whether a pattern matches a token has nothing to do with
the patterns around it. If it cannot be built, the first pattern that does not compile is to blame
(`error?_build`).
-/

namespace TokenClassifier

/-- The groups of a token that a pattern matches as a whole. -/
def tokenGroups? (pattern token : String) : Option (List String) :=
  (Regex.Pattern.compile (anchor pattern)).toOption.bind (·.captures? token)

/-- Whether a pattern matches a token as a whole. -/
def matchesToken (pattern token : String) : Bool := (tokenGroups? pattern token).isSome

/-- A pattern that can stand in a table. -/
def Compiles (pattern : String) : Prop := ∃ p, Regex.Pattern.compile (anchor pattern) = .ok p

/-- A pattern that is a regular expression by itself, with nothing put around it. -/
def CompilesAlone (pattern : String) : Prop := ∃ p, Regex.Pattern.compile pattern = .ok p

instance (pattern : String) : Decidable (Compiles pattern) :=
  inferInstanceAs (Decidable (∃ p, Regex.Pattern.compile (anchor pattern) = .ok p))

instance (pattern : String) : Decidable (CompilesAlone pattern) :=
  inferInstanceAs (Decidable (∃ p, Regex.Pattern.compile pattern = .ok p))

/-- The groups of a token under a pattern are those that the compiled pattern captures, between the
anchors. -/
theorem tokenGroups?_of_compile {pattern token : String} {p : Regex.Pattern}
    (h : Regex.Pattern.compile (anchor pattern) = .ok p) :
    tokenGroups? pattern token = p.captures? token := by
  rw [tokenGroups?, h]
  rfl

/-- A pattern matches a token if the compiled pattern does, between the anchors. -/
theorem matchesToken_of_compile {pattern token : String} {p : Regex.Pattern}
    (h : Regex.Pattern.compile (anchor pattern) = .ok p) :
    matchesToken pattern token = p.isMatch token := by
  rw [matchesToken, tokenGroups?_of_compile h, Regex.Pattern.isMatch]

/-- A token has groups under a pattern exactly if the pattern compiles and captures them. A pattern
that does not compile gives none, rather than an error. -/
theorem tokenGroups?_eq_some_iff {pattern token : String} {groups : List String} :
    tokenGroups? pattern token = some groups ↔
      ∃ p, Regex.Pattern.compile (anchor pattern) = .ok p ∧ p.captures? token = some groups := by
  unfold tokenGroups?
  cases Regex.Pattern.compile (anchor pattern) with
  | error fault => simp [Except.toOption]
  | ok p => simp [Except.toOption]

/-- A pattern that matches a token can stand in a table. -/
theorem compiles_of_tokenGroups? {pattern token : String} {groups : List String}
    (h : tokenGroups? pattern token = some groups) : Compiles pattern := by
  obtain ⟨p, hp, _⟩ := tokenGroups?_eq_some_iff.mp h
  exact ⟨p, hp⟩

/-- A group of a token has no character that the token does not have. -/
theorem mem_of_tokenGroups? {pattern token : String} {groups : List String}
    (h : tokenGroups? pattern token = some groups) {group : String} (mem : group ∈ groups)
    {c : Char} (hc : c ∈ group.toList) : c ∈ token.toList := by
  obtain ⟨p, _, captured⟩ := tokenGroups?_eq_some_iff.mp h
  exact Regex.Pattern.mem_of_captures? captured mem hc

/-- What is wrong with a pattern that stands at some place, if it cannot stand in a table. -/
def patternFault? (origin : Origin) (pattern : String) : Option PatternError :=
  match Regex.Pattern.compile (anchor pattern) with
  | .ok _ => none
  | .error fault => some ⟨origin, pattern, fault⟩

/-- There is no fault of a pattern exactly if it compiles. -/
theorem patternFault?_eq_none_iff {origin : Origin} {pattern : String} :
    patternFault? origin pattern = none ↔ Compiles pattern := by
  unfold patternFault? Compiles
  cases Regex.Pattern.compile (anchor pattern) <;> simp

/-- The fault of a pattern bears the place where it stands and the pattern as it was written,
without the anchors with which it was compiled. -/
theorem patternFault?_eq_some_iff {origin : Origin} {pattern : String} {e : PatternError} :
    patternFault? origin pattern = some e ↔ ∃ fault,
      Regex.Pattern.compile (anchor pattern) = .error fault ∧ e = ⟨origin, pattern, fault⟩ := by
  unfold patternFault?
  cases Regex.Pattern.compile (anchor pattern) with
  | ok _ => simp
  | error fault => simp [eq_comm]

variable {α : Type}

/-- Compiling an entry fails with the fault of its pattern. -/
theorem Entry.error?_compile (e : Entry α) :
    error? e.compile = patternFault? e.origin e.pattern := by
  unfold Entry.compile patternFault?
  cases Regex.Pattern.compile (anchor e.pattern) <;> rfl

/-- An entry compiles to what its pattern compiles to between the anchors. -/
theorem Entry.compile_eq_ok_iff {e : Entry α} {p : Regex.Pattern} :
    e.compile = .ok p ↔ Regex.Pattern.compile (anchor e.pattern) = .ok p := by
  unfold Entry.compile
  cases Regex.Pattern.compile (anchor e.pattern) <;> simp [Except.mapError]

namespace PatternTable

/-! ## Building -/

/-- A table in step with a list of entries: place by place it has the pattern of the entry,
compiled, in the set and by itself, and the value of the entry. -/
structure InStep (entries : List (Entry α)) (t : PatternTable α) : Prop where
  patterns : List.Forall₂ (fun e p => Regex.Pattern.compile (anchor e.pattern) = .ok p)
    entries t.patterns
  set : t.set = ⟨t.patterns⟩
  values : t.values = entries.map Entry.value

/-- A row of entries is compiled one by one, and each of them adds to every column. -/
theorem compileAll_cons_eq_ok_iff {e : Entry α} {entries : List (Entry α)}
    {columns : List Regex.Pattern × List String × List α} :
    compileAll (e :: entries) = .ok columns ↔ ∃ p rest, e.compile = .ok p ∧
      compileAll entries = .ok rest ∧
      columns = (p :: rest.1, anchor e.pattern :: rest.2.1, e.value :: rest.2.2) := by
  rw [compileAll, bind_eq_ok_iff]
  refine exists_congr fun p => ?_
  rw [bind_eq_ok_iff, ← exists_and_left]
  refine exists_congr fun ⟨ps, sources, values⟩ => and_congr_right fun _ =>
    and_congr_right fun _ => ?_
  dsimp only
  rw [pure_eq_ok, Except.ok.injEq]
  exact eq_comm

/-- The columns of a table are those of its entries, in order. By induction on the entries. -/
theorem compileAll_eq_ok_iff {entries : List (Entry α)} {patterns : List Regex.Pattern}
    {sources : List String} {values : List α} :
    compileAll entries = .ok (patterns, sources, values) ↔
      List.Forall₂ (fun e p => Regex.Pattern.compile (anchor e.pattern) = .ok p)
        entries patterns ∧
      sources = entries.map (fun e => anchor e.pattern) ∧ values = entries.map Entry.value := by
  induction entries generalizing patterns sources values with
  | nil => simp [compileAll, eq_comm]
  | cons e entries ih =>
    rw [compileAll_cons_eq_ok_iff]
    constructor
    · rintro ⟨p, ⟨ps, ss, vs⟩, hp, hrest, heq⟩
      cases heq
      obtain ⟨compiled, rfl, rfl⟩ := ih.mp hrest
      exact ⟨.cons (Entry.compile_eq_ok_iff.mp hp) compiled, rfl, rfl⟩
    · rintro ⟨compiled, rfl, rfl⟩
      cases compiled with
      | cons hp compiled =>
        exact ⟨_, (_, _, _), Entry.compile_eq_ok_iff.mpr hp, ih.mpr ⟨compiled, rfl, rfl⟩, rfl⟩

/-- A table is built exactly if it is in step with its entries: its columns and its set are those of
the entries, in the same order. -/
theorem build_eq_ok_iff {entries : List (Entry α)} {t : PatternTable α} :
    build entries = .ok t ↔ InStep entries t := by
  obtain ⟨set, patterns, values⟩ := t
  -- the set is compiled from the same texts as the patterns one by one
  have texts : ∀ {ps : List Regex.Pattern},
      List.Forall₂ (fun e p => Regex.Pattern.compile (anchor e.pattern) = .ok p) entries ps →
      Regex.PatternSet.compile (entries.map fun e => anchor e.pattern) = .ok ⟨ps⟩ := by
    intro ps compiled
    rw [Regex.PatternSet.compile_eq_ok_iff, List.forall₂_map_left_iff]
    exact compiled
  unfold build
  constructor
  · intro h
    obtain ⟨⟨ps, sources, vs⟩, hcolumns, h⟩ := bind_eq_ok_iff.mp h
    obtain ⟨compiled, rfl, rfl⟩ := compileAll_eq_ok_iff.mp hcolumns
    dsimp only at h
    rw [texts compiled] at h
    cases h
    exact ⟨compiled, rfl, rfl⟩
  · rintro ⟨compiled, hset, hvalues⟩
    dsimp only at compiled hset hvalues
    subst hset hvalues
    refine bind_eq_ok_iff.mpr ⟨_, compileAll_eq_ok_iff.mpr ⟨compiled, rfl, rfl⟩, ?_⟩
    dsimp only
    rw [texts compiled]
    rfl

/-- Compiling a row of entries fails with the first fault among their patterns. -/
theorem error?_compileAll (entries : List (Entry α)) :
    error? (compileAll entries) = entries.findSome? fun e => patternFault? e.origin e.pattern := by
  induction entries with
  | nil => rfl
  | cons e entries ih =>
    rw [compileAll, error?_bind (e := error? (compileAll entries)), ih, Entry.error?_compile,
      findSome?_cons_or]
    intro p _
    rw [error?_bind (e := none) fun _ _ => rfl, Option.or_none]

/-- A table fails with the fault of the first pattern that does not compile. If there is none, the
set can be compiled too, so nothing is left that could be reported of the table as a whole. -/
theorem error?_build (entries : List (Entry α)) :
    error? (build entries) = entries.findSome? fun e => patternFault? e.origin e.pattern := by
  rw [build, error?_bind (e := none), Option.or_none, error?_compileAll]
  rintro ⟨patterns, sources, values⟩ hcolumns
  obtain ⟨compiled, rfl, rfl⟩ := compileAll_eq_ok_iff.mp hcolumns
  obtain ⟨t, h⟩ : ∃ t, build entries = .ok t :=
    ⟨⟨⟨patterns⟩, patterns, _⟩, build_eq_ok_iff.mpr ⟨compiled, rfl, rfl⟩⟩
  rw [error?_eq_none_iff]
  obtain ⟨columns, hcolumns', h⟩ := bind_eq_ok_iff.mp h
  cases hcolumns.symm.trans hcolumns'
  exact ⟨t, h⟩

/-- A table is built exactly if all its patterns compile. -/
theorem exists_build_iff {entries : List (Entry α)} :
    (∃ t, build entries = .ok t) ↔ ∀ e ∈ entries, Compiles e.pattern := by
  rw [← error?_eq_none_iff, error?_build, List.findSome?_eq_none_iff]
  exact forall₂_congr fun _ _ => patternFault?_eq_none_iff

/-! ## Looking up -/

/-- The first pattern answers if it matches the token, and otherwise the patterns after it do. The
set and the columns are taken apart together, which is why this is said of a table written out. -/
theorem lookup?_cons (p : Regex.Pattern) (ps : List Regex.Pattern) (v : α) (vs : List α)
    (token : String) :
    lookup? ⟨⟨p :: ps⟩, p :: ps, v :: vs⟩ token =
      ((p.captures? token).map fun groups => (v, groups)).or (lookup? ⟨⟨ps⟩, ps, vs⟩ token) := by
  simp only [lookup?, Regex.PatternSet.head?_hits, List.findIdx?_cons, Regex.Pattern.isMatch]
  cases hp : p.captures? token with
  | some groups => simp [hp]
  | none =>
    simp only [Option.isSome_none, Bool.false_eq_true, if_false, Option.map_none, Option.none_or]
    cases ps.findIdx? fun q => (q.captures? token).isSome with
    | none => rfl
    | some place => simp

variable {entries : List (Entry α)} {t : PatternTable α}

/-- The first entry whose pattern matches a token answers for it, with its value and its own groups.
All that is said of looking up in later modules goes back to this. -/
theorem lookup?_of_build (h : build entries = .ok t) (token : String) :
    t.lookup? token = entries.findSome? fun e =>
      (tokenGroups? e.pattern token).map fun groups => (e.value, groups) := by
  obtain ⟨compiled, hset, hvalues⟩ := build_eq_ok_iff.mp h
  clear h
  obtain ⟨set, patterns, values⟩ := t
  dsimp only at compiled hset hvalues
  subst hset hvalues
  induction compiled with
  | nil => rfl
  | cons hp _ ih =>
    rw [List.map_cons, lookup?_cons, ih, findSome?_cons_or, tokenGroups?_of_compile hp]

/-- The value of the first entry whose pattern matches a token. -/
theorem value_of_build (h : build entries = .ok t) (token : String) :
    (t.lookup? token).map Prod.fst =
      entries.findSome? fun e => if matchesToken e.pattern token then some e.value else none := by
  rw [lookup?_of_build h, List.map_findSome?]
  refine findSome?_congr fun e _ => ?_
  cases hg : tokenGroups? e.pattern token with
  | none => simp [matchesToken, hg]
  | some groups => simp [matchesToken, hg]

/-- A table matches a token exactly if the pattern of one of its entries does. -/
theorem isMatch_of_build (h : build entries = .ok t) (token : String) :
    t.isMatch token = entries.any fun e => matchesToken e.pattern token := by
  have inStep := build_eq_ok_iff.mp h
  have compiled := inStep.patterns
  rw [isMatch, Regex.PatternSet.isMatch, inStep.set]
  clear h inStep
  generalize t.patterns = patterns at compiled
  induction compiled with
  | nil => rfl
  | cons hp _ ih => rw [List.any_cons, List.any_cons, ih, matchesToken_of_compile hp]

/-- A table has as many patterns as it was built from entries. -/
theorem size_of_build (h : build entries = .ok t) : t.size = entries.length := by
  rw [size, (build_eq_ok_iff.mp h).values, List.length_map]

end PatternTable

end TokenClassifier
