import TokenClassifier.Proofs.Classification
import TokenClassifier.Proofs.WholeToken

/-!
# Patterns made from templates

A rule without an end pattern is recognised by patterns that are made from its templates. This
module says which tokens such a pattern matches, and when it is a pattern at all.

Where the start pattern is a regular expression by itself and asks for no condition on a place, the
pattern matches the language of the template: its literal runs, with a token of the start pattern
for every reference (`matchesToken_wholeMatchPattern_iff`). The tokens need not be the same.

Binding fails for no other reason than such a pattern, where all patterns of the record compile
(`exists_bind_iff`). If the start pattern is a regular expression by itself, there are two reasons
for which the pattern made from it is none (`Splices`): a named group would occur twice, or the
text that is put around the start pattern nests it too deep.
-/

namespace TokenClassifier

open Regex

/-! ## What is matched -/

/-- A pattern in which no condition on a place is written. -/
def AssertionFree (pattern : String) : Prop :=
  ∃ tree, Syntax.parse pattern = .ok tree ∧ tree.anchorFree = true

/-- The pattern of a template matches the literal runs of the template around tokens of the start
pattern, one for each reference, and nothing else. Without conditions on places a part matches as it
would by itself, so the tokens may be told by the start pattern alone. -/
theorem matchesToken_wholeMatchPattern_iff {template start : String}
    (alone : CompilesAlone start) (starts : Compiles start) (plain : AssertionFree start)
    (compiles : Compiles (Forms.wholeMatchPattern template start)) (token : String) :
    matchesToken (Forms.wholeMatchPattern template start) token = true ↔
      ∃ parts : List String, parts.length = Template.references (Template.segments template) ∧
        (∀ part ∈ parts, matchesToken start part = true) ∧
        token.toList = Template.weave (Template.segments template) (parts.map String.toList) := by
  obtain ⟨ts, tree, r, reading⟩ := exists_readsAs alone starts
  obtain ⟨m, hr⟩ := reading.means
  obtain ⟨tree', hparse, free⟩ := plain
  obtain rfl := Except.ok.inj (reading.parse.symm.trans hparse)
  have lookFree := Syntax.lookFree_toTerm tree free hr
  obtain ⟨p, hp⟩ := starts
  obtain ⟨q, hq⟩ := compiles
  have each : ∀ part, matchesToken start part = true ↔
      r.Matches part.toList.toArray 0 part.toList.length := fun part => by
    rw [matchesToken_of_compile hp]
    exact Pattern.isMatch_anchor_alone hparse hr hp
  rw [matchesToken_of_compile hq, Pattern.isMatch_splice reading.alone reading.built hr
    (toList_wholeMatchPattern template start) hq]
  refine (@fits_iff_weave r lookFree (Template.segments template) [] token.toList).trans ?_
  constructor
  · rintro ⟨parts, count, matched, woven⟩
    refine ⟨parts.map String.ofList, ?_, ?_, ?_⟩
    · rw [List.length_map, count]
    · rw [List.forall_mem_map]
      intro part mem
      rw [each, String.toList_ofList]
      exact matched part mem
    · rw [woven, List.map_map]
      simp [Function.comp_def]
  · rintro ⟨parts, count, matched, woven⟩
    refine ⟨parts.map String.toList, ?_, ?_, woven⟩
    · rw [List.length_map, count]
    · rw [List.forall_mem_map]
      exact fun part mem => (each part).mp (matched part mem)

/-- The tokens in place of the references need not be the same. -/
theorem matchesToken_wholeMatchPattern_loop :
    matchesToken (Forms.wholeMatchPattern "end $0-$0!" "if|while|(x+)") "end if-xx!" = true := by
  have reads : Syntax.parse "if|while|(x+)" = .ok (.alt (.sequence ("if".toList.map .ofChar))
      (.alt (.sequence ("while".toList.map .ofChar))
        (.capture 1 (.repeated ⟨1, none⟩ true (.ofChar 'x'))))) := by decide +kernel
  refine (matchesToken_wholeMatchPattern_iff (by decide +kernel) (by decide +kernel)
    ⟨_, reads, by decide⟩ (by decide +kernel) _).mpr ?_
  exact ⟨["if", "xx"], by decide, by decide +kernel, by decide +kernel⟩

/-! ## When it is a pattern -/

/-- The names of the groups of a pattern. -/
def groupNames (pattern : String) : List String :=
  match Token.scan pattern.toList with
  | .ok ts => Token.names ts
  | .error _ => []

/-- How deep the constructs of a pattern nest. -/
def nesting (pattern : String) : Nat :=
  match Syntax.parse pattern with
  | .ok tree => tree.depth
  | .error _ => 0

/-- What it takes to put a start pattern in place of every reference of a template. The anchors and
the two groups around the start pattern add three levels, and what stands beside it a fourth one. -/
structure Splices (template start : String) : Prop where
  once : groupNames start = [] ∨ Template.references (Template.segments template) = 1
  shallow : nesting start + (if template = "$0" then 3 else 4) ≤ Syntax.depthLimit

/-- The pattern of a template that refers to the token, if the start pattern is a regular expression
by itself, compiles exactly if no name is given twice and nothing nests too deep. Both can be told
from the start and the template. -/
theorem compiles_wholeMatchPattern_iff {template start : String} (alone : CompilesAlone start)
    (starts : Compiles start) (refers : Template.Refers template 0) :
    Compiles (Forms.wholeMatchPattern template start) ↔ Splices template start := by
  obtain ⟨ts, tree, r, reading⟩ := exists_readsAs alone starts
  obtain ⟨m, hr⟩ := reading.means
  have names : groupNames start = Token.names ts := by rw [groupNames, reading.scan]
  have deep : nesting start = tree.depth := by rw [nesting, reading.parse]
  have different : (Token.names ts).Nodup := by
    obtain ⟨d, took, _⟩ := Syntax.ofTokens_eq_ok_iff.mp reading.built
    exact Draft.nodup_names took rfl
  have some : 0 < Template.references (Template.segments template) :=
    Template.references_pos_iff.mpr ⟨0, refers⟩
  have runs : ∀ text, .literal text ∈ Template.segments template → text ≠ [] :=
    fun _ => Template.ne_nil_of_mem_segmentsOf
  refine (Pattern.exists_compile_splice_iff reading.alone reading.built hr
    (toList_wholeMatchPattern template start)).trans ?_
  rw [Token.nodup_names_spliceTokens_iff different,
    depth_spliceParts tree runs (Nat.ne_of_gt some)]
  simp only [Template.length_segments_eq_one_iff refers]
  have levels : tree.depth + (if template = "$0" then 1 else 2) + 2 =
      nesting start + if template = "$0" then 3 else 4 := by
    rw [deep]
    split <;> rfl
  constructor
  · rintro ⟨once, shallow⟩
    exact ⟨names ▸ once.imp_right fun few => by omega, levels ▸ shallow⟩
  · rintro ⟨once, shallow⟩
    exact ⟨(names ▸ once).imp_right Nat.le_of_eq, levels ▸ shallow⟩

/-! ## When binding succeeds -/

variable {rules : RuleSet} {compiled : CompiledRules}

/-- Where all start patterns and end patterns compile, binding fails only for a pattern made from a
template: one of a rule without an end pattern that refers to the token. For a start pattern that is
a regular expression by itself it is told from the names and the depth of the start pattern whether
there is a pattern. -/
theorem exists_bind_iff (h : compile rules = .ok compiled)
    (starts : ∀ rule ∈ rules.surround, rule.start ≠ "" → Compiles rule.start)
    (stops : ∀ rule ∈ rules.surround, ∀ stop, rule.endPattern? = some stop → Compiles stop)
    (tokens : List String) :
    ((∃ c, compiled.bind tokens = .ok c) ↔
      ∀ rule ∈ rules.surround, rule.endPattern? = none → ∀ template ∈ rule.endings,
        Template.Refers template 0 → Compiles (Forms.wholeMatchPattern template rule.start)) ∧
    ∀ rule ∈ rules.surround, CompilesAlone rule.start → ∀ template, Template.Refers template 0 →
      (Compiles (Forms.wholeMatchPattern template rule.start) ↔ Splices template rule.start) := by
  have made := compiledFrom_of_compile h
  refine ⟨?_, fun rule mem alone template refers => ?_⟩
  · rw [exists_bind_iff_build made, Forms.exists_build_iff_patterns]
    refine forall₂_congr fun rule mem => ?_
    rw [and_iff_right (starts rule mem), and_iff_right (stops rule mem)]
    refine forall_congr' fun noStop => forall₂_congr fun template written => ?_
    have noCapture : ¬ Template.RefersToCapture template := by
      rw [← Template.shape_eq_captures_iff]
      exact (made.declared rule mem noStop).2 template written
    rw [Template.shape_eq_whole_iff, and_iff_left noCapture]
  · by_cases empty : rule.start = ""
    · rw [empty] at alone ⊢
      exact compiles_wholeMatchPattern_iff alone (by decide +kernel) refers
    · exact compiles_wholeMatchPattern_iff alone (starts rule mem empty) refers

/-- A rule whose start pattern names a group and stands in its template once, and a rule with an end
pattern. -/
def namedRules : RuleSet where
  surround := [{ start := "(?P<kind>if|while)", endings := ["end", "end $0"] },
    { start := "begin", stop := some "end.*" }]

/-- The name is given once and nothing nests deep, so these rules can be bound. -/
theorem exists_bind_iff_named :
    ∃ compiled c, compile namedRules = .ok compiled ∧ compiled.bind ["if"] = .ok c := by
  obtain ⟨compiled, h⟩ : ∃ compiled, compile namedRules = .ok compiled := by decide +kernel
  have starts : ∀ rule ∈ namedRules.surround, rule.start ≠ "" → Compiles rule.start := by
    decide +kernel
  have stops : ∀ rule ∈ namedRules.surround, ∀ stop, rule.endPattern? = some stop →
      Compiles stop := by
    refine List.forall_mem_cons.mpr ⟨nofun, List.forall_mem_singleton.mpr ?_⟩
    rintro _ ⟨⟩
    decide +kernel
  have splices : Splices "end $0" "(?P<kind>if|while)" := ⟨.inr (by decide), by decide +kernel⟩
  obtain ⟨succeeds, each⟩ := exists_bind_iff h starts stops ["if"]
  obtain ⟨c, bound⟩ := succeeds.mpr <| by
    refine List.forall_mem_cons.mpr ⟨fun _ => ?_, List.forall_mem_singleton.mpr nofun⟩
    refine List.forall_mem_cons.mpr ⟨fun refers => absurd refers (by decide), ?_⟩
    refine List.forall_mem_singleton.mpr fun refers => ?_
    exact (each _ List.mem_cons_self (by decide +kernel) "end $0" refers).mpr splices
  exact ⟨compiled, c, h, bound⟩

/-- What binding reports, if it fails. -/
def refusal? (rules : RuleSet) (tokens : List String) : Option PatternError :=
  (compile rules).toOption.bind fun compiled =>
    match compiled.bind tokens with
    | .ok _ => none
    | .error e => some e

/-- A refusal with a property that can be computed is what binding ends with. It serves for
examples. -/
theorem exists_of_refusal? {tokens : List String} {p : PatternError → Bool}
    (h : (refusal? rules tokens).any p = true) :
    ∃ compiled e, compile rules = .ok compiled ∧ compiled.bind tokens = .error e ∧
      p e = true := by
  unfold refusal? at h
  cases hc : compile rules with
  | error e =>
    rw [hc] at h
    cases h
  | ok compiled =>
    rw [hc] at h
    cases hb : compiled.bind tokens with
    | ok c => simp [Except.toOption, hb] at h
    | error e =>
      refine ⟨compiled, e, rfl, hb, ?_⟩
      simpa [Except.toOption, hb] using h

/-- The characters of a pattern that is a character in many groups. -/
def nestedChars (n : Nat) : List Char :=
  (List.replicate n ['(', '?', ':']).flatten ++ 'a' :: List.replicate n ')'

/-- A start pattern that nests so deep that it can still be anchored. -/
def deepStart : String := String.ofList (nestedChars 247)

/-- The start pattern is a regular expression by itself, and between the anchors too, which leave
just enough depth. -/
theorem compiles_deepStart : CompilesAlone deepStart ∧ Compiles deepStart := by
  refine ⟨(Pattern.exists_compile_iff String.toList_ofList).mpr (by decide +kernel), ?_⟩
  refine (Pattern.exists_compile_iff (toList_anchor deepStart)).mpr ?_
  rw [deepStart, String.toList_ofList]
  decide +kernel

/-- Each of its groups is one level. -/
theorem nesting_deepStart : nesting deepStart = 247 := by
  have reads : Syntax.parse deepStart = .ok ((Syntax.scope [])^[247] (.ofChar 'a')) := by
    rw [Syntax.parse, deepStart, String.toList_ofList]
    decide +kernel
  rw [nesting, reads]
  decide +kernel

/-- A template can bring in an error of its own: a name that is given to two groups, a comment that
goes on behind the start pattern, or constructs that nest too deep. In each of the three the start pattern compiles. -/
theorem bind_refuses_template :
    (∃ compiled e, Compiles "(?P<n>a)" ∧
      compile { surround := [{ start := "(?P<n>a)", endings := ["$0$0"] }] } = .ok compiled ∧
      compiled.bind ["a"] = .error e ∧ e.origin = .ending 0 0) ∧
    (∃ compiled e, Compiles "a)(?x)#" ∧
      compile { surround := [{ start := "a)(?x)#", endings := ["$0"] }] } = .ok compiled ∧
      compiled.bind ["a"] = .error e ∧ e.origin = .ending 0 0) ∧
    ∃ compiled, Compiles deepStart ∧
      compile { surround := [{ start := deepStart, endings := ["x$0"] }] } = .ok compiled ∧
      ∀ c, compiled.bind ["a"] ≠ .ok c := by
  refine ⟨?_, ?_, ?_⟩
  · obtain ⟨compiled, e, h, refused, origin⟩ := @exists_of_refusal?
      { surround := [{ start := "(?P<n>a)", endings := ["$0$0"] }] } ["a"]
      (fun e => e.origin == .ending 0 0) (by decide +kernel)
    exact ⟨compiled, e, by decide +kernel, h, refused, beq_iff_eq.mp origin⟩
  · obtain ⟨compiled, e, h, refused, origin⟩ := @exists_of_refusal?
      { surround := [{ start := "a)(?x)#", endings := ["$0"] }] } ["a"]
      (fun e => e.origin == .ending 0 0) (by decide +kernel)
    exact ⟨compiled, e, by decide +kernel, h, refused, beq_iff_eq.mp origin⟩
  · obtain ⟨compiled, h⟩ : ∃ compiled,
        compile { surround := [{ start := deepStart, endings := ["x$0"] }] } = .ok compiled := by
      decide +kernel
    obtain ⟨alone, starts⟩ := compiles_deepStart
    refine ⟨compiled, starts, h, fun c bound => ?_⟩
    have made := compiledFrom_of_compile h
    have patterns := (Forms.exists_build_iff_patterns _).mp
      ((exists_bind_iff_build made).mp ⟨c, bound⟩)
    have whole := (patterns _ List.mem_cons_self).2.2 rfl "x$0" List.mem_cons_self (by decide)
    have fits := (compiles_wholeMatchPattern_iff alone starts (by decide)).mp whole
    have shallow := fits.shallow
    rw [nesting_deepStart] at shallow
    exact absurd shallow (by decide)

end TokenClassifier
