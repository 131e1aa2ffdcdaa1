import TokenClassifier.Proofs.Framing

/-!
# Reading the output back

Nothing in the output says how long a record is: a line feed ends it, and a space stands before each
of its fields. A reader finds the records again where no field has a space or a line feed inside.
The letters and the numbers have none, so it depends on the end tokens alone. Of them nothing more
is asked. They may look like letters or numbers, or be empty, since the letter of a record says what
its fields are.

`Records.read?` is the reader. A line is read as a record only if it is the line of that record
(`Classification.ofLine?_eq_some_iff`), and a text only if it is the lines of the records
(`Records.ofText?_eq_some_iff`). So what was written for records with plain end tokens is read as
these records, and records with other end tokens are not found again (`read?_written`).
-/

namespace TokenClassifier

namespace Classification

/-! ## Fields -/

/-- What stands behind the letter in a line: the end tokens, or the precedences. -/
def fields : Classification → List String
  | .start endings => endings
  | .operator p => [toString p.before.toNat, toString p.between.toNat, toString p.after.toNat]
  | _ => []

/-- A line is the letter, and the fields with a space before each of them. Starts and operators have
fields, and no other line is longer than its letter. -/
theorem line_eq_foldl (c : Classification) :
    c.line = c.fields.foldl (fun line field => line ++ " " ++ field) (String.singleton c.code) := by
  cases c with
  | operator p => simp [line, fields, Precedence.text, String.append_assoc]
  | _ => rfl

/-- Fields that are put behind a line stand behind it, with a space before each of them. -/
theorem toList_foldl (fields : List String) (line : String) :
    (fields.foldl (fun line field => line ++ " " ++ field) line).toList =
      line.toList ++ fields.flatMap fun field => ' ' :: field.toList := by
  induction fields generalizing line with
  | nil => simp
  | cons field fields ih => simp [ih]

/-- So the characters of a line are those of the letter and the fields, with spaces between them. -/
theorem toList_line (c : Classification) :
    c.line.toList = [' '].intercalate ([c.code] :: c.fields.map String.toList) := by
  rw [line_eq_foldl, toList_foldl, Text.intercalate_cons_eq_append_flatMap, List.flatMap_map,
    String.toList_singleton]

/-- Reads a precedence. No other spelling is read than the one in which it is written. -/
def precedence? (field : String) : Option UInt16 :=
  let n := Nat.ofDigitChars 10 field.toList 0
  if n < UInt16.size ∧ toString n = field then some (UInt16.ofNat n) else none

/-- A precedence is read from the field in which it is written, and from no other. A zero before a
number, or a number too large, is refused. -/
theorem precedence?_eq_some_iff {field : String} {p : UInt16} :
    precedence? field = some p ↔ toString p.toNat = field := by
  unfold precedence?
  constructor
  · intro h
    dsimp only at h
    split at h
    next written =>
      obtain ⟨small, same⟩ := written
      cases h
      rw [UInt16.toNat_ofNat_of_lt' small, same]
    next => cases h
  · rintro rfl
    have read : Nat.ofDigitChars 10 (toString p.toNat).toList 0 = p.toNat := by
      rw [show (toString p.toNat).toList = Nat.toDigits 10 p.toNat from Nat.toList_repr,
        Nat.ofDigitChars_toDigits (by decide) (by decide)]
    rw [read, if_pos ⟨p.toNat_lt, rfl⟩, UInt16.ofNat_toNat]

/-- The classification with a given letter and given fields. -/
def ofFields? : Char → List String → Option Classification
  | 'S', endings => some (.start endings)
  | 'E', [] => some .stop
  | 'C', [] => some .compound
  | 'L', [] => some .label
  | 'P', [] => some .formPrefix
  | 'O', [before, between, after] => do
    return .operator ⟨← precedence? before, ← precedence? between, ← precedence? after⟩
  | 'V', [] => some .variableName
  | 'U', [] => some .unclassified
  | _, _ => none

/-- A record is read from the letter and the fields that it has, and from no others. -/
theorem ofFields?_eq_some_iff {code : Char} {fields : List String} {c : Classification} :
    ofFields? code fields = some c ↔ c.code = code ∧ c.fields = fields := by
  constructor
  · intro h
    unfold ofFields? at h
    split at h
    case h_6 before between after =>
      simp only [Option.bind_eq_bind, Option.bind_eq_some_iff, precedence?_eq_some_iff] at h
      obtain ⟨_, rfl, _, rfl, _, rfl, e⟩ := h
      cases e
      exact ⟨rfl, rfl⟩
    case h_9 => cases h
    all_goals
      cases h
      exact ⟨rfl, rfl⟩
  · rintro ⟨rfl, rfl⟩
    cases c with
    | operator p =>
      have read (q : UInt16) : precedence? (toString q.toNat) = some q :=
        precedence?_eq_some_iff.mpr rfl
      change (do return operator ⟨← precedence? _, ← precedence? _, ← precedence? _⟩) = _
      rw [read, read, read]
      rfl
    | _ => rfl

/-! ## Lines -/

/-- Reads a line. -/
def ofLine? (line : List Char) : Option Classification :=
  match Text.splitAt (· == ' ') line with
  | [code] :: fields => ofFields? code (fields.map String.ofList)
  | _ => none

/-- A line is read as a record exactly if it is the line of the record, and no field of the record
has a space inside. With a space inside, the line is still there, but it is read as one with more
fields. -/
theorem ofLine?_eq_some_iff {line : List Char} {c : Classification} :
    ofLine? line = some c ↔ c.line.toList = line ∧ ∀ field ∈ c.fields, ' ' ∉ field.toList := by
  have pieces : ofLine? line = some c ↔
      Text.splitAt (· == ' ') line = [c.code] :: c.fields.map String.toList := by
    unfold ofLine?
    constructor
    · intro h
      split at h
      next code fields cut =>
        obtain ⟨rfl, same⟩ := ofFields?_eq_some_iff.mp h
        rw [cut, same, List.map_map]
        simp
      next => cases h
    · intro cut
      rw [cut]
      refine ofFields?_eq_some_iff.mpr ⟨rfl, ?_⟩
      rw [List.map_map]
      simp
  have letter : ' ' ∉ [c.code] := by
    cases c <;> simp [code]
  rw [pieces, Text.splitAt_eq_iff (List.cons_ne_nil _ _), ← toList_line, List.forall_mem_cons,
    List.forall_mem_map, and_iff_right letter]

/-- Whether the end tokens of a classification can be told apart in the output: none has a space or
a line feed inside. -/
def Plain : Classification → Prop
  | .start endings => ∀ e ∈ endings, ' ' ∉ e.toList ∧ '\n' ∉ e.toList
  | _ => True

instance (c : Classification) : Decidable c.Plain :=
  match c with
  | .start endings =>
    inferInstanceAs (Decidable (∀ e ∈ endings, ' ' ∉ e.toList ∧ '\n' ∉ e.toList))
  | .stop | .compound | .label | .formPrefix | .operator _ | .variableName | .unclassified =>
    .isTrue trivial

/-- A record is plain exactly if none of its fields has a space, and its line has no line feed. Only
end tokens can have either. -/
theorem plain_iff {c : Classification} :
    c.Plain ↔ (∀ field ∈ c.fields, ' ' ∉ field.toList) ∧ '\n' ∉ c.line.toList := by
  rw [newline_mem_line]
  cases c with
  | start endings => simp [Plain, fields, forall_and]
  | operator p => simp [Plain, fields, @notMem_toDigits ' ' rfl]
  | _ => simp [Plain, fields]

end Classification

namespace Records

/-! ## Records -/

/-- Reads lines, of which the last one is what stands behind the last line feed: nothing. -/
def ofLines? : List (List Char) → Option (List Classification)
  | [] => none
  | [[]] => some []
  | line :: lines => do return (← Classification.ofLine? line) :: (← ofLines? lines)

/-- Lines are read as records exactly if they are the lines of the records, with nothing behind the
last line feed. By induction on the lines. -/
theorem ofLines?_eq_some_iff {lines : List (List Char)} {records : List Classification} :
    ofLines? lines = some records ↔ lines = records.map (·.line.toList) ++ [[]] ∧
      ∀ c ∈ records, ∀ field ∈ c.fields, ' ' ∉ field.toList := by
  fun_induction ofLines? lines generalizing records with
  | case1 => simp
  | case2 =>
    cases records <;> simp
  | case3 line lines other ih =>
    simp only [Option.bind_eq_bind, Option.bind_eq_some_iff, Classification.ofLine?_eq_some_iff, ih]
    constructor
    · rintro ⟨c, ⟨rfl, spaces⟩, cs, ⟨rfl, rest⟩, e⟩
      cases e
      exact ⟨rfl, List.forall_mem_cons.mpr ⟨spaces, rest⟩⟩
    · rintro ⟨cut, spaces⟩
      cases records with
      | nil =>
        cases cut
        exact (other rfl rfl).elim
      | cons c cs =>
        obtain ⟨rfl, rfl⟩ := List.cons.inj cut
        obtain ⟨first, rest⟩ := List.forall_mem_cons.mp spaces
        exact ⟨c, ⟨rfl, first⟩, cs, ⟨rfl, rest⟩, rfl⟩

/-- Reads a text. -/
def ofText? (text : List Char) : Option (List Classification) :=
  ofLines? (Text.splitAt (· == '\n') text)

/-- A text is read as records exactly if it is made of their lines, and the records are plain. -/
theorem ofText?_eq_some_iff {text : List Char} {records : List Classification} :
    ofText? text = some records ↔
      (records.flatMap fun c => c.line.toList ++ ['\n']) = text ∧ ∀ c ∈ records, c.Plain := by
  have plain : (∀ c ∈ records, c.Plain) ↔ (∀ c ∈ records, '\n' ∉ c.line.toList) ∧
      ∀ c ∈ records, ∀ field ∈ c.fields, ' ' ∉ field.toList := by
    rw [and_comm, ← forall₂_and]
    exact forall₂_congr fun c _ => Classification.plain_iff
  rw [ofText?, ofLines?_eq_some_iff, Text.splitAt_eq_concat_nil_iff, List.flatMap_map,
    List.forall_mem_map, plain, and_assoc]

/-- Reads bytes. -/
def read? (bytes : List UInt8) : Option (List Classification) := ofText? (Utf8.decode bytes)

/-- What is written for classifications, to a receiver that takes everything. -/
def written (records : List Classification) : List UInt8 :=
  (writeRecords records {}).2.taken.toList

/-- What is written for records is their lines in bytes, and decoding gives the lines back. Lines
are texts, so no byte of them is lost. -/
theorem decode_written (records : List Classification) :
    Utf8.decode (written records) = records.flatMap fun c => c.line.toList ++ ['\n'] := by
  have took : Sink.Takes {} (linesOf records).toArray := Sink.takes_iff.mpr nofun
  have bytes : written records = linesOf records := by
    rw [written, (writeRecords_eq records {}).2, Sink.toList_taken_of_takes took]
    simp
  have text : linesOf records =
      Utf8.encode (records.flatMap fun c => c.line.toList ++ ['\n']) := by
    rw [linesOf, Utf8.encode, List.flatMap_assoc]
    refine List.flatMap_congr fun c _ => ?_
    rw [Utf8.ofString, Utf8.encode, String.toList_append]
    rfl
  rw [bytes, text, Utf8.decode_encode]

/-- What is written for records is read as these records exactly if they are plain. So plain records
are alike if the same is written for them. The condition cannot be left out, for a token with a
space is written like two tokens. -/
theorem read?_written :
    (∀ records, read? (written records) = some records ↔ ∀ c ∈ records, c.Plain) ∧
      ∀ records others, (∀ c ∈ records, c.Plain) → (∀ c ∈ others, c.Plain) →
        (written records = written others ↔ records = others) := by
  have read (records : List Classification) :
      read? (written records) = some records ↔ ∀ c ∈ records, c.Plain := by
    rw [read?, ofText?_eq_some_iff, decode_written, and_iff_right rfl]
  refine ⟨read, fun records others plain plain' => ⟨fun same => ?_, congrArg written⟩⟩
  have found := (read records).mpr plain
  rw [same, (read others).mpr plain'] at found
  exact (Option.some.inj found).symm

/-- End tokens can look like other records without being taken for them. All of these have the same
words in the same order, and only the line feeds tell them apart. -/
theorem read?_written_lookalikes :
    let records : List Classification :=
      [.start ["endif", "E", "10"], .start [], .operator ⟨0, 20, 65535⟩, .stop]
    let others : List Classification :=
      [.start ["endif", "E"], .start ["10"], .operator ⟨0, 20, 65535⟩, .stop]
    (∀ c ∈ records, c.Plain) ∧ (∀ c ∈ others, c.Plain) ∧
      read? (written records) = some records ∧
      (written records = written others ↔ records = others) := by
  intro records others
  have plain : ∀ c ∈ records, c.Plain := by decide
  have plain' : ∀ c ∈ others, c.Plain := by decide
  exact ⟨plain, plain', (read?_written.1 records).mpr plain,
    read?_written.2 records others plain plain'⟩

example : read? (written [.start ["a b"]]) = some [.start ["a", "b"]] := by decide +kernel

end Records

end TokenClassifier
