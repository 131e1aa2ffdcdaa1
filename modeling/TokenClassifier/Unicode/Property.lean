import TokenClassifier.Unicode.Binary
import TokenClassifier.Unicode.Script

/-!
# Properties by name

A property is asked for by one name (`Lu`, `Greek`, `Uppercase`) or by a name and a value
(`Script=Han`). Names are compared loosely: case, blanks, underscores, hyphens and a leading
`is` do not count.

One name is looked up first among the binary properties, then among the general categories and
last among the scripts. Two abbreviations stand for a category although a property of several
values bears them too, `sc` (a currency symbol) and `lc` (a cased letter); no binary property
has either name, so the order alone settles them.

Of the properties with several values only the general category and the two on scripts are here.
`Age`, `Grapheme_Cluster_Break`, `Word_Break` and `Sentence_Break` are left out: a name and a value
that ask for one of them (`age=3.0`, `gcb=Extend`) are refused like those of an unknown property. So
are the names of the binary properties that only serve to define others, as `Other_Alphabetic` does.
None of what is proved relies on which properties there are.
-/

namespace TokenClassifier.Unicode

/-- A set of characters that the standard names. -/
inductive Property where
  /-- Every character. -/
  | any
  /-- The first 128 characters. -/
  | ascii
  /-- The characters of every category but unassigned. -/
  | assigned
  /-- The characters of the listed categories. -/
  | category (members : List Category)
  /-- The characters that belong to a script. -/
  | script (s : Script)
  /-- The characters that are used with a script. -/
  | usedWith (s : Script)
  /-- The characters that have a binary property. -/
  | binary (p : Binary)
  deriving DecidableEq, Repr

namespace Property

/-- Whether a character has a property. -/
def contains : Property → Char → Bool
  | .any, _ => true
  | .ascii, c => c.toNat < 128
  | .assigned, c => Category.of c != .cn
  | .category members, c => members.contains (Category.of c)
  | .script s, c => Script.of c == s
  | .usedWith s, c => (Script.extensionsOf c).contains s
  | .binary p, c => p.contains c

/-! ## Loose names -/

/-- The characters of a name that count: ASCII other than blank, underscore and hyphen, in
lower case. -/
def significant (cs : List Char) : List Char :=
  (cs.filter fun c => c.toNat < 128 && c != ' ' && c != '_' && c != '-').map Char.toLower

/-- A name as it is compared. A leading `is` is dropped, except from `isc`, which is the name
of a property of its own. -/
def loose (cs : List Char) : String :=
  match cs with
  | i :: s :: rest =>
    if i.toLower = 'i' ∧ s.toLower = 's' then
      if significant rest = ['c'] then "isc" else String.ofList (significant rest)
    else String.ofList (significant cs)
  | _ => String.ofList (significant cs)

/-- Each general category, and each union of some, with its names. Surrogates are no characters,
so their category has no name here. -/
def categoryNames : List (List Category × List String) :=
  [([.lu], ["lu", "uppercaseletter"]), ([.ll], ["ll", "lowercaseletter"]),
    ([.lt], ["lt", "titlecaseletter"]), ([.lu, .ll, .lt], ["lc", "casedletter"]),
    ([.lm], ["lm", "modifierletter"]), ([.lo], ["lo", "otherletter"]),
    ([.lu, .ll, .lt, .lm, .lo], ["l", "letter"]), ([.mn], ["mn", "nonspacingmark"]),
    ([.mc], ["mc", "spacingmark"]), ([.me], ["me", "enclosingmark"]),
    ([.mn, .mc, .me], ["m", "mark", "combiningmark"]), ([.nd], ["nd", "decimalnumber", "digit"]),
    ([.nl], ["nl", "letternumber"]), ([.no], ["no", "othernumber"]),
    ([.nd, .nl, .no], ["n", "number"]), ([.pc], ["pc", "connectorpunctuation"]),
    ([.pd], ["pd", "dashpunctuation"]), ([.ps], ["ps", "openpunctuation"]),
    ([.pe], ["pe", "closepunctuation"]), ([.pi], ["pi", "initialpunctuation"]),
    ([.pf], ["pf", "finalpunctuation"]), ([.po], ["po", "otherpunctuation"]),
    ([.pc, .pd, .ps, .pe, .pi, .pf, .po], ["p", "punctuation", "punct"]),
    ([.sm], ["sm", "mathsymbol"]), ([.sc], ["sc", "currencysymbol"]),
    ([.sk], ["sk", "modifiersymbol"]), ([.so], ["so", "othersymbol"]),
    ([.sm, .sc, .sk, .so], ["s", "symbol"]), ([.zs], ["zs", "spaceseparator"]),
    ([.zl], ["zl", "lineseparator"]), ([.zp], ["zp", "paragraphseparator"]),
    ([.zs, .zl, .zp], ["z", "separator"]), ([.cc], ["cc", "control", "cntrl"]),
    ([.cf], ["cf", "format"]), ([.co], ["co", "privateuse"]), ([.cn], ["cn", "unassigned"]),
    ([.cc, .cf, .cs, .co, .cn], ["c", "other"])]

/-- The general category, or the union of some, that a loose name stands for. -/
def categoryOfName? (name : String) : Option Property :=
  if name = "any" then some .any
  else if name = "ascii" then some .ascii
  else if name = "assigned" then some .assigned
  else (categoryNames.find? fun (_, names) => names.contains name).map fun (members, _) =>
    .category members

/-- The property that a single name stands for. -/
def ofName? (name : List Char) : Option Property :=
  let name := loose name
  ((Binary.ofName? name).map .binary).orElse fun _ =>
    (categoryOfName? name).orElse fun _ => (Script.ofName? name).map .script

/-- The property that a name and a value stand for. The name is that of the general category, of the
script or of the script extensions; the other properties with several values are left out. -/
def ofNameValue? (name value : List Char) : Option Property :=
  let name := loose name
  let value := loose value
  if name = "gc" ∨ name = "generalcategory" then categoryOfName? value
  else if name = "sc" ∨ name = "script" then (Script.ofName? value).map .script
  else if name = "scx" ∨ name = "scriptextensions" then (Script.ofName? value).map .usedWith
  else none

end Property

end TokenClassifier.Unicode
