import TokenClassifier.Unicode.Category

/-!
# Simple case folding

Two characters are the same but for case when simple case folding maps them to one character.
The classes of this relation with more than one member are listed in a table. Most have two
members and come in rows, a row being so many pairs whose members both go up by one or both by
two, so `41,61+1a` stands for the twenty-six pairs that begin with 41 and 61 and
`100,101*18` for the twenty-four pairs 100 and 101, 102 and 103, and so on.

An ASCII letter is the same as its other case; `K` and `S` have a third member each outside of
ASCII. This is read without the table.
-/

namespace TokenClassifier.Unicode.Folding

/-- A row of the table: the members of its first class, how many classes it has, and how far
each class lies from the one before. -/
structure Row where
  members : List Nat
  count : Nat
  step : Nat
  deriving DecidableEq, Repr, Inhabited

/-- Reads rows. `members` holds, newest first, the members of the unfinished row that are
already complete, `step` is set once the count is being read, and `n` is the number read so
far. -/
def readRows : List Char → List Nat → Option Nat → Nat → List Row
  | [], members, none, n => [⟨(n :: members).reverse, 1, 1⟩]
  | [], members, some step, n => [⟨members.reverse, n, step⟩]
  | c :: rest, members, none, n =>
    if c = ' ' then ⟨(n :: members).reverse, 1, 1⟩ :: readRows rest [] none 0
    else if c = ',' then readRows rest (n :: members) none 0
    else if c = '+' then readRows rest (n :: members) (some 1) 0
    else if c = '*' then readRows rest (n :: members) (some 2) 0
    else readRows rest members none (16 * n + Category.hexDigit c)
  | c :: rest, members, some step, n =>
    if c = ' ' then ⟨members.reverse, n, step⟩ :: readRows rest [] none 0
    else readRows rest members (some step) (16 * n + Category.hexDigit c)

/-- The classes with more than one member. -/
def rows : List Row :=
  readRows
    (String.join [
        "41,61+a 4b,6b,212a 4c,6c+7 53,73,17f 54,74+7 b5,39c,3bc c0,e0+5 c5,e5,212b c6,e6+11 ",
        "d8,f8+7 df,1e9e ff,178 100,101*18 132,133*3 139,13a*8 14a,14b*17 179,17a*3 180,243 ",
        "181,253 182,183*2 186,254 187,188 189,256+2 18b,18c 18e,1dd 18f,259 190,25b 191,192 ",
        "193,260 194,263 195,1f6 196,269 197,268 198,199 19a,23d 19b,a7dc 19c,26f 19d,272 ",
        "19e,220 19f,275 1a0,1a1*3 1a6,280 1a7,1a8 1a9,283 1ac,1ad 1ae,288 1af,1b0 1b1,28a+2 ",
        "1b3,1b4*2 1b7,292 1b8,1b9 1bc,1bd 1bf,1f7 1c4,1c5,1c6 1c7,1c8,1c9 1ca,1cb,1cc ",
        "1cd,1ce*8 1de,1df*9 1f1,1f2,1f3 1f4,1f5 1f8,1f9*14 222,223*9 23a,2c65 23b,23c ",
        "23e,2c66 23f,2c7e+2 241,242 244,289 245,28c 246,247*5 250,2c6f 251,2c6d 252,2c70 ",
        "25c,a7ab 261,a7ac 264,a7cb 265,a78d 266,a7aa 26a,a7ae 26b,2c62 26c,a7ad 271,2c6e ",
        "27d,2c64 282,a7c5 287,a7b1 29d,a7b2 29e,a7b0 345,399,3b9,1fbe 370,371*2 376,377 ",
        "37b,3fd+3 37f,3f3 386,3ac 388,3ad+3 38c,3cc 38e,3cd+2 390,1fd3 391,3b1 392,3b2,3d0 ",
        "393,3b3+2 395,3b5,3f5 396,3b6+2 398,3b8,3d1,3f4 39a,3ba,3f0 39b,3bb*2 39e,3be+2 ",
        "3a0,3c0,3d6 3a1,3c1,3f1 3a3,3c2,3c3 3a4,3c4+2 3a6,3c6,3d5 3a7,3c7+2 3a9,3c9,2126 ",
        "3aa,3ca+2 3b0,1fe3 3cf,3d7 3d8,3d9*c 3f2,3f9 3f7,3f8 3fa,3fb 400,450+10 410,430+2 ",
        "412,432,1c80 413,433 414,434,1c81 415,435+9 41e,43e,1c82 41f,43f+2 421,441,1c83 ",
        "422,442,1c84,1c85 423,443+7 42a,44a,1c86 42b,44b+5 460,461 462,463,1c87 464,465*f ",
        "48a,48b*1b 4c0,4cf 4c1,4c2*7 4d0,4d1*30 531,561+26 10a0,2d00+26 10c7,2d27 10cd,2d2d ",
        "10d0,1c90+2b 10fd,1cbd+3 13a0,ab70+50 13f0,13f8+6 1c88,a64a,a64b 1c89,1c8a 1d79,a77d ",
        "1d7d,2c63 1d8e,a7c6 1e00,1e01*30 1e60,1e61,1e9b 1e62,1e63*1a 1ea0,1ea1*30 1f00,1f08+8 ",
        "1f10,1f18+6 1f20,1f28+8 1f30,1f38+8 1f40,1f48+6 1f51,1f59*4 1f60,1f68+8 1f70,1fba+2 ",
        "1f72,1fc8+4 1f76,1fda+2 1f78,1ff8+2 1f7a,1fea+2 1f7c,1ffa+2 1f80,1f88+8 1f90,1f98+8 ",
        "1fa0,1fa8+8 1fb0,1fb8+2 1fb3,1fbc 1fc3,1fcc 1fd0,1fd8+2 1fe0,1fe8+2 1fe5,1fec ",
        "1ff3,1ffc 2132,214e 2160,2170+10 2183,2184 24b6,24d0+1a 2c00,2c30+30 2c60,2c61 ",
        "2c67,2c68*3 2c72,2c73 2c75,2c76 2c80,2c81*32 2ceb,2cec*2 2cf2,2cf3 a640,a641*5 ",
        "a64c,a64d*11 a680,a681*e a722,a723*7 a732,a733*1f a779,a77a*2 a77e,a77f*5 a78b,a78c ",
        "a790,a791*2 a794,a7c4 a796,a797*a a7b3,ab53 a7b4,a7b5*8 a7c7,a7c8*2 a7cc,a7cd*8 ",
        "a7f5,a7f6 fb05,fb06 ff21,ff41+1a 10400,10428+28 104b0,104d8+24 10570,10597+b ",
        "1057c,105a3+f 1058c,105b3+7 10594,105bb+2 10c80,10cc0+33 10d50,10d70+16 ",
        "118a0,118c0+20 16e40,16e60+20 16ea0,16ebb+19 1e900,1e922+22"]).toList
    [] none 0

/-- The class of `c` within a row, if the row has it. -/
def Row.class? (row : Row) (c : Nat) : Option (List Nat) :=
  (row.members.find? fun m =>
      m ≤ c && c < m + row.count * row.step && (c - m) % row.step == 0).map fun m =>
    row.members.map (· + (c - m))

/-- The class of `c` in the table: `c` alone when no row has it. -/
def tableClass (c : Nat) : List Nat :=
  (rows.findSome? fun row => row.class? c).getD [c]

/-- The characters that are the same as `c` but for case, `c` among them. -/
def orbit (c : Char) : List Char :=
  if c.toNat < 128 then
    if c = 'k' ∨ c = 'K' then ['K', 'k', '\u212a']
    else if c = 's' ∨ c = 'S' then ['S', 's', '\u017f']
    else if c.isUpper then [c, c.toLower]
    else if c.isLower then [c.toUpper, c]
    else [c]
  else (tableClass c.toNat).map Char.ofNat

/-- Whether some other character is the same as `c` but for case. -/
def isFolded (c : Char) : Bool := (orbit c).length > 1

end TokenClassifier.Unicode.Folding
