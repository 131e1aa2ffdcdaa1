/-!
# General categories

Every code point lies in exactly one of thirty general categories. The standard lists them in
runs, so the table here is the list of run lengths from code point zero on, and
`Category.of` walks it: the answer is the category of the run that the code point falls into.

An ASCII letter, digit or other character is named without the table. That is the common case,
and it keeps a question about such a character small enough to be evaluated in a proof.
-/

namespace TokenClassifier.Unicode

/-- The general categories, each under its two-letter name. -/
inductive Category where
  | lu | ll | lt | lm | lo | mn | mc | me | nd | nl
  | no | pc | pd | ps | pe | pi | pf | po | sm | sc
  | sk | so | zs | zl | zp | cc | cf | cs | co | cn
  deriving DecidableEq, Repr, Inhabited

namespace Category

/-- The category that a two-letter name stands for. -/
def ofLetters? : Char → Char → Option Category
  | 'L', 'u' => some .lu
  | 'L', 'l' => some .ll
  | 'L', 't' => some .lt
  | 'L', 'm' => some .lm
  | 'L', 'o' => some .lo
  | 'M', 'n' => some .mn
  | 'M', 'c' => some .mc
  | 'M', 'e' => some .me
  | 'N', 'd' => some .nd
  | 'N', 'l' => some .nl
  | 'N', 'o' => some .no
  | 'P', 'c' => some .pc
  | 'P', 'd' => some .pd
  | 'P', 's' => some .ps
  | 'P', 'e' => some .pe
  | 'P', 'i' => some .pi
  | 'P', 'f' => some .pf
  | 'P', 'o' => some .po
  | 'S', 'm' => some .sm
  | 'S', 'c' => some .sc
  | 'S', 'k' => some .sk
  | 'S', 'o' => some .so
  | 'Z', 's' => some .zs
  | 'Z', 'l' => some .zl
  | 'Z', 'p' => some .zp
  | 'C', 'c' => some .cc
  | 'C', 'f' => some .cf
  | 'C', 's' => some .cs
  | 'C', 'o' => some .co
  | 'C', 'n' => some .cn
  | _, _ => none

/-- The major class of a category: the letter that its name begins with. -/
def major : Category → Char
  | .lu | .ll | .lt | .lm | .lo => 'L'
  | .mn | .mc | .me => 'M'
  | .nd | .nl | .no => 'N'
  | .pc | .pd | .ps | .pe | .pi | .pf | .po => 'P'
  | .sm | .sc | .sk | .so => 'S'
  | .zs | .zl | .zp => 'Z'
  | .cc | .cf | .cs | .co | .cn => 'C'

/-! ## The table of runs -/

/-- The value of a hexadecimal digit in lower case; other characters count as zero. -/
def hexDigit (c : Char) : Nat :=
  if c.isDigit then c.toNat - 48 else if 'a' ≤ c ∧ c ≤ 'f' then c.toNat - 87 else 0

/-- Reads runs written as a length in hexadecimal (left out when it is one) followed by the two
letters of the category. `n` is the length read so far and `major` the first letter, if one has
been read. -/
def readRuns : List Char → Nat → Option Char → List (Nat × Category)
  | [], _, _ => []
  | c :: rest, n, some m =>
    match ofLetters? m c with
    | some g => (if n = 0 then 1 else n, g) :: readRuns rest 0 none
    | none => readRuns rest 0 none
  | c :: rest, n, none =>
    if c = ' ' then readRuns rest n none
    else if c.isUpper then readRuns rest n (some c)
    else readRuns rest (16 * n + hexDigit c) none

/-- The runs of equal category, from code point zero to the last. -/
def runs : List (Nat × Category) :=
  readRuns (String.join [
      "20Cc Zs 3Po Sc 3Po Ps Pe Po Sm Po Pd 2Po aNd 2Po 3Sm 2Po 1aLu Ps Po Pe Sk Pc Sk 1aLl Ps ",
      "Sm Pe Sm 21Cc Zs Po 4Sc So Po Sk So Lo Pi Sm Cf So Sk So Sm 2No Sk Ll 2Po Sk No Lo Pf ",
      "3No Po 17Lu Sm 7Lu 18Ll Sm 8Ll Lu Ll Lu Ll Lu Ll Lu Ll Lu Ll Lu Ll Lu Ll Lu Ll Lu Ll Lu ",
      "Ll Lu Ll Lu Ll Lu Ll Lu Ll Lu Ll Lu Ll Lu Ll Lu Ll Lu Ll Lu Ll Lu Ll Lu Ll Lu Ll Lu Ll ",
      "Lu Ll Lu Ll Lu Ll Lu 2Ll Lu Ll Lu Ll Lu Ll Lu Ll Lu Ll Lu Ll Lu Ll Lu 2Ll Lu Ll Lu Ll ",
      "Lu Ll Lu Ll Lu Ll Lu Ll Lu Ll Lu Ll Lu Ll Lu Ll Lu Ll Lu Ll Lu Ll Lu Ll Lu Ll Lu Ll Lu ",
      "Ll Lu Ll Lu Ll Lu Ll Lu Ll Lu Ll Lu Ll 2Lu Ll Lu Ll Lu 3Ll 2Lu Ll Lu Ll 2Lu Ll 3Lu 2Ll ",
      "4Lu Ll 2Lu Ll 3Lu 3Ll 2Lu Ll 2Lu Ll Lu Ll Lu Ll 2Lu Ll Lu 2Ll Lu Ll 2Lu Ll 3Lu Ll Lu Ll ",
      "2Lu 2Ll Lo Lu 3Ll 4Lo Lu Lt Ll Lu Lt Ll Lu Lt Ll Lu Ll Lu Ll Lu Ll Lu Ll Lu Ll Lu Ll Lu ",
      "Ll Lu 2Ll Lu Ll Lu Ll Lu Ll Lu Ll Lu Ll Lu Ll Lu Ll Lu Ll Lu 2Ll Lu Lt Ll Lu Ll 3Lu Ll ",
      "Lu Ll Lu Ll Lu Ll Lu Ll Lu Ll Lu Ll Lu Ll Lu Ll Lu Ll Lu Ll Lu Ll Lu Ll Lu Ll Lu Ll Lu ",
      "Ll Lu Ll Lu Ll Lu Ll Lu Ll Lu Ll Lu Ll Lu Ll Lu Ll Lu Ll Lu Ll Lu Ll Lu Ll Lu Ll Lu 7Ll ",
      "2Lu Ll 2Lu 2Ll Lu Ll 4Lu Ll Lu Ll Lu Ll Lu Ll Lu 45Ll 2Lo 1aLl 12Lm 4Sk cLm eSk 5Lm 7Sk ",
      "Lm Sk Lm 11Sk 70Mn Lu Ll Lu Ll Lm Sk Lu Ll 2Cn Lm 3Ll Po Lu 4Cn 2Sk Lu Po 3Lu Cn Lu Cn ",
      "2Lu Ll 11Lu Cn 9Lu 23Ll Lu 2Ll 3Lu 3Ll Lu Ll Lu Ll Lu Ll Lu Ll Lu Ll Lu Ll Lu Ll Lu Ll ",
      "Lu Ll Lu Ll Lu Ll Lu 5Ll Lu Ll Sm Lu Ll 2Lu 2Ll 33Lu 30Ll Lu Ll Lu Ll Lu Ll Lu Ll Lu Ll ",
      "Lu Ll Lu Ll Lu Ll Lu Ll Lu Ll Lu Ll Lu Ll Lu Ll Lu Ll Lu Ll Lu Ll Lu Ll So 5Mn 2Me Lu ",
      "Ll Lu Ll Lu Ll Lu Ll Lu Ll Lu Ll Lu Ll Lu Ll Lu Ll Lu Ll Lu Ll Lu Ll Lu Ll Lu Ll Lu Ll ",
      "Lu Ll Lu Ll Lu Ll Lu Ll Lu Ll Lu Ll Lu Ll Lu Ll Lu Ll Lu Ll Lu Ll Lu Ll 2Lu Ll Lu Ll Lu ",
      "Ll Lu Ll Lu Ll Lu Ll Lu 2Ll Lu Ll Lu Ll Lu Ll Lu Ll Lu Ll Lu Ll Lu Ll Lu Ll Lu Ll Lu Ll ",
      "Lu Ll Lu Ll Lu Ll Lu Ll Lu Ll Lu Ll Lu Ll Lu Ll Lu Ll Lu Ll Lu Ll Lu Ll Lu Ll Lu Ll Lu ",
      "Ll Lu Ll Lu Ll Lu Ll Lu Ll Lu Ll Lu Ll Lu Ll Lu Ll Lu Ll Lu Ll Lu Ll Lu Ll Lu Ll Lu Ll ",
      "Lu Ll Lu Ll Lu Ll Lu Ll Lu Ll Lu Ll Lu Ll Lu Ll Lu Ll Cn 26Lu 2Cn Lm 6Po 29Ll Po Pd 2Cn ",
      "2So Sc Cn 2dMn Pd Mn Po 2Mn Po 2Mn Po Mn 8Cn 1bLo 4Cn 4Lo 2Po bCn 6Cf 3Sm 2Po Sc 2Po ",
      "2So bMn Po Cf 3Po 20Lo Lm aLo 15Mn aNd 4Po 2Lo Mn 63Lo Po Lo 7Mn Cf So 6Mn 2Lm 2Mn So ",
      "4Mn 2Lo aNd 3Lo 2So Lo ePo Cn Cf Lo Mn 1eLo 1bMn 2Cn 59Lo bMn Lo eCn aNd 21Lo 9Mn 2Lm ",
      "So 3Po Lm 2Cn Mn 2Sc 16Lo 4Mn Lm 9Mn Lm 3Mn Lm 5Mn 2Cn fPo Cn 19Lo 3Mn 2Cn Po Cn bLo ",
      "5Cn 18Lo Sk 7Lo 2Cf 5Cn 9Mn 29Lo Lm 18Mn Cf 20Mn Mc 36Lo Mn Mc Mn Lo 3Mc 8Mn 4Mc Mn 2Mc ",
      "Lo 7Mn aLo 2Mn 2Po aNd Po Lm fLo Mn 2Mc Cn 8Lo 2Cn 2Lo 2Cn 16Lo Cn 7Lo Cn Lo 3Cn 4Lo ",
      "2Cn Mn Lo 3Mc 4Mn 2Cn 2Mc 2Cn 2Mc Mn Lo 8Cn Mc 4Cn 2Lo Cn 3Lo 2Mn 2Cn aNd 2Lo 2Sc 6No ",
      "So Sc Lo Po Mn 2Cn 2Mn Mc Cn 6Lo 4Cn 2Lo 2Cn 16Lo Cn 7Lo Cn 2Lo Cn 2Lo Cn 2Lo 2Cn Mn Cn ",
      "3Mc 2Mn 4Cn 2Mn 2Cn 3Mn 3Cn Mn 7Cn 4Lo Cn Lo 7Cn aNd 2Mn 3Lo Mn Po aCn 2Mn Mc Cn 9Lo Cn ",
      "3Lo Cn 16Lo Cn 7Lo Cn 2Lo Cn 5Lo 2Cn Mn Lo 3Mc 5Mn Cn 2Mn Mc Cn 2Mc Mn 2Cn Lo fCn 2Lo ",
      "2Mn 2Cn aNd Po Sc 7Cn Lo 6Mn Cn Mn 2Mc Cn 8Lo 2Cn 2Lo 2Cn 16Lo Cn 7Lo Cn 2Lo Cn 5Lo 2Cn ",
      "Mn Lo Mc Mn Mc 4Mn 2Cn 2Mc 2Cn 2Mc Mn 7Cn 2Mn Mc 4Cn 2Lo Cn 3Lo 2Mn 2Cn aNd So Lo 6No ",
      "aCn Mn Lo Cn 6Lo 3Cn 3Lo Cn 4Lo 3Cn 2Lo Cn Lo Cn 2Lo 3Cn 2Lo 3Cn 3Lo 3Cn cLo 4Cn 2Mc Mn ",
      "2Mc 3Cn 3Mc Cn 3Mc Mn 2Cn Lo 6Cn Mc eCn aNd 3No 6So Sc So 5Cn Mn 3Mc Mn 8Lo Cn 3Lo Cn ",
      "17Lo Cn 10Lo 2Cn Mn Lo 3Mn 4Mc Cn 3Mn Cn 4Mn 7Cn 2Mn Cn 3Lo Cn 2Lo 2Cn 2Lo 2Mn 2Cn aNd ",
      "7Cn Po 7No So Lo Mn 2Mc Po 8Lo Cn 3Lo Cn 17Lo Cn aLo Cn 5Lo 2Cn Mn Lo Mc Mn 5Mc Cn Mn ",
      "2Mc Cn 2Mc 2Mn 7Cn 2Mc 5Cn 3Lo Cn 2Lo 2Mn 2Cn aNd Cn 2Lo Mc cCn 2Mn 2Mc 9Lo Cn 3Lo Cn ",
      "29Lo 2Mn Lo 3Mc 4Mn Cn 3Mc Cn 3Mc Mn Lo So 4Cn 3Lo Mc 7No 3Lo 2Mn 2Cn aNd 9No So 6Lo Cn ",
      "Mn 2Mc Cn 12Lo 3Cn 18Lo Cn 9Lo Cn Lo 2Cn 7Lo 3Cn Mn 4Cn 3Mc 3Mn Cn Mn Cn 8Mc 6Cn aNd ",
      "2Cn 2Mc Po cCn 30Lo Mn 2Lo 7Mn 4Cn Sc 6Lo Lm 8Mn Po aNd 2Po 25Cn 2Lo Cn Lo Cn 5Lo Cn ",
      "18Lo Cn Lo Cn aLo Mn 2Lo 9Mn Lo 2Cn 5Lo Cn Lm Cn 7Mn Cn aNd 2Cn 4Lo 20Cn Lo 3So fPo So ",
      "Po 3So 2Mn 6So aNd aNo So Mn So Mn So Mn Ps Pe Ps Pe 2Mc 8Lo Cn 24Lo 4Cn eMn Mc 5Mn Po ",
      "2Mn 5Lo bMn Cn 24Mn Cn 8So Mn 6So Cn 2So 5Po 4So 2Po 25Cn 2bLo 2Mc 4Mn Mc 6Mn Mc 2Mn ",
      "2Mc 2Mn Lo aNd 6Po 6Lo 2Mc 2Mn 4Lo 3Mn Lo 3Mc 2Lo 7Mc 3Lo 4Mn dLo Mn 2Mc 2Mn 6Mc Mn Lo ",
      "Mc aNd 3Mc Mn 2So 26Lu Cn Lu 5Cn Lu 2Cn 2bLl Po Lm 3Ll 149Lo Cn 4Lo 2Cn 7Lo Cn Lo Cn ",
      "4Lo 2Cn 29Lo Cn 4Lo 2Cn 21Lo Cn 4Lo 2Cn 7Lo Cn Lo Cn 4Lo 2Cn fLo Cn 39Lo Cn 4Lo 2Cn ",
      "43Lo 2Cn 3Mn 9Po 14No 3Cn 10Lo aSo 6Cn 56Lu 2Cn 6Ll 2Cn Pd 26cLo So Po 11Lo Zs 1aLo Ps ",
      "Pe 3Cn 4bLo 3Po 3Nl 8Lo 7Cn 12Lo 3Mn Mc 9Cn 13Lo 2Mn Mc 2Po 9Cn 12Lo 2Mn cCn dLo Cn 3Lo ",
      "Cn 2Mn cCn 34Lo 2Mn Mc 7Mn 8Mc Mn 2Mc bMn 3Po Lm 3Po Sc Lo Mn 2Cn aNd 6Cn aNo 6Cn 6Po ",
      "Pd 4Po 3Mn Cf Mn aNd 6Cn 23Lo Lm 35Lo 7Cn 5Lo 2Mn 22Lo Mn Lo 5Cn 46Lo aCn 1fLo Cn 3Mn ",
      "4Mc 2Mn 3Mc 4Cn 2Mc Mn 6Mc 3Mn 4Cn So 3Cn 2Po aNd 1eLo 2Cn 5Lo bCn 2cLo 4Cn 1aLo 6Cn ",
      "aNd No 3Cn 22So 17Lo 2Mn 2Mc Mn 2Cn 2Po 35Lo Mc Mn Mc 7Mn Cn Mn Mc Mn 2Mc 8Mn 6Mc aMn ",
      "2Cn Mn aNd 6Cn aNd 6Cn 7Po Lm 6Po 2Cn eMn Me 1fMn 2Cn cMn 14Cn 4Mn Mc 2fLo Mn Mc 5Mn Mc ",
      "Mn 5Mc Mn 2Mc 8Lo Cn 2Po aNd 7Po aSo 9Mn 9So 3Po 2Mn Mc 1eLo Mc 4Mn 2Mc 2Mn Mc 3Mn 2Lo ",
      "aNd 2cLo Mn Mc 2Mn 3Mc Mn Mc 3Mn 2Mc 8Cn 4Po 24Lo 8Mc 8Mn 2Mc 2Mn 3Cn 5Po aNd 3Cn 3Lo ",
      "aNd 1eLo 6Lm 2Po 9Ll Lu Ll 5Cn 2bLu 2Cn 3Lu 8Po 8Cn 3Mn Po dMn Mc 7Mn 4Lo Mn 6Lo Mn 2Lo ",
      "Mc 2Mn Lo 5Cn 2cLl 3fLm dLl Lm 22Ll 25Lm 40Mn Lu Ll Lu Ll Lu Ll Lu Ll Lu Ll Lu Ll Lu Ll ",
      "Lu Ll Lu Ll Lu Ll Lu Ll Lu Ll Lu Ll Lu Ll Lu Ll Lu Ll Lu Ll Lu Ll Lu Ll Lu Ll Lu Ll Lu ",
      "Ll Lu Ll Lu Ll Lu Ll Lu Ll Lu Ll Lu Ll Lu Ll Lu Ll Lu Ll Lu Ll Lu Ll Lu Ll Lu Ll Lu Ll ",
      "Lu Ll Lu Ll Lu Ll Lu Ll Lu Ll Lu Ll Lu Ll Lu Ll Lu Ll Lu Ll Lu Ll Lu Ll Lu Ll Lu Ll Lu ",
      "Ll Lu Ll Lu Ll Lu Ll Lu Ll Lu Ll Lu Ll Lu Ll Lu Ll Lu Ll Lu Ll Lu Ll Lu Ll Lu Ll Lu Ll ",
      "Lu Ll Lu Ll Lu Ll Lu Ll Lu Ll Lu Ll Lu Ll Lu Ll Lu Ll Lu 9Ll Lu Ll Lu Ll Lu Ll Lu Ll Lu ",
      "Ll Lu Ll Lu Ll Lu Ll Lu Ll Lu Ll Lu Ll Lu Ll Lu Ll Lu Ll Lu Ll Lu Ll Lu Ll Lu Ll Lu Ll ",
      "Lu Ll Lu Ll Lu Ll Lu Ll Lu Ll Lu Ll Lu Ll Lu Ll Lu Ll Lu Ll Lu Ll Lu Ll Lu Ll Lu Ll Lu ",
      "Ll Lu Ll Lu Ll Lu Ll Lu Ll Lu Ll Lu Ll Lu Ll Lu Ll Lu Ll Lu Ll Lu Ll Lu Ll Lu Ll Lu Ll ",
      "Lu 9Ll 8Lu 6Ll 2Cn 6Lu 2Cn 8Ll 8Lu 8Ll 8Lu 6Ll 2Cn 6Lu 2Cn 8Ll Cn Lu Cn Lu Cn Lu Cn Lu ",
      "8Ll 8Lu eLl 2Cn 8Ll 8Lt 8Ll 8Lt 8Ll 8Lt 5Ll Cn 2Ll 4Lu Lt Sk Ll 3Sk 3Ll Cn 2Ll 4Lu Lt ",
      "3Sk 4Ll 2Cn 2Ll 4Lu Cn 3Sk 8Ll 5Lu 3Sk 2Cn 3Ll Cn 2Ll 4Lu Lt 2Sk Cn bZs 5Cf 6Pd 2Po Pi ",
      "Pf Ps 2Pi Pf Ps Pi 8Po Zl Zp 5Cf Zs 9Po Pi Pf 4Po 2Pc 3Po Sm Ps Pe bPo Sm Po Pc aPo Zs ",
      "5Cf Cn aCf No Lm 2Cn 6No 3Sm Ps Pe Lm aNo 3Sm Ps Pe Cn dLm 3Cn 22Sc eCn dMn 4Me Mn 3Me ",
      "cMn fCn 2So Lu 4So Lu 2So Ll 3Lu 2Ll 3Lu Ll So Lu 2So Sm 5Lu 6So Lu So Lu So Lu So 4Lu ",
      "So Ll 4Lu Ll 4Lo Ll 2So 2Ll 2Lu 5Sm Lu 4Ll So Sm 2So Ll So 10No 23Nl Lu Ll 4Nl No 2So ",
      "4Cn 5Sm 5So 2Sm 4So Sm 2So Sm 2So Sm 7So Sm 1fSo 2Sm 2So Sm So Sm 1fSo 10cSm 8So Ps Pe ",
      "Ps Pe 14So 2Sm 7So Ps Pe 51So Sm 1eSo 19Sm 28So 6Sm 48So 16Cn bSo 15Cn 3cNo 4eSo 16No ",
      "b7So Sm 9So Sm 36So 8Sm 6fSo Sm f8So Ps Pe Ps Pe Ps Pe Ps Pe Ps Pe Ps Pe Ps Pe 1eNo ",
      "2cSo 5Sm Ps Pe 1fSm Ps Pe Ps Pe Ps Pe Ps Pe Ps Pe 10Sm 100So 83Sm Ps Pe Ps Pe Ps Pe Ps ",
      "Pe Ps Pe Ps Pe Ps Pe Ps Pe Ps Pe Ps Pe Ps Pe 3fSm Ps Pe Ps Pe 20Sm Ps Pe 102Sm 30So ",
      "15Sm 2So 6Sm 27So 2Cn 8aSo 30Lu 30Ll Lu Ll 3Lu 2Ll Lu Ll Lu Ll Lu Ll 4Lu Ll Lu 2Ll Lu ",
      "6Ll 2Lm 3Lu Ll Lu Ll Lu Ll Lu Ll Lu Ll Lu Ll Lu Ll Lu Ll Lu Ll Lu Ll Lu Ll Lu Ll Lu Ll ",
      "Lu Ll Lu Ll Lu Ll Lu Ll Lu Ll Lu Ll Lu Ll Lu Ll Lu Ll Lu Ll Lu Ll Lu Ll Lu Ll Lu Ll Lu ",
      "Ll Lu Ll Lu Ll Lu Ll Lu Ll Lu Ll Lu Ll Lu Ll Lu Ll Lu Ll Lu Ll Lu Ll Lu Ll Lu Ll Lu Ll ",
      "Lu Ll Lu Ll Lu Ll Lu Ll Lu Ll Lu Ll Lu Ll Lu 2Ll 6So Lu Ll Lu Ll 3Mn Lu Ll 5Cn 4Po No ",
      "2Po 26Ll Cn Ll 5Cn Ll 2Cn 38Lo 7Cn Lm Po eCn Mn 17Lo 9Cn 7Lo Cn 7Lo Cn 7Lo Cn 7Lo Cn ",
      "7Lo Cn 7Lo Cn 7Lo Cn 7Lo Cn 20Mn 2Po Pi Pf Pi Pf 3Po Pi Pf Po Pi Pf 9Po Pd 2Po Pd Po Pi ",
      "Pf 2Po Pi Pf Ps Pe Ps Pe Ps Pe Ps Pe 5Po Lm aPo 2Pd 4Po Pd Po Ps dPo 2So 3Po Ps Pe Ps ",
      "Pe Ps Pe Ps Pe Pd 22Cn 1aSo Cn 59So cCn d6So 1aCn 10So Zs 3Po So Lm Lo Nl Ps Pe Ps Pe ",
      "Ps Pe Ps Pe Ps Pe 2So Ps Pe Ps Pe Ps Pe Ps Pe Pd Ps 2Pe So 9Nl 4Mn 2Mc Pd 5Lm 2So 3Nl ",
      "Lm Lo Po 2So Cn 56Lo 2Cn 2Mn 2Sk 2Lm Lo Pd 5aLo Po 3Lm Lo 5Cn 2bLo Cn 5eLo Cn 2So 4No ",
      "aSo 20Lo 26So 9Cn So 10Lo 1fSo Cn aNo 1eSo 8No So fNo 20So aNo 27So fNo 140So 19c0Lo ",
      "40So 5215Lo Lm 477Lo 3Cn 37So 9Cn 28Lo 6Lm 2Po 10cLo Lm 3Po 10Lo aNd 2Lo 14Cn Lu Ll Lu ",
      "Ll Lu Ll Lu Ll Lu Ll Lu Ll Lu Ll Lu Ll Lu Ll Lu Ll Lu Ll Lu Ll Lu Ll Lu Ll Lu Ll Lu Ll ",
      "Lu Ll Lu Ll Lu Ll Lu Ll Lu Ll Lu Ll Lu Ll Lo Mn 3Me Po aMn Po Lm Lu Ll Lu Ll Lu Ll Lu ",
      "Ll Lu Ll Lu Ll Lu Ll Lu Ll Lu Ll Lu Ll Lu Ll Lu Ll Lu Ll Lu Ll 2Lm 2Mn 46Lo aNl 2Mn 6Po ",
      "8Cn 17Sk 9Lm 2Sk Lu Ll Lu Ll Lu Ll Lu Ll Lu Ll Lu Ll Lu 3Ll Lu Ll Lu Ll Lu Ll Lu Ll Lu ",
      "Ll Lu Ll Lu Ll Lu Ll Lu Ll Lu Ll Lu Ll Lu Ll Lu Ll Lu Ll Lu Ll Lu Ll Lu Ll Lu Ll Lu Ll ",
      "Lu Ll Lu Ll Lu Ll Lu Ll Lu Ll Lu Ll Lu Ll Lu Ll Lu Ll Lu Ll Lu Ll Lu Ll Lm 8Ll Lu Ll Lu ",
      "Ll 2Lu Ll Lu Ll Lu Ll Lu Ll Lu Ll Lm 2Sk Lu Ll Lu Ll Lo Lu Ll Lu 3Ll Lu Ll Lu Ll Lu Ll ",
      "Lu Ll Lu Ll Lu Ll Lu Ll Lu Ll Lu Ll Lu Ll 5Lu Ll 5Lu Ll Lu Ll Lu Ll Lu Ll Lu Ll Lu Ll ",
      "Lu Ll Lu Ll 4Lu Ll Lu Ll 2Lu Ll Lu Ll Lu Ll Lu Ll Lu Ll Lu Ll Lu Ll Lu Ll Lu 14Cn 4Lm ",
      "Lu Ll Lo 2Lm Ll 7Lo Mn 3Lo Mn 4Lo Mn 17Lo 2Mc 2Mn Mc 4So Mn 3Cn 6No 2So Sc So 6Cn 34Lo ",
      "4Po 8Cn 2Mc 32Lo 10Mc 2Mn 8Cn 2Po aNd 6Cn 12Mn 6Lo 3Po Lo Po 2Lo Mn aNd 1cLo 8Mn 2Po ",
      "17Lo bMn 2Mc bCn Po 1dLo 3Cn 3Mn Mc 2fLo Mn 2Mc 4Mn 2Mc 2Mn 3Mc dPo Cn Lm aNd 4Cn 2Po ",
      "5Lo Mn Lm 9Lo aNd 5Lo Cn 29Lo 6Mn 2Mc 2Mn 2Mc 2Mn 9Cn 3Lo Mn 8Lo Mn Mc 2Cn aNd 2Cn 4Po ",
      "10Lo Lm 6Lo 3So Lo Mc Mn Mc 32Lo Mn Lo 3Mn 2Lo 2Mn 5Lo 2Mn Lo Mn Lo 18Cn 2Lo Lm 2Po bLo ",
      "Mc 2Mn 2Mc 2Po Lo 2Lm Mc Mn aCn 6Lo 2Cn 6Lo 2Cn 6Lo 9Cn 7Lo Cn 7Lo Cn 2bLl Sk 4Lm 9Ll ",
      "Lm 2Sk 4Cn 50Ll 23Lo 2Mc Mn 2Mc Mn 2Mc Po Mc Mn 2Cn aNd 6Cn 2ba4Lo cCn 17Lo 4Cn 31Lo ",
      "4Cn 800Cs 1900Co 16eLo 2Cn 6aLo 26Cn 7Ll cCn 5Ll 5Cn Lo Mn aLo Sm dLo Cn 5Lo Cn Lo Cn ",
      "2Lo Cn 2Lo Cn 6cLo 11Sk 10So 16bLo Pe Ps 10So 40Lo 2So 36Lo 8So 20Cn cLo Sc 3So 10Mn ",
      "7Po Ps Pe Po 6Cn 10Mn Po 2Pd 2Pc Ps Pe Ps Pe Ps Pe Ps Pe Ps Pe Ps Pe Ps Pe Ps Pe 2Po Ps ",
      "Pe 4Po 3Pc 3Po Cn 4Po Pd Ps Pe Ps Pe Ps Pe 3Po Sm Pd 3Sm Cn Po Sc 2Po 4Cn 5Lo Cn 87Lo ",
      "2Cn Cf Cn 3Po Sc 3Po Ps Pe Po Sm Po Pd 2Po aNd 2Po 3Sm 2Po 1aLu Ps Po Pe Sk Pc Sk 1aLl ",
      "Ps Sm Pe Sm Ps Pe Po Ps Pe 2Po aLo Lm 2dLo 2Lm 1fLo 3Cn 6Lo 2Cn 6Lo 2Cn 6Lo 2Cn 3Lo 3Cn ",
      "2Sc Sm Sk So 2Sc Cn So 4Sm 2So aCn 3Cf 2So 2Cn cLo Cn 1aLo Cn 13Lo Cn 2Lo Cn fLo 2Cn ",
      "eLo 22Cn 7bLo 5Cn 3Po 4Cn 2dNo 3Cn 9So 35Nl 4No 11So 2No 3So Cn dSo 3Cn So 2fCn 2dSo Mn ",
      "82Cn 1dLo 3Cn 31Lo fCn Mn 1bNo 4Cn 20Lo 4No 9Cn 14Lo Nl 8Lo Nl 5Cn 26Lo 5Mn 5Cn 1eLo Cn ",
      "Po 24Lo 4Cn 8Lo Po 5Nl 2aCn 28Lu 28Ll 4eLo 2Cn aNd 6Cn 24Lu 4Cn 24Ll 4Cn 28Lo 8Cn 34Lo ",
      "bCn Po bLu Cn fLu Cn 7Lu Cn 2Lu Cn bLl Cn fLl Cn 7Ll Cn 2Ll 3Cn 34Lo cCn 137Lo 9Cn 16Lo ",
      "aCn 8Lo 18Cn 6Lm Cn 2aLm Cn 9Lm 45Cn 6Lo 2Cn Lo Cn 2cLo Cn 2Lo 3Cn Lo 2Cn 17Lo Cn Po ",
      "8No 17Lo 2So 7No 1fLo 8Cn 9No 30Cn 13Lo Cn 2Lo 5Cn 5No 16Lo 6No 3Cn Po 1aLo 5Cn Po 1aLo ",
      "26Cn 38Lo 4Cn 2No 2Lo 10No 2Cn 2eNo Lo 3Mn Cn 2Mn 5Cn 4Mn 4Lo Cn 3Lo Cn 1dLo 2Cn 3Mn ",
      "4Cn Mn 9No 7Cn 9Po 7Cn 1dLo 2No Po 1dLo 3No 20Cn 8Lo So 1cLo 2Mn 4Cn 5No 7Po 9Cn 36Lo ",
      "3Cn 7Po 16Lo 2Cn 8No 13Lo 5Cn 8No 12Lo 7Cn 4Po cCn 7No 50Cn 49Lo 37Cn 33Lu dCn 33Ll 7Cn ",
      "6No 24Lo 4Mn 8Cn aNd 6Cn aNd 4Lo Lm Lo 16Lu 3Cn 5Mn Pd Lm 16Ll 8Cn 2Sm d0Cn 1fNo Cn ",
      "2aLo Cn 2Mn Pd 2Cn 2Lo 10Cn 3Lo Lm 2Lo 8Cn Po 8So 21Cn 6Mn 1dLo aNo Lo 8Cn 16Lo bMn 4No ",
      "5Po 16Cn 12Lo 4Mn 4Po 26Cn 15Lo 7No 14Cn 17Lo 9Cn Mc Mn Mc 35Lo fMn 7Po 4Cn 14No aNd Mn ",
      "2Lo 2Mn Lo 9Cn 3Mn Mc 2dLo 3Mc 4Mn 2Mc 2Mn 2Po Cf 4Po Mn aCn Cf 2Cn 19Lo 7Cn aNd 6Cn ",
      "3Mn 24Lo 5Mn Mc 8Mn Cn aNd 4Po Lo 2Mc Lo 8Cn 23Lo Mn 2Po Lo 9Cn 2Mn Mc 30Lo 3Mc 9Mn 2Mc ",
      "4Lo 4Po 4Mn Po Mc Mn aNd Lo Po Lo 3Po Cn 14No bCn 12Lo Cn 19Lo 3Mc 3Mn 2Mc Mn Mc 2Mn ",
      "6Po Mn 2Lo Mn 3eCn 7Lo Cn Lo Cn 4Lo Cn fLo Cn aLo Po 6Cn 2fLo Mn 3Mc 8Mn 5Cn aNd 6Cn ",
      "2Mn 2Mc Cn 8Lo 2Cn 2Lo 2Cn 16Lo Cn 7Lo Cn 2Lo Cn 5Lo Cn 2Mn Lo 2Mc Mn 4Mc 2Cn 2Mc 2Cn ",
      "3Mc 2Cn Lo 6Cn Mc 5Cn 5Lo 2Mc 2Cn 7Mn 3Cn 5Mn bCn aLo Cn Lo 2Cn Lo Cn 26Lo Cn Lo 3Mc ",
      "6Mn Cn Mc 2Cn Mc Cn 4Mc Cn 2Mc Mn Mc Mn Lo Mn Lo 2Po Cn 2Po 8Cn 2Mn 1dCn 35Lo 3Mc 8Mn ",
      "2Mc 3Mn Mc Mn 4Lo 5Po aNd 2Po Cn Po Mn 3Lo 1eCn 30Lo 3Mc 6Mn Mc Mn 4Mc 2Mn Mc 2Mn 2Lo ",
      "Po Lo 8Cn aNd a6Cn 2fLo 3Mc 4Mn 2Cn 4Mc 2Mn Mc 2Mn 17Po 4Lo 2Mn 22Cn 30Lo 3Mc 8Mn 2Mc ",
      "Mn Mc 2Mn 3Po Lo bCn aNd 6Cn dPo 13Cn 2bLo Mn Mc Mn 2Mc 6Mn Mc Mn Lo Po 6Cn aNd 6Cn ",
      "14Nd 1cCn 1bLo 2Cn Mn Mc Mn 2Mc 4Mn Mc 5Mn 4Cn aNd 2No 3Po So 7Lo b9Cn 2cLo 3Mc 9Mn Mc ",
      "2Mn Po 64Cn 20Lu 20Ll aNd 9No cCn 8Lo 2Cn Lo 2Cn 8Lo Cn 2Lo Cn 18Lo 6Mc Cn 2Mc 2Cn 2Mn ",
      "Mc Mn Lo Mc Lo Mc Mn 3Po 9Cn aNd 46Cn 8Lo 2Cn 27Lo 3Mc 4Mn 2Cn 2Mn 4Mc Mn Lo Po Lo Mc ",
      "1bCn Lo aMn 28Lo 6Mn Mc Lo 4Mn 8Po Mn 8Cn Lo 6Mn 2Mc 3Mn 2eLo dMn Mc 2Mn 3Po Lo 5Po dCn ",
      "49Lo 7Cn aPo 56Cn Mn Mc 3Mn Mc Mn Mc 58Cn 21Lo Po eCn aNd 6Cn 9Lo Cn 25Lo Mc 7Mn Cn 6Mn ",
      "Mc Mn Lo 5Po aCn aNd 13No 3Cn 2Po 1eLo 2Cn 16Mn Cn Mc 7Mn Mc 2Mn Mc 2Mn 49Cn 7Lo Cn 2Lo ",
      "Cn 26Lo 6Mn 3Cn Mn Cn 2Mn Cn 7Mn Lo Mn 8Cn aNd 6Cn 6Lo Cn 2Lo Cn 20Lo 5Mc Cn 2Mn Cn 2Mc ",
      "Mn Mc Mn Lo 7Cn aNd 6Cn 29Lo Lm 2Lo 4Cn aNd f6Cn 13Lo 2Mn 2Mc 2Po 7Cn 2Mn Lo Mc dLo Cn ",
      "22Lo 2Mc 5Mn 3Cn 2Mc Mn Mc Mn dPo aNd Mn 55Cn Lo fCn 15No 8So 4Sc 11So dCn Po 39aLo ",
      "66Cn 6fNl Cn 5Po bCn c4Lo a4cCn 61Lo 2Po dCn 430Lo 10Cf Mn 6Lo fMn aCn f9bLo 5Cn 247Lo ",
      "1ab9Cn 1eLo cMn 3Mc 3Mn aNd 6c6Cn 239Lo 7Cn 1fLo Cn aNd 4Cn 2Po 4fLo Cn aNd 6Cn 1eLo ",
      "2Cn 5Mn Po aCn 30Lo 7Mn 5Po 4So 4Lm Po So aCn aNd Cn 7No Cn 15Lo 5Cn 13Lo 1b0Cn 3Lm ",
      "28Lo 2Lm 3Po aNd c6Cn 20Lu 20Ll 17No 4Po 5Cn 19Lu 2Cn 19Ll 2cCn 4bLo 4Cn Mn Lo 37Mc 7Cn ",
      "4Mn dLm 40Cn 2Lm Po Lm Mn bCn 2Mc 2Lm 3Nl 9Cn 1cd6Lo 29Cn 20Lo 61Cn 73Lo 21fdCn 4Lm Cn ",
      "7Lm Cn 2Lm Cn 123Lo fCn Lo 1dCn 3Lo 2Cn Lo eCn 4Lo 8Cn 18cLo 904Cn 6bLo 5Cn dLo 3Cn 9Lo ",
      "7Cn aLo 2Cn So 2Mn Po 4Cf f5cCn f0So aNd 3So 3Cn 1b4So 6Cn 17So fCn 10So Sm fCn 2eMn ",
      "2Cn 17Mn 9Cn 74So 3cCn f6So aCn 27So 2Cn 3cSo 2Mc 3Mn 3So 6Mc 8Cf 8Mn 2So 7Mn 1eSo 4Mn ",
      "3dSo 15Cn 42So 3Mn So 7aCn 14No cCn 14No cCn 57So 9Cn 19No 87Cn 1aLu 1aLl 1aLu 7Ll Cn ",
      "12Ll 1aLu 1aLl Lu Cn 2Lu 2Cn Lu 2Cn 2Lu 2Cn 4Lu Cn 8Lu 4Ll Cn Ll Cn 7Ll Cn bLl 1aLu ",
      "1aLl 2Lu Cn 4Lu 2Cn 8Lu Cn 7Lu Cn 1aLl 2Lu Cn 4Lu Cn 5Lu Cn Lu 3Cn 7Lu Cn 1aLl 1aLu ",
      "1aLl 1aLu 1aLl 1aLu 1aLl 1aLu 1aLl 1aLu 1aLl 1aLu 1cLl 2Cn 19Lu Sm 19Ll Sm 6Ll 19Lu Sm ",
      "19Ll Sm 6Ll 19Lu Sm 19Ll Sm 6Ll 19Lu Sm 19Ll Sm 6Ll 19Lu Sm 19Ll Sm 6Ll Lu Ll 2Cn 32Nd ",
      "200So 37Mn 4So 32Mn 8So Mn eSo Mn 2So 5Po fCn 5Mn Cn fMn 450Cn aLl Lo 14Ll 6Cn 6Ll d5Cn ",
      "7Mn Cn 11Mn 2Cn 7Mn Cn 2Mn Cn 5Mn 5Cn 3eLm 21Cn Mn 70Cn 2dLo 3Cn 7Mn 7Lm 2Cn aNd 4Cn Lo ",
      "So 140Cn 1eLo Mn 11Cn 2cLo 4Mn aNd 5Cn Sc 1d0Cn 1bLo Lm 4Mn aNd d6Cn 1eLo 2Mn Lo aNd ",
      "4Cn Po c0Cn 1fLo Cn 3Lo Mn 2Lo Mn 7Lo 2Mn 5Lo Mn 8Cn Lo Lm e0Cn 7Lo Cn 4Lo Cn 2Lo Cn ",
      "fLo Cn c5Lo 2Cn 9No 7Mn 29Cn 22Lu 22Ll 7Mn Lm 4Cn aNd 4Cn 2Po 311Cn 3bNo So 3No Sc 4No ",
      "4cCn 2dNo So fNo c2Cn 4Lo Cn 1bLo Cn 2Lo Cn Lo 2Cn Lo Cn aLo Cn 4Lo Cn Lo Cn Lo 6Cn Lo ",
      "4Cn Lo Cn Lo Cn Lo Cn 3Lo Cn 2Lo Cn Lo 2Cn Lo Cn Lo Cn Lo Cn Lo Cn Lo Cn 2Lo Cn Lo 2Cn ",
      "4Lo Cn 7Lo Cn 4Lo Cn 4Lo Cn Lo Cn aLo Cn 11Lo 5Cn 3Lo Cn 5Lo Cn 11Lo 34Cn 2Sm 10eCn ",
      "2cSo 4Cn 64So cCn fSo 2Cn fSo Cn fSo Cn 25So aCn dNo a1So 38Cn 1dSo dCn 2cSo 4Cn 9So ",
      "7Cn 2So eCn 6So 9aCn fbSo 5Sk 2d9So 3Cn 11So 3Cn dSo 3Cn daSo 6Cn cSo 4Cn So fCn cSo ",
      "4Cn 38So 8Cn aSo 6Cn 28So 8Cn 1eSo 2Cn cSo 4Cn 2So eCn 9Sm 27Cn 158So 8Cn eSo 2Cn dSo ",
      "3Cn bSo 3Cn 39So Cn So 4Cn 10So 2Cn cSo 4Cn aSo 7Cn 93So Cn 5cSo aNd So 405Cn a6e0Lo ",
      "20Cn 111eLo 2Cn 168eLo 2Cn 1d31Lo fCn 26eLo 9a2Cn 21eLo 5e2Cn 134bLo 5Cn 212aLo acb87Cn ",
      "Cf 1eCn 60Cf 80Cn f0Mn fe10Cn fffeCo 2Cn fffeCo 2Cn"]).toList 0 none

/-- The category of the run that position `c` falls into. -/
def inRuns : List (Nat × Category) → Nat → Category
  | [], _ => .cn
  | (n, g) :: r, c => if c < n then g else inRuns r (c - n)

/-- The category of an ASCII character that is neither a letter nor a digit. -/
def ofAsciiSign (c : Char) : Category :=
  if c.toNat < 32 ∨ c.toNat = 127 then .cc
  else if c = ' ' then .zs
  else if c = '_' then .pc
  else if c = '-' then .pd
  else if c ∈ ['(', '[', '\x7b'] then .ps
  else if c ∈ [')', ']', '\x7d'] then .pe
  else if c ∈ ['+', '<', '=', '>', '|', '~'] then .sm
  else if c = '$' then .sc
  else if c ∈ ['^', '\x60'] then .sk
  else .po

/-- The general category of a character. -/
def of (c : Char) : Category :=
  if c.toNat < 128 then
    if c.isUpper then .lu
    else if c.isLower then .ll
    else if c.isDigit then .nd
    else ofAsciiSign c
  else inRuns runs c.toNat

end Category

end TokenClassifier.Unicode
