import TokenClassifier.Unicode.Category

/-!
# Scripts

A script is named by its four-letter code. A character has one script of its own, read off a
table of runs just as its general category is, and a set of scripts that it is used with: for
most characters this is the one script, and a second table lists the others.
-/

namespace TokenClassifier.Unicode

/-- A script, by its four-letter code such as `Grek` or `Hani`. -/
structure Script where
  code : List Char
  deriving DecidableEq, Repr, Inhabited

namespace Script

/-- The code of the characters that belong to no script. -/
def unknown : Script := ⟨['Z', 'z', 'z', 'z']⟩

/-! ## The table of runs -/

/-- Reads runs written as a length in hexadecimal (left out when it is one) followed by the
four letters of the script. `n` is the length read so far and `code` the letters read so far. -/
def readRuns : List Char → Nat → List Char → List (Nat × Script)
  | [], _, _ => []
  | c :: cs, n, [] =>
    if c = ' ' then readRuns cs n []
    else if c.isUpper then readRuns cs n [c]
    else readRuns cs (16 * n + Category.hexDigit c) []
  | c :: cs, n, code =>
    if code.length = 3 then (if n = 0 then 1 else n, ⟨code ++ [c]⟩) :: readRuns cs 0 []
    else readRuns cs n (code ++ [c])

/-- The runs of equal script, from code point zero to the last. -/
def runs : List (Nat × Script) :=
  readRuns (String.join [
      "41Zyyy 1aLatn 6Zyyy 1aLatn 2fZyyy Latn fZyyy Latn 5Zyyy 17Latn Zyyy 1fLatn Zyyy 1c1Latn ",
      "27Zyyy 5Latn 5Zyyy 2Bopo 14Zyyy 70Zinh 4Grek Zyyy 3Grek 2Zzzz 4Grek Zyyy Grek 4Zzzz ",
      "Grek Zyyy Grek Zyyy 3Grek Zzzz Grek Zzzz 14Grek Zzzz 3fGrek eCopt 10Grek 85Cyrl 2Zinh ",
      "a9Cyrl Zzzz 26Armn 2Zzzz 32Armn 2Zzzz 3Armn Zzzz 37Hebr 8Zzzz 1bHebr 4Zzzz 6Hebr bZzzz ",
      "5Arab Zyyy 6Arab Zyyy eArab Zyyy 3Arab Zyyy 20Arab Zyyy aArab bZinh 1aArab Zinh 6cArab ",
      "Zyyy 22Arab eSyrc Zzzz 3cSyrc 2Zzzz 3Syrc 30Arab 32Thaa eZzzz 3bNkoo 2Zzzz 3Nkoo 2eSamr ",
      "2Zzzz fSamr Zzzz 1cMand 2Zzzz Mand Zzzz bSyrc 5Zzzz 22Arab 5Zzzz 4bArab Zyyy 1dArab ",
      "51Deva 4Zinh fDeva 2Zyyy 1aDeva 4Beng Zzzz 8Beng 2Zzzz 2Beng 2Zzzz 16Beng Zzzz 7Beng ",
      "Zzzz Beng 3Zzzz 4Beng 2Zzzz 9Beng 2Zzzz 2Beng 2Zzzz 4Beng 8Zzzz Beng 4Zzzz 2Beng Zzzz ",
      "5Beng 2Zzzz 19Beng 2Zzzz 3Guru Zzzz 6Guru 4Zzzz 2Guru 2Zzzz 16Guru Zzzz 7Guru Zzzz ",
      "2Guru Zzzz 2Guru Zzzz 2Guru 2Zzzz Guru Zzzz 5Guru 4Zzzz 2Guru 2Zzzz 3Guru 3Zzzz Guru ",
      "7Zzzz 4Guru Zzzz Guru 7Zzzz 11Guru aZzzz 3Gujr Zzzz 9Gujr Zzzz 3Gujr Zzzz 16Gujr Zzzz ",
      "7Gujr Zzzz 2Gujr Zzzz 5Gujr 2Zzzz aGujr Zzzz 3Gujr Zzzz 3Gujr 2Zzzz Gujr fZzzz 4Gujr ",
      "2Zzzz cGujr 7Zzzz 7Gujr Zzzz 3Orya Zzzz 8Orya 2Zzzz 2Orya 2Zzzz 16Orya Zzzz 7Orya Zzzz ",
      "2Orya Zzzz 5Orya 2Zzzz 9Orya 2Zzzz 2Orya 2Zzzz 3Orya 7Zzzz 3Orya 4Zzzz 2Orya Zzzz 5Orya ",
      "2Zzzz 12Orya aZzzz 2Taml Zzzz 6Taml 3Zzzz 3Taml Zzzz 4Taml 3Zzzz 2Taml Zzzz Taml Zzzz ",
      "2Taml 3Zzzz 2Taml 3Zzzz 3Taml 3Zzzz cTaml 4Zzzz 5Taml 3Zzzz 3Taml Zzzz 4Taml 2Zzzz Taml ",
      "6Zzzz Taml eZzzz 15Taml 5Zzzz dTelu Zzzz 3Telu Zzzz 17Telu Zzzz 10Telu 2Zzzz 9Telu Zzzz ",
      "3Telu Zzzz 4Telu 7Zzzz 2Telu Zzzz 3Telu Zzzz 2Telu 2Zzzz 4Telu 2Zzzz aTelu 7Zzzz 9Telu ",
      "dKnda Zzzz 3Knda Zzzz 17Knda Zzzz aKnda Zzzz 5Knda 2Zzzz 9Knda Zzzz 3Knda Zzzz 4Knda ",
      "7Zzzz 2Knda 5Zzzz 3Knda Zzzz 4Knda 2Zzzz aKnda Zzzz 3Knda cZzzz dMlym Zzzz 3Mlym Zzzz ",
      "33Mlym Zzzz 3Mlym Zzzz 6Mlym 4Zzzz 10Mlym 2Zzzz 1aMlym Zzzz 3Sinh Zzzz 12Sinh 3Zzzz ",
      "18Sinh Zzzz 9Sinh Zzzz Sinh 2Zzzz 7Sinh 3Zzzz Sinh 4Zzzz 6Sinh Zzzz Sinh Zzzz 8Sinh ",
      "6Zzzz aSinh 2Zzzz 3Sinh cZzzz 3aThai 4Zzzz Zyyy 1cThai 25Zzzz 2Laoo Zzzz Laoo Zzzz ",
      "5Laoo Zzzz 18Laoo Zzzz Laoo Zzzz 17Laoo 2Zzzz 5Laoo Zzzz Laoo Zzzz 7Laoo Zzzz aLaoo ",
      "2Zzzz 4Laoo 20Zzzz 48Tibt Zzzz 24Tibt 4Zzzz 27Tibt Zzzz 24Tibt Zzzz fTibt Zzzz 7Tibt ",
      "4Zyyy 2Tibt 25Zzzz a0Mymr 26Geor Zzzz Geor 5Zzzz Geor 2Zzzz 2bGeor Zyyy 4Geor 100Hang ",
      "49Ethi Zzzz 4Ethi 2Zzzz 7Ethi Zzzz Ethi Zzzz 4Ethi 2Zzzz 29Ethi Zzzz 4Ethi 2Zzzz 21Ethi ",
      "Zzzz 4Ethi 2Zzzz 7Ethi Zzzz Ethi Zzzz 4Ethi 2Zzzz fEthi Zzzz 39Ethi Zzzz 4Ethi 2Zzzz ",
      "43Ethi 2Zzzz 20Ethi 3Zzzz 1aEthi 6Zzzz 56Cher 2Zzzz 6Cher 2Zzzz 280Cans 1dOgam 3Zzzz ",
      "4bRunr 3Zyyy bRunr 7Zzzz 16Tglg 9Zzzz Tglg 15Hano 2Zyyy 9Zzzz 14Buhd cZzzz dTagb Zzzz ",
      "3Tagb Zzzz 2Tagb cZzzz 5eKhmr 2Zzzz aKhmr 6Zzzz aKhmr 6Zzzz 2Mong 2Zyyy Mong Zyyy ",
      "14Mong 6Zzzz 59Mong 7Zzzz 2bMong 5Zzzz 46Cans aZzzz 1fLimb Zzzz cLimb 4Zzzz cLimb 4Zzzz ",
      "Limb 3Zzzz cLimb 1eTale 2Zzzz 5Tale bZzzz 2cTalu 4Zzzz 1aTalu 6Zzzz bTalu 3Zzzz 2Talu ",
      "20Khmr 1cBugi 2Zzzz 2Bugi 3fLana Zzzz 1dLana 2Zzzz bLana 6Zzzz aLana 6Zzzz eLana 2Zzzz ",
      "2eZinh 2Zzzz cZinh 14Zzzz 4dBali Zzzz 32Bali 40Sund 34Batk 8Zzzz 4Batk 38Lepc 3Zzzz ",
      "fLepc 3Zzzz 3Lepc 30Olck bCyrl 5Zzzz 2bGeor 2Zzzz 3Geor 8Sund 8Zzzz 3Zinh Zyyy dZinh ",
      "Zyyy 7Zinh 4Zyyy Zinh 6Zyyy Zinh 3Zyyy 2Zinh Zyyy 5Zzzz 26Latn 5Grek Cyrl 31Latn 5Grek ",
      "4Latn 5Grek dLatn Cyrl 46Latn Grek 40Zinh 100Latn 16Grek 2Zzzz 6Grek 2Zzzz 26Grek 2Zzzz ",
      "6Grek 2Zzzz 8Grek Zzzz Grek Zzzz Grek Zzzz Grek Zzzz 1fGrek 2Zzzz 35Grek Zzzz fGrek ",
      "Zzzz eGrek 2Zzzz 6Grek Zzzz 13Grek 2Zzzz 3Grek Zzzz 9Grek Zzzz cZyyy 2Zinh 57Zyyy Zzzz ",
      "bZyyy Latn 2Zzzz bZyyy Latn fZyyy Zzzz dLatn 3Zzzz 22Zyyy eZzzz 21Zinh fZzzz 26Zyyy ",
      "Grek 3Zyyy 2Latn 6Zyyy Latn 1bZyyy Latn 11Zyyy 29Latn 3Zyyy 4Zzzz 29aZyyy 16Zzzz bZyyy ",
      "15Zzzz 3a0Zyyy 100Brai 274Zyyy 2Zzzz 8aZyyy 60Glag 20Latn 74Copt 5Zzzz 7Copt 26Geor ",
      "Zzzz Geor 5Zzzz Geor 2Zzzz 38Tfng 7Zzzz 2Tfng eZzzz Tfng 17Ethi 9Zzzz 7Ethi Zzzz 7Ethi ",
      "Zzzz 7Ethi Zzzz 7Ethi Zzzz 7Ethi Zzzz 7Ethi Zzzz 7Ethi Zzzz 7Ethi Zzzz 20Cyrl 5eZyyy ",
      "22Zzzz 1aHani Zzzz 59Hani cZzzz d6Hani 1aZzzz 15Zyyy Hani Zyyy Hani 19Zyyy 9Hani 4Zinh ",
      "2Hang 8Zyyy 4Hani 4Zyyy Zzzz 56Hira 2Zzzz 2Zinh 2Zyyy 3Hira Zyyy 5aKana 2Zyyy 3Kana ",
      "5Zzzz 2bBopo Zzzz 5eHang Zzzz 10Zyyy 20Bopo 26Zyyy 9Zzzz Zyyy 10Kana 1fHang Zzzz 40Zyyy ",
      "1fHang 51Zyyy 2fKana Zyyy 58Kana a8Zyyy 19c0Hani 40Zyyy 5200Hani 48dYiii 3Zzzz 37Yiii ",
      "9Zzzz 30Lisu 12cVaii 14Zzzz 60Cyrl 58Bamu 8Zzzz 22Zyyy 66Latn 3Zyyy 52Latn 14Zzzz fLatn ",
      "2dSylo 3Zzzz aZyyy 6Zzzz 38Phag 8Zzzz 46Saur 8Zzzz cSaur 6Zzzz 20Deva 2eKali Zyyy Kali ",
      "24Rjng bZzzz Rjng 1dHang 3Zzzz 4eJava Zzzz Zyyy aJava 4Zzzz 2Java 1fMymr Zzzz 37Cham ",
      "9Zzzz eCham 2Zzzz aCham 2Zzzz 4Cham 20Mymr 43Tavt 18Zzzz 5Tavt 17Mtei aZzzz 6Ethi 2Zzzz ",
      "6Ethi 2Zzzz 6Ethi 9Zzzz 7Ethi Zzzz 7Ethi Zzzz 2bLatn Zyyy 9Latn Grek 4Latn 2Zyyy 4Zzzz ",
      "50Cher 2eMtei 2Zzzz aMtei 6Zzzz 2ba4Hang cZzzz 17Hang 4Zzzz 31Hang 2104Zzzz 16eHani ",
      "2Zzzz 6aHani 26Zzzz 7Latn cZzzz 5Armn 5Zzzz 1aHebr Zzzz 5Hebr Zzzz Hebr Zzzz 2Hebr Zzzz ",
      "2Hebr Zzzz aHebr 1eeArab 2Zyyy 90Arab 20Zzzz 10Arab 10Zinh aZyyy 6Zzzz eZinh 2Cyrl ",
      "23Zyyy Zzzz 13Zyyy Zzzz 4Zyyy 4Zzzz 5Arab Zzzz 87Arab 2Zzzz Zyyy Zzzz 20Zyyy 1aLatn ",
      "6Zyyy 1aLatn bZyyy aKana Zyyy 2dKana 2Zyyy 1fHang 3Zzzz 6Hang 2Zzzz 6Hang 2Zzzz 6Hang ",
      "2Zzzz 3Hang 3Zzzz 7Zyyy Zzzz 7Zyyy aZzzz 5Zyyy 2Zzzz cLinb Zzzz 1aLinb Zzzz 13Linb Zzzz ",
      "2Linb Zzzz fLinb 2Zzzz eLinb 22Zzzz 7bLinb 5Zzzz 3Zyyy 4Zzzz 2dZyyy 3Zzzz 9Zyyy 4fGrek ",
      "Zzzz dZyyy 3Zzzz Grek 2fZzzz 2dZyyy Zinh 82Zzzz 1dLyci 3Zzzz 31Cari fZzzz Zinh 1bZyyy ",
      "4Zzzz 24Ital 9Zzzz 3Ital 1bGoth 5Zzzz 2bPerm 5Zzzz 1eUgar Zzzz Ugar 24Xpeo 4Zzzz eXpeo ",
      "2aZzzz 50Dsrt 30Shaw 1eOsma 2Zzzz aOsma 6Zzzz 24Osge 4Zzzz 24Osge 4Zzzz 28Elba 8Zzzz ",
      "34Aghb bZzzz Aghb bVith Zzzz fVith Zzzz 7Vith Zzzz 2Vith Zzzz bVith Zzzz fVith Zzzz ",
      "7Vith Zzzz 2Vith 3Zzzz 34Todr cZzzz 137Lina 9Zzzz 16Lina aZzzz 8Lina 18Zzzz 6Latn Zzzz ",
      "2aLatn Zzzz 9Latn 45Zzzz 6Cprt 2Zzzz Cprt Zzzz 2cCprt Zzzz 2Cprt 3Zzzz Cprt 2Zzzz Cprt ",
      "16Armi Zzzz 9Armi 20Palm 1fNbat 8Zzzz 9Nbat 30Zzzz 13Hatr Zzzz 2Hatr 5Zzzz 5Hatr 1cPhnx ",
      "3Zzzz Phnx 1aLydi 5Zzzz Lydi 1aSidt 26Zzzz 20Mero 18Merc 4Zzzz 14Merc 2Zzzz 2eMerc ",
      "4Khar Zzzz 2Khar 5Zzzz 8Khar Zzzz 3Khar Zzzz 1dKhar 2Zzzz 3Khar 4Zzzz aKhar 7Zzzz 9Khar ",
      "7Zzzz 20Sarb 20Narb 20Zzzz 27Mani 4Zzzz cMani 9Zzzz 36Avst 3Zzzz 7Avst 16Prti 2Zzzz ",
      "8Prti 13Phli 5Zzzz 8Phli 12Phlp 7Zzzz 4Phlp cZzzz 7Phlp 50Zzzz 49Orkh 37Zzzz 33Hung ",
      "dZzzz 33Hung 7Zzzz 6Hung 28Rohg 8Zzzz aRohg 6Zzzz 26Gara 3Zzzz 1dGara 8Zzzz 2Gara ",
      "d0Zzzz 1fArab Zzzz 2aYezi Zzzz 3Yezi 2Zzzz 2Yezi 10Zzzz 6Arab 8Zzzz 9Arab 21Zzzz 6Arab ",
      "28Sogo 8Zzzz 2aSogd 16Zzzz 1aOugr 26Zzzz 1cChrs 14Zzzz 17Elym 9Zzzz 4eBrah 4Zzzz 24Brah ",
      "9Zzzz Brah 43Kthi aZzzz Kthi 2Zzzz 19Sora 7Zzzz aSora 6Zzzz 35Cakm Zzzz 12Cakm 8Zzzz ",
      "27Mahj 9Zzzz 60Shrd Zzzz 14Sinh bZzzz 12Khoj Zzzz 2fKhoj 3eZzzz 7Mult Zzzz Mult Zzzz ",
      "4Mult Zzzz fMult Zzzz bMult 6Zzzz 3bSind 5Zzzz aSind 6Zzzz 4Gran Zzzz 8Gran 2Zzzz 2Gran ",
      "2Zzzz 16Gran Zzzz 7Gran Zzzz 2Gran Zzzz 5Gran Zzzz Zinh 9Gran 2Zzzz 2Gran 2Zzzz 3Gran ",
      "2Zzzz Gran 6Zzzz Gran 5Zzzz 7Gran 2Zzzz 7Gran 3Zzzz 5Gran bZzzz aTutg Zzzz Tutg 2Zzzz ",
      "Tutg Zzzz 26Tutg Zzzz aTutg Zzzz Tutg 2Zzzz Tutg Zzzz 4Tutg Zzzz aTutg Zzzz 2Tutg 8Zzzz ",
      "2Tutg 1dZzzz 5cNewa Zzzz 5Newa 1eZzzz 48Tirh 8Zzzz aTirh a6Zzzz 36Sidd 2Zzzz 26Sidd ",
      "22Zzzz 45Modi bZzzz aModi 6Zzzz dMong 13Zzzz 3aTakr 6Zzzz aTakr 6Zzzz 14Mymr 1cZzzz ",
      "1bAhom 2Zzzz fAhom 4Zzzz 17Ahom b9Zzzz 3cDogr 64Zzzz 53Wara cZzzz Wara 7Diak 2Zzzz Diak ",
      "2Zzzz 8Diak Zzzz 2Diak Zzzz 1eDiak Zzzz 2Diak 2Zzzz cDiak 9Zzzz aDiak 46Zzzz 8Nand ",
      "2Zzzz 2eNand 2Zzzz bNand 1bZzzz 48Zanb 8Zzzz 53Soyo dZzzz 10Cans 39Pauc 7Zzzz aDeva ",
      "56Zzzz 8Shrd 58Zzzz 22Sunu eZzzz aSunu 6Zzzz 9Bhks Zzzz 2dBhks Zzzz eBhks aZzzz 1dBhks ",
      "3Zzzz 20Marc 2Zzzz 16Marc Zzzz eMarc 49Zzzz 7Gonm Zzzz 2Gonm Zzzz 2cGonm 3Zzzz Gonm ",
      "Zzzz 2Gonm Zzzz 9Gonm 8Zzzz aGonm 6Zzzz 6Gong Zzzz 2Gong Zzzz 25Gong Zzzz 2Gong Zzzz ",
      "6Gong 7Zzzz aGong 6Zzzz 2cTols 4Zzzz aTols f6Zzzz 19Maka 7Zzzz 11Kawi Zzzz 29Kawi 3Zzzz ",
      "1dKawi 55Zzzz Lisu fZzzz 32Taml dZzzz Taml 39aXsux 66Zzzz 6fXsux Zzzz 5Xsux bZzzz ",
      "c4Xsux a4cZzzz 63Cpmn dZzzz 456Egyp aZzzz f9bEgyp 5Zzzz 247Hluw 1ab9Zzzz 3aGukh 6c6Zzzz ",
      "239Bamu 7Zzzz 1fMroo Zzzz aMroo 4Zzzz 2Mroo 4fTnsa Zzzz aTnsa 6Zzzz 1eBass 2Zzzz 6Bass ",
      "aZzzz 46Hmng aZzzz aHmng Zzzz 7Hmng Zzzz 15Hmng 5Zzzz 13Hmng 1b0Zzzz 3aKrai c6Zzzz ",
      "5bMedf 5Zzzz 19Berf 2Zzzz 19Berf 2cZzzz 4bPlrd 4Zzzz 39Plrd 7Zzzz 11Plrd 40Zzzz Tang ",
      "Nshu 2Hani Kits bZzzz 7Hani 9Zzzz 1b00Tang 1d6Kits 29Zzzz Kits 1fTang 61Zzzz 73Tang ",
      "21fdZzzz 4Kana Zzzz 7Kana Zzzz 2Kana Zzzz Kana 11fHira 3Kana fZzzz Hira 1dZzzz 3Hira ",
      "2Zzzz Kana eZzzz 4Kana 8Zzzz 18cNshu 904Zzzz 6bDupl 5Zzzz dDupl 3Zzzz 9Dupl 7Zzzz aDupl ",
      "2Zzzz 4Dupl 4Zyyy f5cZzzz fdZyyy 3Zzzz 1b4Zyyy 6Zzzz 17Zyyy fZzzz 11Zyyy fZzzz 2eZinh ",
      "2Zzzz 17Zinh 9Zzzz 74Zyyy 3cZzzz f6Zyyy aZzzz 27Zyyy 2Zzzz 3eZyyy 3Zinh 11Zyyy 8Zinh ",
      "2Zyyy 7Zinh 1eZyyy 4Zinh 3dZyyy 15Zzzz 46Grek 7aZzzz 14Zyyy cZzzz 14Zyyy cZzzz 57Zyyy ",
      "9Zzzz 19Zyyy 87Zzzz 55Zyyy Zzzz 47Zyyy Zzzz 2Zyyy 2Zzzz Zyyy 2Zzzz 2Zyyy 2Zzzz 4Zyyy ",
      "Zzzz cZyyy Zzzz Zyyy Zzzz 7Zyyy Zzzz 41Zyyy Zzzz 4Zyyy 2Zzzz 8Zyyy Zzzz 7Zyyy Zzzz ",
      "1cZyyy Zzzz 4Zyyy Zzzz 5Zyyy Zzzz Zyyy 3Zzzz 7Zyyy Zzzz 154Zyyy 2Zzzz 124Zyyy 2Zzzz ",
      "32Zyyy 28cSgnw fZzzz 5Sgnw Zzzz fSgnw 450Zzzz 1fLatn 6Zzzz 6Latn d5Zzzz 7Glag Zzzz ",
      "11Glag 2Zzzz 7Glag Zzzz 2Glag Zzzz 5Glag 5Zzzz 3eCyrl 21Zzzz Cyrl 70Zzzz 2dHmnp 3Zzzz ",
      "eHmnp 2Zzzz aHmnp 4Zzzz 2Hmnp 140Zzzz 1fToto 11Zzzz 3aWcho 5Zzzz Wcho 1d0Zzzz 2aNagm ",
      "d6Zzzz 2bOnao 4Zzzz Onao c0Zzzz 1fTayo Zzzz 16Tayo 8Zzzz 2Tayo e0Zzzz 7Ethi Zzzz 4Ethi ",
      "Zzzz 2Ethi Zzzz fEthi Zzzz c5Mend 2Zzzz 10Mend 29Zzzz 4cAdlm 4Zzzz aAdlm 4Zzzz 2Adlm ",
      "311Zzzz 44Zyyy 4cZzzz 3dZyyy c2Zzzz 4Arab Zzzz 1bArab Zzzz 2Arab Zzzz Arab 2Zzzz Arab ",
      "Zzzz aArab Zzzz 4Arab Zzzz Arab Zzzz Arab 6Zzzz Arab 4Zzzz Arab Zzzz Arab Zzzz Arab ",
      "Zzzz 3Arab Zzzz 2Arab Zzzz Arab 2Zzzz Arab Zzzz Arab Zzzz Arab Zzzz Arab Zzzz Arab Zzzz ",
      "2Arab Zzzz Arab 2Zzzz 4Arab Zzzz 7Arab Zzzz 4Arab Zzzz 4Arab Zzzz Arab Zzzz aArab Zzzz ",
      "11Arab 5Zzzz 3Arab Zzzz 5Arab Zzzz 11Arab 34Zzzz 2Arab 10eZzzz 2cZyyy 4Zzzz 64Zyyy ",
      "cZzzz fZyyy 2Zzzz fZyyy Zzzz fZyyy Zzzz 25Zyyy aZzzz aeZyyy 38Zzzz 1aZyyy Hira 2Zyyy ",
      "dZzzz 2cZyyy 4Zzzz 9Zyyy 7Zzzz 2Zyyy eZzzz 6Zyyy 9aZzzz 3d9Zyyy 3Zzzz 11Zyyy 3Zzzz ",
      "dZyyy 3Zzzz daZyyy 6Zzzz cZyyy 4Zzzz Zyyy fZzzz cZyyy 4Zzzz 38Zyyy 8Zzzz aZyyy 6Zzzz ",
      "28Zyyy 8Zzzz 1eZyyy 2Zzzz cZyyy 4Zzzz 2Zyyy eZzzz 9Zyyy 27Zzzz 158Zyyy 8Zzzz eZyyy ",
      "2Zzzz dZyyy 3Zzzz bZyyy 3Zzzz 39Zyyy Zzzz Zyyy 4Zzzz 10Zyyy 2Zzzz cZyyy 4Zzzz aZyyy ",
      "7Zzzz 93Zyyy Zzzz 67Zyyy 405Zzzz a6e0Hani 20Zzzz 111eHani 2Zzzz 168eHani 2Zzzz 1d31Hani ",
      "fZzzz 26eHani 9a2Zzzz 21eHani 5e2Zzzz 134bHani 5Zzzz 212aHani acb87Zzzz Zyyy 1eZzzz ",
      "60Zyyy 80Zzzz f0Zinh 2fe10Zzzz"]).toList 0 []

/-- The script of the run that position `c` falls into. -/
def inRuns : List (Nat × Script) → Nat → Script
  | [], _ => unknown
  | (n, s) :: r, c => if c < n then s else inRuns r (c - n)

/-- The script that a character belongs to. -/
def of (c : Char) : Script := inRuns runs c.toNat

/-! ## Characters shared by several scripts -/

/-- The characters whose scripts are not just the one of `Script.of`: a range of code points
and the codes of all scripts that its characters are used with. -/
def sharedText : String :=
  String.join [
      "b7 Avst Cari Copt Dupl Elba Geor Glag Gong Goth Grek Hani Latn Lydi Mahj Perm Shaw; 2bc ",
      "Beng Cyrl Deva Latn Lisu Thai Toto; 2c7 Bopo Latn; 2c9-2cb Bopo Latn; 2cd Latn Lisu; ",
      "2d7 Latn Thai; 2d9 Bopo Latn; 300 Cher Copt Cyrl Grek Latn Perm Tale Sunu; 301 Cher ",
      "Cyrl Grek Latn Osge Tale Sunu Todr; 302 Cher Cyrl Latn Tfng; 303 Glag Latn Syrc Thai ",
      "Sunu; 304 Aghb Cher Copt Cyrl Goth Grek Latn Osge Syrc Tfng Todr; 305 Copt Elba Glag ",
      "Goth Kana Latn; 306 Cyrl Grek Latn Perm Tfng; 307 Copt Dupl Hebr Latn Perm Syrc Tale ",
      "Tfng Todr; 308 Armn Cyrl Dupl Goth Grek Hebr Latn Perm Syrc Tale Tfng; 309 Latn Tfng; ",
      "30a Dupl Latn Syrc; 30b Cher Cyrl Latn Osge; 30c Cher Latn Tale; 30d Latn Sunu; 30e ",
      "Ethi Latn; 310 Latn Sunu; 311 Cyrl Latn Todr; 313 Grek Latn Perm Todr; 323 Cher Dupl ",
      "Kana Latn Syrc Tfng; 324 Cher Dupl Latn Syrc; 325 Latn Syrc; 32d Latn Syrc Sunu; 32e ",
      "Latn Syrc; 330 Cher Latn Syrc; 331 Aghb Cher Goth Latn Syrc Thai Sunu; 342 Grek; 345 ",
      "Grek; 358 Latn Osge; 35e Aghb Latn Todr; 363-36f Latn; 374-375 Copt Grek; 483 Cyrl ",
      "Perm; 484 Cyrl Glag; 485-486 Cyrl Latn; 487 Cyrl Glag; 589 Armn Geor Glag; 60c Arab ",
      "Nkoo Rohg Syrc Thaa Yezi Gara; 61b Arab Nkoo Rohg Syrc Thaa Yezi Gara; 61c Arab Syrc ",
      "Thaa; 61f Adlm Arab Nkoo Rohg Syrc Thaa Yezi Gara; 640 Adlm Arab Mand Mani Ougr Phlp ",
      "Rohg Sogd Syrc; 64b-655 Arab Syrc; 660-669 Arab Thaa Yezi; 670 Arab Syrc; 6d4 Arab ",
      "Rohg; 951 Beng Deva Gran Gujr Guru Knda Latn Mlym Nand Newa Orya Shrd Taml Telu Tirh; ",
      "952 Beng Deva Gran Gujr Guru Knda Latn Mlym Newa Orya Taml Telu Tirh; 964 Beng Deva ",
      "Dogr Gong Gonm Gran Gujr Guru Knda Mahj Mlym Nand Orya Sind Sinh Sylo Takr Taml Telu ",
      "Tirh Onao; 965 Beng Deva Dogr Gong Gonm Gran Gujr Guru Knda Limb Mahj Mlym Nand Orya ",
      "Sind Sinh Sylo Takr Taml Telu Tirh Gukh Onao; 966-96f Deva Dogr Kthi Mahj; 9e6-9ef Beng ",
      "Cakm Sylo; a66-a6f Guru Mult; ae6-aef Gujr Khoj; be6-bf3 Gran Taml; ce6-cef Knda Nand ",
      "Tutg; 1040-1049 Cakm Mymr Tale; 10fb Geor Glag Latn; 16eb-16ed Runr; 1735-1736 Buhd ",
      "Hano Tagb Tglg; 1802-1803 Mong Phag; 1805 Mong Phag; 1cd0 Beng Deva Gran Knda; 1cd1 ",
      "Deva; 1cd2 Beng Deva Gran Knda; 1cd3 Deva Gran Knda; 1cd4 Deva; 1cd5 Beng Deva Newa ",
      "Telu Tirh; 1cd6 Beng Deva Telu; 1cd7 Deva Newa Shrd; 1cd8 Beng Deva Newa Telu; 1cd9 ",
      "Deva Shrd; 1cda Deva Knda Mlym Orya Taml Telu; 1cdb Deva; 1cdc-1cdd Deva Shrd; ",
      "1cde-1cdf Deva; 1ce0 Deva Shrd; 1ce1 Beng Deva; 1ce2 Deva Newa Tirh; 1ce3-1ce8 Deva; ",
      "1ce9 Deva Nand Newa; 1cea Beng Deva Shrd; 1ceb Deva Newa; 1cec Deva; 1ced Beng Deva ",
      "Newa Shrd; 1cee-1cf1 Deva; 1cf2 Beng Deva Gran Knda Mlym Nand Orya Sinh Telu Tirh Tutg; ",
      "1cf3 Deva Gran; 1cf4 Deva Gran Knda Tutg; 1cf5-1cf6 Beng Deva; 1cf7 Beng; 1cf8-1cf9 ",
      "Deva Gran; 1cfa Nand; 1dc0-1dc1 Grek; 1df8 Cyrl Latn Syrc; 1dfa Syrc; 202f Latn Mong ",
      "Phag; 204f Adlm Arab; 205a Cari Geor Glag Hung Lyci Orkh; 205d Cari Grek Hung Mero; ",
      "20f0 Deva Gran Latn; 2e17 Copt Latn; 2e30 Avst Orkh; 2e31 Avst Cari Geor Hung Kthi Lydi ",
      "Samr; 2e3c Dupl; 2e41 Adlm Arab Hung; 2e43 Cyrl Glag; 2ff0-2fff Hani Tang; 3001 Bopo ",
      "Hang Hani Hira Kana Mong Yiii; 3002 Bopo Hang Hani Hira Kana Mong Phag Yiii; 3003 Bopo ",
      "Hang Hani Hira Kana; 3006 Hani; 3008-3009 Bopo Hang Hani Hira Kana Mong Tibt Yiii; ",
      "300a-300b Bopo Hang Hani Hira Kana Lisu Mong Tibt Yiii; 300c-3011 Bopo Hang Hani Hira ",
      "Kana Yiii; 3013 Bopo Hang Hani Hira Kana; 3014-301b Bopo Hang Hani Hira Kana Yiii; ",
      "301c-301f Bopo Hang Hani Hira Kana; 302a-302d Bopo Hani; 3030 Bopo Hang Hani Hira Kana; ",
      "3031-3035 Hira Kana; 3037 Bopo Hang Hani Hira Kana; 303c-303d Hani Hira Kana; 303e-303f ",
      "Hani; 3099-309c Hira Kana; 30a0 Hira Kana; 30fb Bopo Hang Hani Hira Kana Yiii; 30fc ",
      "Hira Kana; 3190-319f Hani; 31c0-31e5 Hani; 31ef Hani Tang; 3220-3247 Hani; 3280-32b0 ",
      "Hani; 32c0-32cb Hani; 32ff Hani; 3358-3370 Hani; 337b-337f Hani; 33e0-33fe Hani; a66f ",
      "Cyrl Glag; a700-a707 Hani Latn; a830-a832 Deva Dogr Gujr Guru Khoj Knda Kthi Mahj Mlym ",
      "Modi Nand Shrd Sind Takr Tirh Tutg; a833-a835 Deva Dogr Gujr Guru Khoj Knda Kthi Mahj ",
      "Modi Nand Shrd Sind Takr Tirh Tutg; a836-a837 Deva Dogr Gujr Guru Khoj Kthi Mahj Modi ",
      "Sind Takr Tirh; a838 Deva Dogr Gujr Guru Khoj Kthi Mahj Modi Shrd Sind Takr Tirh; a839 ",
      "Deva Dogr Gujr Guru Khoj Kthi Mahj Modi Sind Takr Tirh; a8f1 Beng Deva Tutg; a8f3 Deva ",
      "Taml; a92e Kali Latn Mymr; a9cf Bugi Java; fd3e-fd3f Arab Nkoo; fdf2 Arab Thaa; fdfd ",
      "Arab Thaa; fe45-fe46 Bopo Hang Hani Hira Kana; ff61-ff65 Bopo Hang Hani Hira Kana Yiii; ",
      "ff70 Hira Kana; ff9e-ff9f Hira Kana; 10100-10101 Cpmn Cprt Linb; 10102 Cprt Linb; ",
      "10107-10133 Cprt Lina Linb; 10137-1013f Cprt Linb; 102e0-102fb Arab Copt; 10af2 Mani ",
      "Ougr; 11301 Gran Taml; 11303 Gran Taml; 1133b-1133c Gran Taml; 11fd0-11fd1 Gran Taml; ",
      "11fd3 Gran Taml; 1bca0-1bca3 Dupl; 1d360-1d371 Hani; 1f250-1f251 Hani"]

/-- The value of a text of hexadecimal digits. -/
def hexValue (cs : List Char) : Nat := cs.foldl (fun n c => 16 * n + Category.hexDigit c) 0

/-- Reads one entry: the range, then the codes. -/
def readShared (words : List String) : Option (Nat × Nat × List Script) :=
  match words with
  | [] => none
  | range :: codes =>
    let scripts := codes.map fun w => ⟨w.toList⟩
    match range.splitOn "-" with
    | [one] => some (hexValue one.toList, hexValue one.toList, scripts)
    | [lo, hi] => some (hexValue lo.toList, hexValue hi.toList, scripts)
    | _ => none

/-- The ranges of characters shared by several scripts, with those scripts. -/
def shared : List (Nat × Nat × List Script) :=
  (sharedText.splitOn "; ").filterMap fun entry => readShared (entry.splitOn " ")

/-- Every script that a character is used with. -/
def extensionsOf (c : Char) : List Script :=
  match shared.find? fun (lo, hi, _) => lo ≤ c.toNat ∧ c.toNat ≤ hi with
  | some (_, _, scripts) => scripts
  | none => [of c]

/-! ## Names -/

/-- Each script's code followed by its names, in lower case and without separators. -/
def namesText : String :=
  String.join [
      "Adlm adlm adlam; Aghb aghb caucasianalbanian; Ahom ahom; Arab arab arabic; Armi armi ",
      "imperialaramaic; Armn armn armenian; Avst avst avestan; Bali bali balinese; Bamu bamu ",
      "bamum; Bass bass bassavah; Batk batk batak; Beng beng bengali; Bhks bhks bhaiksuki; ",
      "Bopo bopo bopomofo; Brah brah brahmi; Brai brai braille; Bugi bugi buginese; Buhd buhd ",
      "buhid; Cakm cakm chakma; Cans cans canadianaboriginal; Cari cari carian; Cham cham; ",
      "Cher cher cherokee; Chrs chrs chorasmian; Copt copt coptic qaac; Cpmn cpmn cyprominoan; ",
      "Cprt cprt cypriot; Cyrl cyrl cyrillic; Deva deva devanagari; Diak diak divesakuru; Dogr ",
      "dogr dogra; Dsrt dsrt deseret; Dupl dupl duployan; Egyp egyp egyptianhieroglyphs; Elba ",
      "elba elbasan; Elym elym elymaic; Ethi ethi ethiopic; Geor geor georgian; Glag glag ",
      "glagolitic; Gong gong gunjalagondi; Gonm gonm masaramgondi; Goth goth gothic; Gran gran ",
      "grantha; Grek grek greek; Gujr gujr gujarati; Guru guru gurmukhi; Hang hang hangul; ",
      "Hani hani han; Hano hano hanunoo; Hatr hatr hatran; Hebr hebr hebrew; Hira hira ",
      "hiragana; Hluw hluw anatolianhieroglyphs; Hmng hmng pahawhhmong; Hmnp hmnp ",
      "nyiakengpuachuehmong; Hung hung oldhungarian; Ital ital olditalic; Java java javanese; ",
      "Kali kali kayahli; Kana kana katakana; Kawi kawi; Khar khar kharoshthi; Khmr khmr ",
      "khmer; Khoj khoj khojki; Kits kits khitansmallscript; Knda knda kannada; Kthi kthi ",
      "kaithi; Lana lana taitham; Laoo laoo lao; Latn latn latin; Lepc lepc lepcha; Limb limb ",
      "limbu; Lina lina lineara; Linb linb linearb; Lisu lisu; Lyci lyci lycian; Lydi lydi ",
      "lydian; Mahj mahj mahajani; Maka maka makasar; Mand mand mandaic; Mani mani manichaean; ",
      "Marc marc marchen; Medf medf medefaidrin; Mend mend mendekikakui; Merc merc ",
      "meroiticcursive; Mero mero meroitichieroglyphs; Mlym mlym malayalam; Modi modi; Mong ",
      "mong mongolian; Mroo mroo mro; Mtei mtei meeteimayek; Mult mult multani; Mymr mymr ",
      "myanmar; Nagm nagm nagmundari; Nand nand nandinagari; Narb narb oldnortharabian; Nbat ",
      "nbat nabataean; Newa newa; Nkoo nkoo nko; Nshu nshu nushu; Ogam ogam ogham; Olck olck ",
      "olchiki; Orkh orkh oldturkic; Orya orya oriya; Osge osge osage; Osma osma osmanya; Ougr ",
      "ougr olduyghur; Palm palm palmyrene; Pauc pauc paucinhau; Perm perm oldpermic; Phag ",
      "phag phagspa; Phli phli inscriptionalpahlavi; Phlp phlp psalterpahlavi; Phnx phnx ",
      "phoenician; Plrd plrd miao; Prti prti inscriptionalparthian; Rjng rjng rejang; Rohg ",
      "rohg hanifirohingya; Runr runr runic; Samr samr samaritan; Sarb sarb oldsoutharabian; ",
      "Saur saur saurashtra; Sgnw sgnw signwriting; Shaw shaw shavian; Shrd shrd sharada; Sidd ",
      "sidd siddham; Sind sind khudawadi; Sinh sinh sinhala; Sogd sogd sogdian; Sogo sogo ",
      "oldsogdian; Sora sora sorasompeng; Soyo soyo soyombo; Sund sund sundanese; Sylo sylo ",
      "sylotinagri; Syrc syrc syriac; Tagb tagb tagbanwa; Takr takr takri; Tale tale taile; ",
      "Talu talu newtailue; Taml taml tamil; Tang tang tangut; Tavt tavt taiviet; Telu telu ",
      "telugu; Tfng tfng tifinagh; Tglg tglg tagalog; Thaa thaa thaana; Thai thai; Tibt tibt ",
      "tibetan; Tirh tirh tirhuta; Tnsa tnsa tangsa; Toto toto; Ugar ugar ugaritic; Vaii vaii ",
      "vai; Vith vith vithkuqi; Wara wara warangciti; Wcho wcho wancho; Xpeo xpeo oldpersian; ",
      "Xsux xsux cuneiform; Yezi yezi yezidi; Yiii yiii yi; Zanb zanb zanabazarsquare; Zinh ",
      "zinh inherited qaai; Zyyy zyyy common; Gara gara garay; Gukh gukh gurungkhema; Krai ",
      "krai kiratrai; Onao onao olonal; Sunu sunu sunuwar; Todr todr todhri; Tutg tutg ",
      "tulutigalari; Berf berf beriaerfe; Sidt sidt sidetic; Tayo tayo taiyo; Tols tols ",
      "tolongsiki"]

/-- The scripts with their names. -/
def named : List (Script × List String) :=
  (namesText.splitOn "; ").filterMap fun entry =>
    match entry.splitOn " " with
    | code :: names => some (⟨code.toList⟩, names)
    | [] => none

/-- The script of a name, given in lower case and without separators. -/
def ofName? (name : String) : Option Script :=
  (named.find? fun (_, names) => names.contains name).map (·.1)

end Script

end TokenClassifier.Unicode
