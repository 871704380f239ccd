import ComponentLoader.Unicode.Trait

namespace ComponentLoader.Unicode.Break

def extending : CharSet := Trait.graphemeExtend.union Trait.emojiModifier

def extendingMarks : CharSet := extending.union Category.spacingMark

def joining : CharSet := .ofTable "200C-200D E0020-E007F"

def hangul : CharSet := .range 0xAC00 0xD7A3

-- Every twenty-eighth syllable has no final consonant.
def openSyllable : CharSet :=
  .ofRanges ((List.range 399).map fun i => (0xAC00 + 28 * i, 0xAC00 + 28 * i))

def detached : CharSet := .ofTable
  "102B-102C 1038 1062-1064 1067-106D 1083 1087-108C 108F 109A-109C 1A61 1A63-1A64 AA7B AA7D
   11720-11721"

def caseless : CharSet := .ofTable "10D0-10FA 10FD-10FF 1C90-1CBA 1CBD-1CBF"

def sentenceLower : CharSet := (Trait.lowercase.diff Trait.graphemeExtend).diff caseless

def sentenceUpper : CharSet := (Trait.uppercase.union Category.titlecaseLetter).diff caseless

def katakana : CharSet := .ofTable
  "3031-3035 309B-309C 30A0-30FA 30FC-30FF 31F0-31FF 32D0-32FE 3300-3357 FF66-FF9D 1AFF0-1AFF3
   1AFF5-1AFFB 1AFFD-1AFFE 1B000 1B120-1B122 1B155 1B164-1B167"

def hebrew : CharSet := .ofTable
  "5D0-5EA 5EF-5F2 FB1D FB1F-FB28 FB2A-FB36 FB38-FB3C FB3E FB40-FB41 FB43-FB44 FB46-FB4F"

def unspaced : CharSet := .ofTable
  "E01-E30 E32-E33 E40-E46 E81-E82 E84 E86-E8A E8C-EA3 EA5 EA7-EB0 EB2-EB3 EBD EC0-EC4 EC6 EDC-EDF
   1000-102A 103F 1050-1055 105A-105D 1061 1065-1066 106E-1070 1075-1081 108E 1780-17B3 17D7 17DC
   1950-196D 1970-1974 1980-19AB 19B0-19C9 1A20-1A54 1AA7 3041-3096 309D-309F A9E0-A9E4 A9E6-A9EF
   A9FA-A9FE AA60-AA76 AA7A AA7E-AAAF AAB1 AAB5-AAB6 AAB9-AABD AAC0 AAC2 AADB-AADD 11700-1171A
   11740-11746 1B001-1B11F 1B132 1B150-1B152"

def wordSigns : CharSet := .ofTable
  "2C2-2C5 2D2-2D7 2DE-2DF 2E5-2EB 2ED 2EF-2FF 55A-55C 55E 58A 5F3 70F A708-A716 A720-A721
   A789-A78A AB5B"

def wordLetter : CharSet :=
  (Trait.alphabetic.diff (.unions [Trait.ideographic, katakana, extendingMarks, hebrew,
    unspaced])).union wordSigns

def graphemes : List (List String × CharSet) := [
  (["control", "cn"], (CharSet.unions [Category.lineSeparator, Category.paragraphSeparator,
    Category.control, Category.format, Category.unassigned.inter Trait.defaultIgnorable]).diff
    (Trait.prependedMark.union (.ofTable "A D 200C-200D E0020-E007F"))),
  (["cr"], .range 0xD 0xD),
  (["lf"], .range 0xA 0xA),
  (["extend", "ex"], extending),
  (["l"], .ofTable "1100-115F A960-A97C"),
  (["v"], .ofTable "1160-11A7 D7B0-D7C6 16D63 16D67-16D6A"),
  (["t"], .ofTable "11A8-11FF D7CB-D7FB"),
  (["lv"], openSyllable),
  (["lvt"], hangul.diff openSyllable),
  (["prepend", "pp"], .ofTable
    "600-605 6DD 70F 890-891 8E2 D4E 110BD 110CD 111C2-111C3 113D1 1193F 11941 11A3A 11A84-11A89
     11D46 11F02"),
  (["regionalindicator", "ri"], Trait.regionalIndicator),
  (["spacingmark", "sm"], ((Category.spacingMark.diff Trait.graphemeExtend).diff detached).union
    (.ofTable "E33 EB3")),
  (["zwj"], .range 0x200D 0x200D)]

def words : List (List String × CharSet) := [
  (["aletter", "le"], wordLetter),
  (["cr"], .range 0xD 0xD),
  (["lf"], .range 0xA 0xA),
  (["doublequote", "dq"], .ofTable "22"),
  (["extendnumlet", "ex"], .ofTable "5F 202F 203F-2040 2054 FE33-FE34 FE4D-FE4F FF3F"),
  (["extend"], extendingMarks),
  (["format", "fo"], .ofTable
    "AD 61C 180E 200E-200F 202A-202E 2060-2064 2066-206F FEFF FFF9-FFFB 13430-1343F 1BCA0-1BCA3
     1D173-1D17A E0001"),
  (["hebrewletter", "hl"], hebrew),
  (["katakana", "ka"], katakana),
  (["midletter", "ml"], .ofTable "3A B7 387 55F 5F4 2027 FE13 FE55 FF1A"),
  (["midnum", "mn"], .ofTable "2C 3B 37E 589 60C-60D 66C 7F8 2044 FE10 FE14 FE50 FE54 FF0C FF1B"),
  (["midnumlet", "mb"], .ofTable "2E 2018-2019 2024 FE52 FF07 FF0E"),
  (["newline", "nl"], .ofTable "B-C 85 2028-2029"),
  (["numeric", "nu"], Category.decimalNumber.union
    (.ofTable "600-605 66B 6DD 890-891 8E2 110BD 110CD")),
  (["regionalindicator", "ri"], Trait.regionalIndicator),
  (["singlequote", "sq"], .ofTable "27"),
  (["wsegspace"], .ofTable "20 1680 2000-2006 2008-200A 205F 3000"),
  (["zwj"], .range 0x200D 0x200D)]

def sentences : List (List String × CharSet) := [
  (["aterm", "at"], .ofTable "2E 2024 FE52 FF0E"),
  (["close", "cl"], (CharSet.unions [Category.openPunctuation, Category.closePunctuation,
    Category.initialPunctuation, Category.finalPunctuation, Trait.quotationMark,
    .ofTable "275B-2760 2E00-2E01 2E06-2E08 2E0B 1F676-1F678"]).diff (.ofTable "FF02 FF07")),
  (["cr"], .range 0xD 0xD),
  (["lf"], .range 0xA 0xA),
  (["extend", "ex"], extendingMarks.union (.range 0x200D 0x200D)),
  (["format", "fo"], Category.format.diff joining),
  (["oletter", "le"], (Trait.alphabetic.diff (.unions [sentenceLower, sentenceUpper,
    extendingMarks])).union (.range 0x5F3 0x5F3)),
  (["lower", "lo"], sentenceLower),
  (["upper", "up"], sentenceUpper),
  (["numeric", "nu"], Category.decimalNumber.union (.range 0x66B 0x66C)),
  (["scontinue", "sc"], .ofTable
    "2C-2D 3A 55D 60C-60D 7F8 1802 1808 2013-2014 3001 FE10-FE11 FE13 FE31-FE32 FE50-FE51 FE55 FE58
     FE63 FF0C-FF0D FF1A FF64"),
  (["sep", "se"], .ofTable "85 2028-2029"),
  (["sp"], .ofTable "9 B-C 20 A0 1680 2000-200A 202F 205F 3000"),
  (["sterm", "st"], Trait.sentenceTerminal.diff (.ofTable "2E 2024 FE52 FF0E"))]

end ComponentLoader.Unicode.Break
