import TreePattern.Unicode.Property
import TreePattern.Unicode.Script

/-!
# Classes for boundaries in text

Whether a text can be parted between two characters depends on their classes, and there are other
classes for the boundaries of characters as users see them, of words and of sentences. The classes
are put together from categories, properties and scripts as in Unicode 16. What belongs to none of
them is no set that can be asked for.

* `Unicode.graphemeBreak?`: a class for the boundaries of characters, by its name.
* `Unicode.wordBreak?`: a class for the boundaries of words.
* `Unicode.sentenceBreak?`: a class for the boundaries of sentences.
-/

namespace TreePattern.Unicode

/-- A set without some characters. -/
def without (s : CodeSet) (characters : String) : CodeSet := s.diff (.ofText characters)

/-- The classes of the ends of lines, which are the same for all boundaries. -/
def lineEnds : List NamedSet := [⟨["cr"], .range 0xD 0xD⟩, ⟨["lf"], .range 0xA 0xA⟩]

/-- The signs that stand over the digits behind them, and the letters that are drawn upon those behind
them. -/
def prepended : CodeSet :=
  (listed "prependedconcatenationmark").union
    (.ofText "D4E 111C2-111C3 113D1 1193F 11941 11A3A 11A84-11A89 11D46 11F02")

/-- The joiner, which makes one sign of several. -/
def joiner : NamedSet := ⟨["zwj"], .range 0x200D 0x200D⟩

/-- The letters of flags. -/
def flagLetters : NamedSet := ⟨["ri", "regionalindicator"], listed "regionalindicator"⟩

/-! ### Characters -/

/-- The syllables that end in a vowel: the first of each row of those that begin alike. -/
def openSyllables : CodeSet :=
  ⟨((List.range 399).flatMap fun row => [0xAC00 + 28 * row, 0xAC00 + 28 * row + 1]).toArray⟩

/-- The classes for the boundaries of characters. -/
def graphemeBreaks : List NamedSet :=
  let extend := graphemeExtend.union (listed "emojimodifier")
  let ignored := (assigned.union surrogates).compl.inter (listed "defaultignorablecodepoint")
  let control := (((gather ["zl", "zp", "cc", "cf"]).union ignored).diff prepended).diff extend
  let spacing := ((gather ["mc"]).union (.ofText "E33 EB3")).diff extend
  lineEnds ++ [joiner, flagLetters,
    ⟨["cn", "control"], without control "A D 200C-200D"⟩,
    ⟨["ex", "extend"], extend⟩,
    ⟨["pp", "prepend"], prepended⟩,
    ⟨["sm", "spacingmark"], without spacing
      "102B-102C 1038 1062-1064 1067-106D 1083 1087-108C 108F 109A-109C 1A61 1A63-1A64 AA7B AA7D
      11720-11721"⟩,
    ⟨["l"], .ofText "1100-115F A960-A97C"⟩,
    ⟨["v"], .ofText "1160-11A7 D7B0-D7C6 16D63 16D67-16D6A"⟩,
    ⟨["t"], .ofText "11A8-11FF D7CB-D7FB"⟩,
    ⟨["lv"], openSyllables⟩,
    ⟨["lvt"], (CodeSet.range 0xAC00 0xD7A3).diff openSyllables⟩]

/-- A class for the boundaries of characters, by its name. -/
def graphemeBreak? (name : String) : Option CodeSet := NamedSet.find? graphemeBreaks name

/-! ### Words -/

/-- What goes with the character before it, in words and in sentences. -/
def attached : CodeSet := graphemeExtend.union (gather ["mc"])

/-- The digits of all scripts, and the signs that belong to numbers. -/
def numeric : CodeSet :=
  .unions [decimalDigit, .ofText "66B 19DA", without (listed "prependedconcatenationmark") "70F"]

/-- The letters and marks of scripts that put no blanks between words. -/
def unspaced : CodeSet :=
  .ofText
    "E01-E3A E40-E4E E81-E82 E84 E86-E8A E8C-EA3 EA5 EA7-EBD EC0-EC4 EC6 EC8-ECE EDC-EDF
    1000-103F 1050-108F 109A-109F 1780-17D3 17D7 17DC-17DD 1950-196D 1970-1974 1980-19AB
    19B0-19C9 19DA 19DE-19DF 1A20-1A5E 1A60-1A7C 1AA0-1AAD A9E0-A9EF A9FA-A9FE AA60-AAC2
    AADB-AADF 11700-1171A 1171D-1172B 1173A-1173B 1173F-11746"

/-- The classes for the boundaries of words. -/
def wordBreaks : List NamedSet :=
  let extend := attached.union (listed "emojimodifier")
  let format := ((gather ["cf"]).diff prepended).diff extend
  let katakana := ((script? "katakana").getD .empty).union
    (.ofText "3031-3035 309B-309C 30A0 30FC FF70")
  let hebrew := ((script? "hebrew").getD .empty).inter (gather ["lo"])
  let letters := alphabetic.union (.ofText
    "2C2-2C5 2D2-2D7 2DE-2DF 2E5-2EB 2ED 2EF-2FF 55A-55C 55E 58A 5F3 70F A708-A716 A720-A721
    A789-A78A AB5B")
  let others := CodeSet.unions [listed "ideographic", katakana, unspaced,
    (script? "hiragana").getD .empty, extend, hebrew]
  lineEnds ++ [joiner, flagLetters,
    ⟨["nl", "newline"], .ofText "B-C 85 2028-2029"⟩,
    ⟨["extend"], extend⟩,
    ⟨["fo", "format"], without format "200B-200D"⟩,
    ⟨["ka", "katakana"], katakana⟩,
    ⟨["hl", "hebrewletter"], hebrew⟩,
    ⟨["le", "aletter"], letters.diff others⟩,
    ⟨["sq", "singlequote"], .single '\''⟩,
    ⟨["dq", "doublequote"], .single '"'⟩,
    ⟨["mb", "midnumlet"], .ofText "2E 2018-2019 2024 FE52 FF07 FF0E"⟩,
    ⟨["ml", "midletter"], .ofText "3A B7 387 55F 5F4 2027 FE13 FE55 FF1A"⟩,
    ⟨["mn", "midnum"], .ofText
      "2C 3B 37E 589 60C-60D 66C 7F8 2044 FE50 FE54 FF0C FF1B"⟩,
    ⟨["nu", "numeric"], numeric⟩,
    ⟨["ex", "extendnumlet"], (gather ["pc"]).union (.ofText "202F")⟩,
    ⟨["wsegspace"], without (gather ["zs"]) "A0 2007 202F"⟩]

/-- A class for the boundaries of words, by its name. -/
def wordBreak? (name : String) : Option CodeSet := NamedSet.find? wordBreaks name

/-! ### Sentences -/

/-- The classes for the boundaries of sentences. -/
def sentenceBreaks : List NamedSet :=
  let extend := attached.union joiner.set
  let format := ((gather ["cf"]).diff numeric).diff extend
  -- the letters of one script have capitals that begin no sentences
  let lower := without (lowercase.diff graphemeExtend) "10D0-10FA 10FD-10FF"
  let upper := (gather ["lt"]).union (without uppercase "1C90-1CBA 1CBD-1CBF")
  let letters := alphabetic.union (.ofText "5F3")
  let ends := listed "sentenceterminal"
  let fullStops := CodeSet.ofText "2E 2024 FE52 FF0E"
  let quotes := CodeSet.ofText
    "22 27 AB BB 2018-2019 201B-201D 201F 2039-203A 275B-2760 2E00-2E0D 2E1C-2E1D 2E20-2E21
    1F676-1F678"
  lineEnds ++ [
    ⟨["ex", "extend"], extend⟩,
    ⟨["se", "sep"], .ofText "85 2028-2029"⟩,
    ⟨["fo", "format"], format⟩,
    ⟨["sp"], without space "A D 85 2028-2029"⟩,
    ⟨["lo", "lower"], lower⟩,
    ⟨["up", "upper"], upper⟩,
    ⟨["le", "oletter"], letters.diff (.unions [lower, upper, extend])⟩,
    ⟨["nu", "numeric"], numeric.union (.ofText "66C")⟩,
    ⟨["at", "aterm"], fullStops⟩,
    ⟨["sc", "scontinue"], .ofText
      "2C-2D 3A-3B 37E 55D 60C-60D 7F8 1802 1808 2013-2014 3001 FE10-FE11 FE13-FE14 FE31-FE32
      FE50-FE51 FE54-FE55 FE58 FE63 FF0C-FF0D FF1A-FF1B FF64"⟩,
    ⟨["st", "sterm"], ends.diff fullStops⟩,
    ⟨["cl", "close"], (gather ["ps", "pe"]).union quotes⟩]

/-- A class for the boundaries of sentences, by its name. -/
def sentenceBreak? (name : String) : Option CodeSet := NamedSet.find? sentenceBreaks name

end TreePattern.Unicode
