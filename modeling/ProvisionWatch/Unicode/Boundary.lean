import ProvisionWatch.Unicode.Property
import ProvisionWatch.Unicode.Script

/-!
# Where texts may be broken

Characters fall into kinds by how they take part in clusters, in words and in
sentences.  A character of no kind can be parted from its neighbours.
-/

namespace ProvisionWatch
namespace Unicode

/-! ## Clusters -/

/-- The first parts of syllables of two parts, in steps of one syllable each. -/
def openSyllables : CharSet :=
  .ofTable "AC00-D788/1C"

/-- The syllables that are written as one character. -/
def syllables : CharSet :=
  .ofTable "AC00-D7A3"

/-- The zero-width characters that do not end a cluster. -/
def joiners : CharSet :=
  .ofTable "200C-200D"

/-- The spacing marks that end a cluster. -/
def partedMarks : CharSet :=
  .ofTable
    "102B-102C 1038 1062-1064 1067-106D 1083 1087-108C 108F 109A-109C 1A61 1A63-1A64 AA7B AA7D
     11720-11721"

/-- How a character takes part in clusters. -/
inductive GraphemeBreak where
  | carriageReturn
  | control
  | goesOn
  | leading
  | lineFeed
  | openSyllable
  | closedSyllable
  | goesBefore
  | regional
  | spacing
  | trailing
  | vowel
  | joiner
deriving DecidableEq, Repr

namespace GraphemeBreak

/-- The characters of a kind. -/
def chars : GraphemeBreak → CharSet
  | carriageReturn => .ofTable "D"
  | control => (CharSet.unions
      [ Category.charsOf [.lineSeparator, .paragraphSeparator, .control, .format],
        unassigned.inter defaultIgnorable ]).without
      (.unions
        [.ofTable "A D", joiners, prependedConcatenationMark, graphemeExtend])
  | goesOn => graphemeExtend.union emojiModifier
  | leading => .ofTable "1100-115F A960-A97C"
  | lineFeed => .ofTable "A"
  | openSyllable => openSyllables
  | closedSyllable => syllables.without openSyllables
  | goesBefore => .ofTable
      "600-605 6DD 70F 890-891 8E2 D4E 110BD 110CD 111C2-111C3 113D1 1193F 11941 11A3A 11A84-11A89
       11D46 11F02"
  | regional => regionalIndicator
  | spacing => (Category.spacingMark.chars.union (.ofTable "E33 EB3")).without
      (graphemeExtend.union partedMarks)
  | trailing => .ofTable "11A8-11FF D7CB-D7FB"
  | vowel => .ofTable "1160-11A7 D7B0-D7C6 16D63 16D67-16D6A"
  | joiner => .ofTable "200D"

/-- The kinds by the short and the long forms of their names. -/
def named : List (String × GraphemeBreak) :=
  [ ("cr", carriageReturn), ("cn", control), ("control", control), ("ex", goesOn),
    ("extend", goesOn), ("l", leading), ("lf", lineFeed), ("lv", openSyllable),
    ("lvt", closedSyllable), ("pp", goesBefore), ("prepend", goesBefore),
    ("regionalindicator", regional), ("ri", regional), ("sm", spacing), ("spacingmark", spacing),
    ("t", trailing), ("v", vowel), ("zwj", joiner) ]

end GraphemeBreak

/-! ## Words -/

/-- The formats that count as letters or digits, or go on with a word. -/
def wordFormats : CharSet :=
  .ofTable "600-605 6DD 70F 890-891 8E2 200B-200D 110BD 110CD E0020-E007F"

/-- Marks that are letters of words without being letters. -/
def letterMarks : CharSet :=
  .ofTable
    "2C2-2C5 2D2-2D7 2DE-2DF 2E5-2EB 2ED 2EF-2FF 55A-55C 55E 58A 5F3 70F A708-A716 A720-A721
     A789-A78A AB5B"

/-- Letters of scripts that put no blanks between words. -/
def unspacedLetters : CharSet :=
  .ofTable
    "E01-E30 E32-E33 E40-E46 E81-E82 E84 E86-E8A E8C-EA3 EA5 EA7-EB0 EB2-EB3 EBD EC0-EC4 EC6
     EDC-EDF 1000-102A 103F 1050-1055 105A-105D 1061 1065-1066 106E-1070 1075-1081 108E 1780-17B3
     17D7 17DC 1950-196D 1970-1974 1980-19AB 19B0-19C9 1A20-1A54 1AA7 A9E0-A9E4 A9E6-A9EF
     A9FA-A9FE AA60-AA76 AA7A AA7E-AAAF AAB1 AAB5-AAB6 AAB9-AABD AAC0 AAC2 AADB-AADD 11700-1171A
     11740-11746"

/-- Digits and marks with which numbers are written. -/
def numberMarks : CharSet :=
  .ofTable "600-605 66B 6DD 890-891 8E2 19DA 110BD 110CD"

/-- The letters of the Hebrew script. -/
def hebrewLetters : CharSet :=
  match Script.ofName? "hebr" with
  | some script => script.chars.inter Category.otherLetter.chars
  | none => .empty

/-- The characters of the Katakana script, with the marks that are used with it. -/
def katakanaLetters : CharSet :=
  match Script.ofName? "kana" with
  | some script => script.chars.union (.ofTable "3031-3035 309B-309C 30A0 30FC FF70")
  | none => .empty

/-- The characters of the Hiragana script. -/
def hiraganaLetters : CharSet :=
  match Script.ofName? "hira" with
  | some script => script.chars
  | none => .empty

/-- The characters that go on with a word. -/
def wordExtend : CharSet :=
  .unions [graphemeExtend, Category.spacingMark.chars, emojiModifier]

/-- How a character takes part in words. -/
inductive WordBreak where
  | letter
  | carriageReturn
  | doubleQuote
  | goesOn
  | connector
  | format
  | hebrewLetter
  | katakana
  | lineFeed
  | midLetter
  | midNumber
  | midBoth
  | newline
  | numeric
  | regional
  | singleQuote
  | space
  | joiner
deriving DecidableEq, Repr

namespace WordBreak

/-- The characters of a kind. -/
def chars : WordBreak → CharSet
  | letter => .union letterMarks
      (alphabetic.without
        (.unions
          [ ideographic, katakanaLetters, hiraganaLetters, wordExtend, hebrewLetters,
            unspacedLetters ]))
  | carriageReturn => .ofTable "D"
  | doubleQuote => .ofTable "22"
  | goesOn => wordExtend
  | connector => Category.connectorPunctuation.chars.union (.ofTable "202F")
  | format => Category.format.chars.without wordFormats
  | hebrewLetter => hebrewLetters
  | katakana => katakanaLetters
  | lineFeed => .ofTable "A"
  | midLetter => .ofTable "3A B7 387 55F 5F4 2027 FE13 FE55 FF1A"
  | midNumber => .ofTable "2C 3B 37E 589 60C-60D 66C 7F8 2044 FE50 FE54 FF0C FF1B"
  | midBoth => .ofTable "2E 2018-2019 2024 FE52 FF07 FF0E"
  | newline => .ofTable "B-C 85 2028-2029"
  | numeric => digits.union numberMarks
  | regional => regionalIndicator
  | singleQuote => .ofTable "27"
  | space => .ofTable "20 1680 2000-2006 2008-200A 205F 3000"
  | joiner => .ofTable "200D"

/-- The kinds by the short and the long forms of their names. -/
def named : List (String × WordBreak) :=
  [ ("aletter", letter), ("le", letter), ("cr", carriageReturn), ("doublequote", doubleQuote),
    ("dq", doubleQuote), ("extend", goesOn), ("ex", connector), ("extendnumlet", connector),
    ("fo", format), ("format", format), ("hebrewletter", hebrewLetter), ("hl", hebrewLetter),
    ("ka", katakana), ("katakana", katakana), ("lf", lineFeed), ("midletter", midLetter),
    ("ml", midLetter), ("midnum", midNumber), ("mn", midNumber), ("mb", midBoth),
    ("midnumlet", midBoth), ("newline", newline), ("nl", newline), ("nu", numeric),
    ("numeric", numeric), ("regionalindicator", regional), ("ri", regional),
    ("singlequote", singleQuote), ("sq", singleQuote), ("wsegspace", space), ("zwj", joiner) ]

end WordBreak

/-! ## Sentences -/

/-- The letters of a script whose capitals do not begin sentences: the small ones. -/
def smallUncased : CharSet :=
  .ofTable "10D0-10FA 10FD-10FF"

/-- The letters of a script whose capitals do not begin sentences: the capital ones. -/
def capitalUncased : CharSet :=
  .ofTable "1C90-1CBA 1CBD-1CBF"

/-- The marks that may end a sentence, or a part of a number. -/
def fullStops : CharSet :=
  .ofTable "2E 2024 FE52 FF0E"

/-- The formats that count as digits, or go on with a sentence. -/
def sentenceFormats : CharSet :=
  .ofTable "600-605 6DD 890-891 8E2 200C-200D 110BD 110CD E0020-E007F"

/-- Marks that close a sentence without being brackets. -/
def closingMarks : CharSet :=
  .ofTable "22 27 275B-2760 2E00-2E01 2E06-2E08 2E0B 1F676-1F678"

/-- The characters that go on with a sentence. -/
def sentenceExtend : CharSet :=
  .unions [graphemeExtend, Category.spacingMark.chars, .ofTable "200D"]

/-- The small letters of sentences. -/
def sentenceLower : CharSet :=
  lowercase.without (smallUncased.union graphemeExtend)

/-- The capital letters of sentences. -/
def sentenceUpper : CharSet :=
  (uppercase.union Category.titlecaseLetter.chars).without capitalUncased

/-- How a character takes part in sentences. -/
inductive SentenceBreak where
  | fullStop
  | carriageReturn
  | close
  | goesOn
  | format
  | lineFeed
  | lower
  | numeric
  | letter
  | continues
  | terminal
  | separator
  | space
  | upper
deriving DecidableEq, Repr

namespace SentenceBreak

/-- The characters of a kind. -/
def chars : SentenceBreak → CharSet
  | fullStop => fullStops
  | carriageReturn => .ofTable "D"
  | close => closingMarks.union
      (Category.charsOf
        [.openPunctuation, .closePunctuation, .initialPunctuation, .finalPunctuation])
  | goesOn => sentenceExtend
  | format => Category.format.chars.without sentenceFormats
  | lineFeed => .ofTable "A"
  | lower => sentenceLower
  | numeric => digits.union (.ofTable "600-605 66B-66C 6DD 890-891 8E2 19DA 110BD 110CD")
  | letter => (alphabetic.without
      (.unions [sentenceLower, sentenceUpper, sentenceExtend])).union (.ofTable "5F3")
  | continues => .ofTable
      "2C-2D 3A-3B 37E 55D 60C-60D 7F8 1802 1808 2013-2014 3001 FE10-FE11 FE13-FE14 FE31-FE32
       FE50-FE51 FE54-FE55 FE58 FE63 FF0C-FF0D FF1A-FF1B FF64"
  | terminal => sentenceTerminal.without fullStops
  | separator => .ofTable "85 2028-2029"
  | space => whiteSpace.without (.ofTable "A D 85 2028-2029")
  | upper => sentenceUpper

/-- The kinds by the short and the long forms of their names. -/
def named : List (String × SentenceBreak) :=
  [ ("at", fullStop), ("aterm", fullStop), ("cr", carriageReturn), ("cl", close),
    ("close", close), ("ex", goesOn), ("extend", goesOn), ("fo", format), ("format", format),
    ("lf", lineFeed), ("lo", lower), ("lower", lower), ("nu", numeric), ("numeric", numeric),
    ("le", letter), ("oletter", letter), ("sc", continues), ("scontinue", continues),
    ("st", terminal), ("sterm", terminal), ("se", separator), ("sep", separator), ("sp", space),
    ("up", upper), ("upper", upper) ]

end SentenceBreak

end Unicode
end ProvisionWatch
