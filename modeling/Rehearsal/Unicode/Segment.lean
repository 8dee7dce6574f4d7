import Rehearsal.Unicode.Script
import Rehearsal.Unicode.Trait

/-!
# Text segments

The values of three properties that tell where a text falls into characters as they are perceived,
words and sentences. They follow from categories, traits and scripts; all else has the value
`other`, which has no set of its own here.
-/

namespace Rehearsal.Unicode

/-- A value of a property: its names in lower case without joints, and the code points with it. -/
abbrev SegmentValue := List String × CodeSet

/-- The code points with the value of a name. -/
def segmentNamed? (values : List SegmentValue) (name : String) : Option CodeSet :=
  (values.find? (·.1.contains name)).map (·.2)

/-- A carriage return, and a line feed. -/
def lineEnds : List SegmentValue := [(["cr"], .single 0xD), (["lf"], .single 0xA)]

/-- The joiner of zero width. -/
def joiner : CodeSet := .single 0x200D

/-- The syllables of Hangul, and of these the ones without a last consonant. -/
def hangul : CodeSet × CodeSet :=
  (.range 0xAC00 0xD7A3, .ofRanges ((List.range 399).map fun i => (0xAC00 + 28 * i, 0xAC00 + 28 * i)))

/-- Characters that extend the one before them, and modifiers of emoji. -/
def clusterExtend (_ : Unit) : CodeSet :=
  ((withTrait "graphemeextend").union (withTrait "emojimodifier")).without joiner

/-- Signs that belong to the character after them. -/
def clusterPrepend (_ : Unit) : CodeSet :=
  (withTrait "prependedconcatenationmark").union
    (.ofText "D4E 111C2-111C3 113D1 1193F 11941 11A3A 11A84-11A89 11D46 11F02")

/-- Values for perceived characters. -/
def clusterValues (_ : Unit) : List SegmentValue :=
  let extend := clusterExtend ()
  let prepend := clusterPrepend ()
  let unassigned := assigned.complement.inter (withTrait "defaultignorablecodepoint")
  let invisible := (ofCategories [.lineSeparator, .paragraphSeparator, .control, .format]).without
    (.unions [.ofText "A D 200C-200D E0020-E007F", prepend])
  let spacing := ((Category.spacingMark.codePoints.union (.ofText "E33 EB3")).without
    (extend.union prepend)).without
      (.ofText "102B-102C 1038 1062-1064 1067-106D 1083 1087-108C 108F 109A-109C 1A61 1A63-1A64
        AA7B AA7D 11720-11721")
  let (syllables, open_) := hangul
  lineEnds ++
  [(["cn", "control"], (invisible.union unassigned).without extend),
    (["ex", "extend"], extend),
    (["zwj"], joiner),
    (["ri", "regionalindicator"], withTrait "regionalindicator"),
    (["pp", "prepend"], prepend),
    (["sm", "spacingmark"], spacing),
    (["l"], .ofText "1100-115F A960-A97C"),
    (["v"], .ofText "1160-11A7 D7B0-D7C6 16D63 16D67-16D6A"),
    (["t"], .ofText "11A8-11FF D7CB-D7FB"),
    (["lv"], open_),
    (["lvt"], syllables.without open_)]

/-- The code points of some scripts by name. -/
def ofScripts (names : List String) : CodeSet :=
  .unions ((names.filterMap Script.named?).map Script.codePoints)

/-- What extends a character in words and sentences. -/
def wordExtend (_ : Unit) : CodeSet := (clusterExtend ()).union Category.spacingMark.codePoints

/-- Format characters that do not join, tag or count. -/
def wordFormat (_ : Unit) : CodeSet :=
  (Category.format.codePoints.without (withTrait "prependedconcatenationmark")).without
    (.ofText "200B-200D E0020-E007F")

/-- Digits, and the signs that belong to a number. -/
def segmentNumeric (_ : Unit) : CodeSet :=
  .unions [Category.decimalNumber.codePoints, .ofText "66B 600-605 6DD 890-891 8E2 110BD 110CD"]

/-- Values for words. -/
def wordValues (_ : Unit) : List SegmentValue :=
  let katakana := (ofScripts ["katakana"]).union (.ofText "3031-3035 309B-309C 30A0 30FC FF70")
  let hebrew := (ofScripts ["hebrew"]).inter Category.otherLetter.codePoints
  let unspaced : CodeSet := .unions [withTrait "ideographic", katakana, hebrew, wordExtend (),
    ofCategories [.nonspacingMark, .spacingMark], ofScripts ["hiragana", "thai", "lao", "khmer",
      "myanmar", "newtailue", "taile", "taitham", "taiviet", "ahom"]]
  let letters := (withTrait "alphabetic").union
    (.ofText "2C2-2C5 2D2-2D7 2DE-2DF 2E5-2EB 2ED 2EF-2FF 55A-55C 55E 58A 5F3 70F A708-A716
      A720-A721 A789-A78A AB5B AB6A-AB6B")
  lineEnds ++
  [(["nl", "newline"], .ofText "B-C 85 2028-2029"),
    (["zwj"], joiner),
    (["extend"], wordExtend ()),
    (["ri", "regionalindicator"], withTrait "regionalindicator"),
    (["fo", "format"], wordFormat ()),
    (["ka", "katakana"], katakana),
    (["hl", "hebrewletter"], hebrew),
    (["le", "aletter"], letters.without unspaced),
    (["sq", "singlequote"], .single 0x27),
    (["dq", "doublequote"], .single 0x22),
    (["mb", "midnumlet"], .ofText "2E 2018-2019 2024 FE52 FF07 FF0E"),
    (["ml", "midletter"], .ofText "3A B7 387 55F 5F4 2027 FE13 FE55 FF1A"),
    (["mn", "midnum"],
      .ofText "2C 3B 37E 589 60C-60D 66C 7F8 2044 FE10 FE14 FE50 FE54 FF0C FF1B"),
    (["nu", "numeric"], segmentNumeric ()),
    (["ex", "extendnumlet"], Category.connectorPunctuation.codePoints.union (.single 0x202F)),
    (["wsegspace"], Category.spaceSeparator.codePoints.without (.ofText "A0 2007 202F"))]

/-- Values for sentences. -/
def sentenceValues (_ : Unit) : List SegmentValue :=
  let extend : CodeSet := .unions [wordExtend (), .ofText "200C-200D"]
  let georgian := CodeSet.ofText "10D0-10FA 10FD-10FF 1C90-1CBA 1CBD-1CBF"
  let lower := (withTrait "lowercase").without (extend.union georgian)
  let upper := (Category.titlecaseLetter.codePoints.union (withTrait "uppercase")).without georgian
  let others : CodeSet := .unions [withTrait "alphabetic", georgian, .ofText "A0 5F3"]
  let separators := CodeSet.ofText "85 2028-2029"
  let stops := CodeSet.ofText "2E 2024 FE52 FF0E"
  let terminal := (withTrait "sentenceterminal").without stops
  let brackets := ofCategories
    [.openPunctuation, .closePunctuation, .initialPunctuation, .finalPunctuation]
  lineEnds ++
  [(["ex", "extend"], extend),
    (["se", "sep"], separators),
    (["fo", "format"], (wordFormat ()).union (.single 0x200B)),
    (["sp"], (withTrait "whitespace").without (separators.union (.ofText "A D A0"))),
    (["lo", "lower"], lower),
    (["up", "upper"], upper),
    (["le", "oletter"], others.without (.unions [lower, upper, extend])),
    (["nu", "numeric"], (segmentNumeric ()).union (.single 0x66C)),
    (["at", "aterm"], stops),
    (["st", "sterm"], terminal),
    (["sc", "scontinue"],
      .ofText "2C-2D 3A-3B 37E 55D 60C-60D 7F8 1802 1808 2013-2014 3001 FE10-FE11 FE13-FE14
        FE31-FE32 FE50-FE51 FE54-FE55 FE58 FE63 FF0C-FF0D FF1A-FF1B FF64"),
    (["cl", "close"],
      ((brackets.union (withTrait "quotationmark")).union
        (.ofText "275B-2760 2E00-2E01 2E06-2E08 2E0B 1F676-1F678")).without
          (.unions [.single 0x5F3, stops, terminal]))]

end Rehearsal.Unicode
