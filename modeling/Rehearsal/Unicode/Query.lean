import Rehearsal.Unicode.Age
import Rehearsal.Unicode.Segment

/-!
# Sets of characters by name

A property is named loosely: case, blanks, joints and a leading `is` do not count. `named?` gives the
characters that have a trait, a category or a script, `valued?` those with a value of a property.
-/

namespace Rehearsal.Unicode

/-- A name without what does not count in it. -/
def looseName (name : List Char) : String :=
  let (led, rest) :=
    match name with
    | a :: b :: r => if a.toLower = 'i' ∧ b.toLower = 's' then (true, r) else (false, name)
    | r => (false, r)
  let key := (rest.filter fun c => c.toNat < 128 && !(c = ' ' || c = '_' || c = '-')).map Char.toLower
  String.ofList (if led ∧ key = ['c'] then "isc".toList else key)

/-- Groups of categories with their names. -/
def categoryGroups : List (List String × List Category) := [
  (["lu", "uppercaseletter"], [.uppercaseLetter]), (["ll", "lowercaseletter"], [.lowercaseLetter]),
  (["lt", "titlecaseletter"], [.titlecaseLetter]), (["lm", "modifierletter"], [.modifierLetter]),
  (["lo", "otherletter"], [.otherLetter]),
  (["lc", "casedletter"], [.uppercaseLetter, .lowercaseLetter, .titlecaseLetter]),
  (["l", "letter"],
    [.uppercaseLetter, .lowercaseLetter, .titlecaseLetter, .modifierLetter, .otherLetter]),
  (["mn", "nonspacingmark"], [.nonspacingMark]), (["mc", "spacingmark"], [.spacingMark]),
  (["me", "enclosingmark"], [.enclosingMark]),
  (["m", "mark", "combiningmark"], [.nonspacingMark, .spacingMark, .enclosingMark]),
  (["nd", "decimalnumber", "digit"], [.decimalNumber]), (["nl", "letternumber"], [.letterNumber]),
  (["no", "othernumber"], [.otherNumber]),
  (["n", "number"], [.decimalNumber, .letterNumber, .otherNumber]),
  (["pc", "connectorpunctuation"], [.connectorPunctuation]),
  (["pd", "dashpunctuation"], [.dashPunctuation]), (["ps", "openpunctuation"], [.openPunctuation]),
  (["pe", "closepunctuation"], [.closePunctuation]),
  (["pi", "initialpunctuation"], [.initialPunctuation]),
  (["pf", "finalpunctuation"], [.finalPunctuation]),
  (["po", "otherpunctuation"], [.otherPunctuation]),
  (["p", "punctuation", "punct"],
    [.connectorPunctuation, .dashPunctuation, .openPunctuation, .closePunctuation,
      .initialPunctuation, .finalPunctuation, .otherPunctuation]),
  (["sm", "mathsymbol"], [.mathSymbol]), (["sc", "currencysymbol"], [.currencySymbol]),
  (["sk", "modifiersymbol"], [.modifierSymbol]), (["so", "othersymbol"], [.otherSymbol]),
  (["s", "symbol"], [.mathSymbol, .currencySymbol, .modifierSymbol, .otherSymbol]),
  (["zs", "spaceseparator"], [.spaceSeparator]), (["zl", "lineseparator"], [.lineSeparator]),
  (["zp", "paragraphseparator"], [.paragraphSeparator]),
  (["z", "separator"], [.spaceSeparator, .lineSeparator, .paragraphSeparator]),
  (["cc", "control", "cntrl"], [.control]), (["cf", "format"], [.format]),
  (["co", "privateuse"], [.privateUse])]

/-- The characters of a category or a group of categories. -/
def categoryNamed? (name : String) : Option CodeSet :=
  if name = "any" then some .full
  else if name = "ascii" then some (.range 0 127)
  else if name = "assigned" then some assigned
  else if name = "cn" ∨ name = "unassigned" then some assigned.complement
  else if name = "c" ∨ name = "other" then
    some (assigned.complement.union (ofCategories [.control, .format, .surrogate, .privateUse]))
  else (categoryGroups.find? (·.1.contains name)).map fun e => ofCategories e.2

/-- The characters of a trait, a category or a script. Two letters that name a mapping of characters
as well stand for the category. -/
def named? (name : List Char) : Option CodeSet :=
  let key := looseName name
  let trait := if ["cf", "sc", "lc"].contains key then none else withTrait? key
  trait <|> categoryNamed? key <|> (Script.named? key).map Script.codePoints

/-- The characters with a value of a property. -/
def valued? (property value : List Char) : Option CodeSet :=
  let is (names : List String) : Bool := names.contains (looseName property)
  let key := looseName value
  if is ["gc", "generalcategory"] then categoryNamed? key
  else if is ["sc", "script"] then (Script.named? key).map Script.codePoints
  else if is ["scx", "scriptextensions"] then (Script.named? key).map Script.extended
  else if is ["age"] then sinceAge? key
  else if is ["gcb", "graphemeclusterbreak"] then segmentNamed? (clusterValues ()) key
  else if is ["wb", "wordbreak"] then segmentNamed? (wordValues ()) key
  else if is ["sb", "sentencebreak"] then segmentNamed? (sentenceValues ()) key
  else none

/-- Letters, marks, decimal digits, connectors and joiners. -/
def wordCharacters : CodeSet :=
  .unions [withTrait "alphabetic", withTrait "joincontrol",
    ofCategories [.nonspacingMark, .spacingMark, .enclosingMark, .decimalNumber,
      .connectorPunctuation]]

end Rehearsal.Unicode
