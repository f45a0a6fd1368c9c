import ProvisionWatch.Unicode.Age
import ProvisionWatch.Unicode.Boundary
import ProvisionWatch.Unicode.ScriptExtension

/-!
# Sets of characters by name

A set of characters is asked for by one name, of a property, of a category or
of a script, or by the name of a kind of property and the name of a value.
Names are compared without regard to case, blanks, the marks between words, and
the word with which a question begins.
-/

namespace ProvisionWatch
namespace Unicode

/-- The name of a property in small letters, without blanks, marks between words, characters
outside of ASCII, and the word with which a question about it begins. -/
def plainName (name : List Char) : String :=
  let small := name.map Char.toLower
  let asked := small.take 2 == ['i', 's']
  let body := (if asked then small.drop 2 else small).filter fun c =>
    c != ' ' && c != '_' && c != '-' && c.toNat < 128
  if asked && body == ['c'] then "isc" else String.ofList body

/-- The characters of a category or of a group of categories. -/
def ofCategoryName? : String → Option CharSet
  | "any" => some .all
  | "assigned" => some assigned
  | "ascii" => some (.ofTable "0-7F")
  | "cn" | "unassigned" => some unassigned
  | "c" | "other" => some other
  | name => (Category.ofName? name).map Category.charsOf

/-- The characters of a script. -/
def ofScriptName? (name : String) : Option CharSet :=
  (Script.ofName? name).map Script.chars

/-- The characters that have what a plain name stands for. -/
def ofName? (name : String) : Option CharSet :=
  propertyOfName? name <|> ofCategoryName? name <|> ofScriptName? name

/-- The characters that have a value of a kind of property, both by plain names. -/
def ofValue? (kind value : String) : Option CharSet :=
  match kind with
  | "generalcategory" | "gc" => ofCategoryName? value
  | "script" | "sc" => ofScriptName? value
  | "scriptextensions" | "scx" => (Script.ofName? value).map Script.extended
  | "age" => ofAge? value
  | "graphemeclusterbreak" | "gcb" => (GraphemeBreak.named.lookup value).map GraphemeBreak.chars
  | "wordbreak" | "wb" => (WordBreak.named.lookup value).map WordBreak.chars
  | "sentencebreak" | "sb" => (SentenceBreak.named.lookup value).map SentenceBreak.chars
  | _ => none

end Unicode
end ProvisionWatch
