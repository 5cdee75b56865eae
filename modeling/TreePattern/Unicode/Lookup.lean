import TreePattern.Unicode.Age
import TreePattern.Unicode.Segmentation

/-!
# Sets of characters by name

A set of characters can be asked for by one name, which is a property, a general category or a
script, or by a property and its value. Names are compared in lower case, and blanks, hyphens,
underscores and a leading `is` do not count.

* `Unicode.named?`: the set that goes by a name.
* `Unicode.valued?`: the set of the characters for which a property has a value.
-/

namespace TreePattern.Unicode

/-- What of a name counts in comparisons. -/
def normalName (name : String) : String :=
  let chars := match name.toList with
    | 'i' :: 's' :: rest | 'I' :: 's' :: rest | 'i' :: 'S' :: rest | 'I' :: 'S' :: rest => rest
    | chars => chars
  let kept := (chars.filter fun c =>
    c.toNat < 0x80 && c != ' ' && c != '_' && c != '-').map Char.toLower
  -- a lone `c` behind `is` is the old name of a comment field, and no category
  if kept == ['c'] && chars.length < name.length then "isc" else String.ofList kept

/-- The set that goes by a name. -/
def named? (name : String) : Option CodeSet :=
  let name := normalName name
  ((property? name).or (category? name)).or (script? name)

/-- The set of the characters for which a property has a value. -/
def valued? (name value : String) : Option CodeSet :=
  let value := normalName value
  match normalName name with
  | "gc" | "generalcategory" => category? value
  | "sc" | "script" => script? value
  | "scx" | "scriptextensions" => scriptExtension? value
  | "age" => age? value
  | "gcb" | "graphemeclusterbreak" => graphemeBreak? value
  | "wb" | "wordbreak" => wordBreak? value
  | "sb" | "sentencebreak" => sentenceBreak? value
  | _ => none

end TreePattern.Unicode
