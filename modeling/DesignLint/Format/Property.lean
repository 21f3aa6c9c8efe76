import DesignLint.Format.Syntax
import DesignLint.Unicode.Break
import DesignLint.Unicode.Derived

/-! # Properties in formats -/

namespace DesignLint.Format

/-- A name without what makes no difference: case, blanks, dashes, underscores, characters beyond
ASCII and an "is" before the rest. What would then be a lone c is the name of a comment property. -/
def plainName (name : List Char) : String :=
  let lower := name.map Char.toLower
  let withIs := ['i', 's'].isPrefixOf lower
  let plain := (if withIs then lower.drop 2 else lower).filter fun c =>
    c != ' ' && c != '_' && c != '-' && c.toNat < 0x80
  if withIs && plain = ['c'] then "isc" else String.ofList plain

/-- The names of categories that are also short for properties of another kind. -/
def categoriesFirst : List String := ["cf", "sc", "lc"]

/-- The characters with the property that a name stands for: a property of its own, a general
category or a script. -/
def charsNamed? (name : String) : Option Text.Ranges :=
  (if categoriesFirst.contains name then none else Unicode.property? name).or
    ((Unicode.category? name).or (Unicode.script? name))

def charsValued? (name value : String) : Option Text.Ranges :=
  match name with
  | "gc" | "generalcategory" => Unicode.category? value
  | "sc" | "script" => Unicode.script? value
  | "scx" | "scriptextensions" => Unicode.usedInScript? value
  | "age" => Unicode.age? value
  | "gcb" | "graphemeclusterbreak" => Unicode.clusterSets.find? value
  | "wb" | "wordbreak" => Unicode.wordSets.find? value
  | "sb" | "sentencebreak" => Unicode.sentenceSets.find? value
  | _ => none

def PropertyQuery.chars? : PropertyQuery → Option Text.Ranges
  | named name => charsNamed? (plainName name)
  | valued name value => charsValued? (plainName name) (plainName value)

end DesignLint.Format
