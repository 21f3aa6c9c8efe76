import DesignLint.Unicode.Age
import DesignLint.Unicode.Category
import DesignLint.Unicode.Property
import DesignLint.Unicode.Script
import DesignLint.Unicode.ScriptExtension

/-! # Properties of characters by name -/

namespace DesignLint.Unicode

/-! ## Properties that follow from others -/

/-- How a set of characters follows from general categories and properties: what it takes together,
and what it leaves out of that. All are names, the last is code points. -/
structure Derivation where
  categories : List String
  properties : List String := []
  leftOut : List String := []
  exceptions : String := ""

def Derivation.ranges (d : Derivation) : Text.Ranges :=
  let all := Text.Ranges.union (categorySets.union d.categories) (propertySets.union d.properties)
  let less := Text.Ranges.union (propertySets.union d.leftOut) (rangesOf d.exceptions)
  if less.isEmpty then all else all.without less

def letters : List String := ["lu", "ll", "lt", "lm", "lo"]

def marks : List String := ["mn", "mc", "me"]

def numbers : List String := ["nd", "nl", "no"]

def punctuation : List String := ["pc", "pd", "ps", "pe", "pi", "pf", "po"]

def symbols : List String := ["sm", "sc", "sk", "so"]

def separators : List String := ["zs", "zl", "zp"]

/-- The categories of all other characters; the last one is of those that stand for nothing. -/
def others : List String := ["cc", "cf", "co", "cn"]

def idStart : Derivation where
  categories := letters ++ ["nl"]
  properties := ["oids"]
  leftOut := ["patsyn", "patws"]

def idContinue : Derivation where
  categories := letters ++ ["nl", "mn", "mc", "nd", "pc"]
  properties := ["oids", "oidc"]
  leftOut := ["patsyn", "patws"]

def derivedSets : List (List String × Derivation) := [
  (["lower", "lowercase"], ⟨["ll"], ["olower"], [], ""⟩),
  (["upper", "uppercase"], ⟨["lu"], ["oupper"], [], ""⟩),
  (["alpha", "alphabetic"], ⟨letters ++ ["nl"], ["olower", "oupper", "oalpha"], [], ""⟩),
  (["math"], ⟨["sm"], ["omath"], [], ""⟩),
  (["cased"], ⟨["lu", "ll", "lt"], ["olower", "oupper"], [], ""⟩),
  (["grext", "graphemeextend"], ⟨["mn", "me"], ["ogrext"], [], ""⟩),
  (["grbase", "graphemebase"],
    ⟨letters ++ ["mc"] ++ numbers ++ punctuation ++ symbols ++ ["zs"], [], ["ogrext"], ""⟩),
  (["ids", "idstart"], idStart),
  (["idc", "idcontinue"], idContinue),
  (["xids", "xidstart"],
    { idStart with
      exceptions := "37A E33 EB3 309B-309C FC5E-FC63 FDFA-FDFB FE70-FE7E/2 FF9E-FF9F" }),
  (["xidc", "xidcontinue"],
    { idContinue with exceptions := "37A 309B-309C FC5E-FC63 FDFA-FDFB FE70-FE7E/2" })]

/-! ## Lookup -/

def property? (name : String) : Option Text.Ranges :=
  match derivedSets.find? fun e => e.1.contains name with
  | some e => some e.2.ranges
  | none => propertySets.find? name

def categoryGroups : List (List String × List String) := [
  (["l", "letter"], letters),
  (["lc", "casedletter"], ["lu", "ll", "lt"]),
  (["m", "mark", "combiningmark"], marks),
  (["n", "number"], numbers),
  (["p", "punctuation", "punct"], punctuation),
  (["s", "symbol"], symbols),
  (["z", "separator"], separators),
  (["c", "other"], others)]

def category? (name : String) : Option Text.Ranges :=
  match name with
  | "any" => some [(0, Text.Ranges.lastCode)]
  | "ascii" => some [(0, 0x7F)]
  | "assigned" => (categorySets.find? "cn").map Text.Ranges.complement
  | _ => match categoryGroups.find? fun e => e.1.contains name with
    | some e => some (categorySets.union e.2)
    | none => categorySets.find? name

def script? (name : String) : Option Text.Ranges := scriptSets.find? name

/-- The characters that are used in a script, be they of that script alone or of several. -/
def usedInScript? (name : String) : Option Text.Ranges :=
  (extendedScriptSets.find? name).or (script? name)

def age? (name : String) : Option Text.Ranges :=
  if (ageSets.find? name).isSome then
    let before := List.takeWhile (fun e => !(wordsOf e.1).contains name.toList) ageSets
    some (before.flatMap (fun e => rangesOf e.2) ++ (ageSets.find? name).getD [])
  else none

end DesignLint.Unicode
