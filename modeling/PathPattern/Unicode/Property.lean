import PathPattern.Unicode.GeneralCategory
import PathPattern.Unicode.Script
import PathPattern.Unicode.ScriptExtension
import PathPattern.Unicode.BinaryProperty
import PathPattern.Unicode.TextBreak
import PathPattern.Unicode.Age

namespace PathPattern.Unicode

def normalName (name : Text) : Text :=
  let (isForm, body) : Bool × Text :=
    match name with
    | i :: s :: rest =>
        if (i = 'i' || i = 'I') && (s = 's' || s = 'S') then (true, rest) else (false, name)
    | _ => (false, name)
  let letters := (body.filter fun c => c.toNat < 0x80 && c ≠ ' ' && c ≠ '_' && c ≠ '-').map Char.toLower
  -- A property of its own has the name `isc`.
  if isForm && letters = ['c'] then ['i', 's', 'c'] else letters

def broadCategories : List (List String × List String) := [
  (["l", "letter"], ["lu", "ll", "lt", "lm", "lo"]),
  (["lc", "casedletter"], ["lu", "ll", "lt"]),
  (["m", "mark", "combiningmark"], ["mn", "mc", "me"]),
  (["n", "number"], ["nd", "nl", "no"]),
  (["p", "punctuation", "punct"], ["pc", "pd", "ps", "pe", "pi", "pf", "po"]),
  (["s", "symbol"], ["sm", "sc", "sk", "so"]),
  (["z", "separator"], ["zs", "zl", "zp"]),
  (["c", "other"], ["cc", "cf", "co", "cn"])]

def category? (name : Text) : Option CharSet :=
  if name = "any".toList then some .all
  else if name = "ascii".toList then some .ascii
  else if name = "assigned".toList then
    (NamedSet.find? generalCategories "cn".toList).map CharSet.complement
  else
    match broadCategories.find? fun (names, _) => names.any fun other => other.toList = name with
    | some (_, parts) =>
        some (.unionAll (parts.filterMap fun part => NamedSet.find? generalCategories part.toList))
    | none => NamedSet.find? generalCategories name

def script? (name : Text) : Option CharSet := NamedSet.find? scripts name

def extendedScript? (name : Text) : Option CharSet :=
  match scripts.find? fun set => set.names.any fun other => other.toList = name with
  | none => none
  | some own =>
      match scriptExtensions.find? fun extension => extension.names.any fun other => own.names.contains other with
      | none => some own.chars
      | some extension =>
          some ((own.chars.difference (readRanges extension.removed)).union (readRanges extension.added))

def age? (name : Text) : Option CharSet :=
  let isNamed := fun set : NamedSet => set.names.any fun other => other.toList = name
  if ages.any isNamed then
    let before := ages.takeWhile fun set => !isNamed set
    let upTo := ages.take (before.length + 1)
    some (.unionAll (upTo.map NamedSet.chars))
  else none

def property? (name : Text) : Option CharSet :=
  let normal := normalName name
  (NamedSet.find? binaryProperties normal <|> category? normal) <|> script? normal

def propertyValue? (name value : Text) : Option CharSet :=
  let normal := normalName name
  let wanted := normalName value
  let among := fun names : List String => names.any fun other => other.toList = normal
  if among ["gc", "generalcategory", "category"] then category? wanted
  else if among ["sc", "script"] then script? wanted
  else if among ["scx", "scriptextensions"] then extendedScript? wanted
  else if among ["age"] then age? wanted
  else if among ["gcb", "graphemeclusterbreak"] then NamedSet.find? graphemeBreaks wanted
  else if among ["wb", "wordbreak"] then NamedSet.find? wordBreaks wanted
  else if among ["sb", "sentencebreak"] then NamedSet.find? sentenceBreaks wanted
  else none

end PathPattern.Unicode
