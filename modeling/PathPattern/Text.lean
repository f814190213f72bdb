namespace PathPattern

abbrev Text := List Char

abbrev Text.join (separator : Text) (pieces : List Text) : Text := separator.intercalate pieces

def Text.splitAt? (mark : Char) : Text → Option (Text × Text)
  | [] => none
  | c :: rest =>
      if c = mark then some ([], rest)
      else (splitAt? mark rest).map fun (before, after) => (c :: before, after)

end PathPattern
