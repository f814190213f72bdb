import PathPattern.Toml.Scalar

namespace PathPattern.Toml

def depthLimit : Nat := 80

def isBareChar (c : Char) : Bool := c.isAlphanum || c = '-' || c = '_'

def keyPart (c : Char) : Reading Text := do
  if c = '"' then basicText
  else if c = '\'' then literalText
  else
    Reading.require (isBareChar c)
    return c :: (← Reading.takeWhile isBareChar)

abbrev KeyProgress := List Text × Bool

def keyStep (stop : Char) (progress : KeyProgress) (c : Char) : Reading (KeyProgress ⊕ List Text) := do
  let (parts, wanted) := progress
  if isBlank c then return .inl progress
  else if wanted then return .inl ((← keyPart c) :: parts, false)
  else if c = '.' then return .inl (parts, true)
  else
    Reading.require (c = stop && parts.length ≤ depthLimit)
    return .inr parts.reverse

def key (stop : Char) : Reading (List Text) := Reading.loop (fun _ => none) (keyStep stop) ([], true)

def keyFrom (stop c : Char) : Reading (List Text) := do
  match ← keyStep stop ([], true) c with
  | .inl progress => Reading.loop (fun _ => none) (keyStep stop) progress
  | .inr parts => return parts

def arrayItems (element : Char → Reading Value) : Reading (List Value) := do
  skipGaps
  Reading.loop (fun _ => none)
    (fun ((items, wanted) : List Value × Bool) c => do
      if c = ']' then return .inr items.reverse
      else if c = ',' then
        Reading.require (!wanted)
        skipGaps
        return .inl (items, true)
      else
        Reading.require wanted
        let item ← element c
        skipGaps
        return .inl (item :: items, false))
    ([], true)

def inlineEntries (element : Char → Reading Value) : Reading Entries := do
  skipGaps
  Reading.loop (fun _ => none)
    (fun ((entries, wanted) : Entries × Bool) c => do
      if c = '\x7d' then return .inr entries
      else if c = ',' then
        Reading.require (!wanted)
        skipGaps
        return .inl (entries, true)
      else
        Reading.require wanted
        let key ← keyFrom '=' c
        skipBlanks
        let value ← element (← Reading.next)
        skipGaps
        return .inl ((← Reading.given (entries.assign? key value)), false))
    ([], true)

def value : (depth : Nat) → (c : Char) → Reading Value
  | 0, c => scalar c
  | depth + 1, c => do
      if c = '[' then return .array false (← arrayItems (value depth))
      else if c = '\x7b' then return .table .inline (← inlineEntries (value depth))
      else scalar c

structure Header where
  path : List Text
  last : Text
  element : Bool

structure Progress where
  root : Entries
  header : Option Header
  current : Entries

namespace Progress

def start : Progress := ⟨[], none, []⟩

def finish? (progress : Progress) : Option Entries :=
  match progress.header with
  | none => some progress.current
  | some header =>
      progress.root.alter? (fun entries =>
        let table := Value.table .header progress.current
        if header.element then
          match entries.get? header.last with
          | none => some (entries ++ [(header.last, .array true [table])])
          | some (.array true items) => some (entries.replace header.last (.array true (items ++ [table])))
          | some _ => none
        else entries.add? header.last table) header.path

def resume? (entries : Entries) (last : Text) : Option Entries :=
  match entries.get? last with
  | none => some []
  | some (.table .passed inner) => some inner
  | some _ => none

def open? (progress : Progress) (header : Header) : Option Progress := do
  let root ← progress.finish?
  if header.element then return ⟨root, some header, []⟩
  else
    let rec inner? : Entries → List Text → Option Entries
      | entries, [] => resume? entries header.last
      | entries, key :: path =>
          match entries.get? key with
          | some (.table _ inner) => inner? inner path
          | some (.array true items) =>
              match items.getLast? with
              | some (.table _ inner) => inner? inner path
              | _ => none
          | some _ => none
          | none => some []
    let current ← inner? root header.path
    let root ← root.alter? (fun entries => some (entries.remove header.last)) header.path
    return ⟨root, some header, current⟩

end Progress

def lineEnd : Reading Unit := do
  skipBlanks
  if ← Reading.skip? ['#'] then
    let _ ← Reading.takeWhile isPrintable
  if (← lineFeed?).isNone then Reading.require (← Reading.ahead List.isEmpty)

def line (progress : Progress) (c : Char) : Reading Progress := do
  if isBlank c || c = '\n' then return progress
  else if c = '\r' then
    Reading.skip ['\n']
    return progress
  else if c = '#' then
    let _ ← Reading.takeWhile isPrintable
    lineEnd
    return progress
  else if c = '[' then
    let element ← Reading.skip? ['[']
    let path ← key ']'
    if element then Reading.skip [']']
    lineEnd
    let last ← Reading.given path.getLast?
    Reading.given (progress.open? ⟨path.dropLast, last, element⟩)
  else
    let key ← keyFrom '=' c
    skipBlanks
    let value ← value depthLimit (← Reading.next)
    lineEnd
    let current ← Reading.given (progress.current.assign? key value)
    return { progress with current }

def document? (text : Text) : Option Entries := do
  let body := if text.head? = some '\ufeff' then text.drop 1 else text
  let progress ← Reading.fold line .start body
  progress.finish?

end PathPattern.Toml
