import PathPattern.Reading
import PathPattern.Toml.Value
import PathPattern.Unicode.NamedSet

namespace PathPattern.Toml

def isPrintable (c : Char) : Bool := c = '\t' || (0x20 ≤ c.toNat && c.toNat ≠ 0x7f)

def isBlank (c : Char) : Bool := c = ' ' || c = '\t'

def skipBlanks : Reading Unit := do let _ ← Reading.takeWhile isBlank

def lineFeed? : Reading (Option Text) := do
  if ← Reading.skip? ['\n'] then return some ['\n']
  else if ← Reading.skip? ['\r', '\n'] then return some ['\r', '\n']
  else return none

def dropGaps (comment : Bool) : Text → Text
  | [] => []
  | c :: rest =>
      if c = '\n' then dropGaps false rest
      else if c = '\r' && rest.head? = some '\n' then dropGaps comment rest
      else if comment then if isPrintable c then dropGaps true rest else c :: rest
      else if isBlank c then dropGaps false rest
      else if c = '#' then dropGaps true rest
      else c :: rest

theorem drop_gaps_length (comment : Bool) (input : Text) : (dropGaps comment input).length ≤ input.length := by
  induction input generalizing comment with
  | nil => simp [dropGaps]
  | cons c rest ih =>
      have whenOutside := ih false
      have whenInside := ih true
      have same := ih comment
      simp only [dropGaps]
      split
      · simp only [List.length_cons]; omega
      · split
        · simp only [List.length_cons]; omega
        · split
          · split
            · simp only [List.length_cons]; omega
            · exact Nat.le_refl _
          · split
            · simp only [List.length_cons]; omega
            · split
              · simp only [List.length_cons]; omega
              · exact Nat.le_refl _

def skipGaps : Reading Unit := .trim fun input => ⟨dropGaps false input, drop_gaps_length false input⟩

def dropBlankLines : Text → Text
  | [] => []
  | c :: rest =>
      if isBlank c || c = '\n' || (c = '\r' && rest.head? = some '\n') then dropBlankLines rest else c :: rest

theorem drop_blank_lines_length (input : Text) : (dropBlankLines input).length ≤ input.length := by
  induction input with
  | nil => simp [dropBlankLines]
  | cons c rest ih =>
      simp only [dropBlankLines]
      split
      · simp only [List.length_cons]; omega
      · exact Nat.le_refl _

def skipBlankLines : Reading Unit := .trim fun input => ⟨dropBlankLines input, drop_blank_lines_length input⟩

def isHexDigit (c : Char) : Bool :=
  c.isDigit || ('a' ≤ c && c ≤ 'f') || ('A' ≤ c && c ≤ 'F')

def codePoint (count : Nat) : Reading Char := do
  let rec digits : Nat → Reading Text
    | 0 => pure []
    | count + 1 => do
        let digit ← Reading.next
        Reading.require (isHexDigit digit)
        return digit :: (← digits count)
  let code := Unicode.hexNumber (← digits count)
  Reading.require code.isValidChar
  return Char.ofNat code

def escapedChar : Reading Char := do
  match ← Reading.next with
  | 'b' => return '\x08'
  | 't' => return '\t'
  | 'n' => return '\n'
  | 'f' => return '\x0c'
  | 'r' => return '\r'
  | 'e' => return '\x1b'
  | '"' => return '"'
  | '\\' => return '\\'
  | 'x' => codePoint 2
  | 'u' => codePoint 4
  | 'U' => codePoint 8
  | _ => Reading.refuse

def basicText : Reading Text :=
  Reading.loop (fun _ => none)
    (fun (taken : Text) c => do
      if c = '"' then return .inr taken.reverse
      else if c = '\\' then return .inl ((← escapedChar) :: taken)
      else
        Reading.require (isPrintable c)
        return .inl (c :: taken))
    []

def literalText : Reading Text := do
  let taken ← Reading.takeWhile fun c => c ≠ '\'' && isPrintable c
  Reading.skip ['\'']
  return taken

def longText (mark : Char) (escapes : Bool) : Reading Text := do
  let _ ← lineFeed?
  Reading.loop (fun _ => none)
    (fun (taken : Text) c => do
      if c = mark then
        let more ← Reading.takeWhile (· = mark)
        let count := more.length + 1
        if count < 3 then return .inl (List.replicate count mark ++ taken)
        else
          Reading.require (count ≤ 5)
          return .inr (taken.reverse ++ List.replicate (count - 3) mark)
      else if c = '\\' && escapes then
        if (← Reading.ahead List.head?).any fun next => isBlank next || next = '\n' || next = '\r' then
          skipBlanks
          Reading.require (← lineFeed?).isSome
          skipBlankLines
          return .inl taken
        else return .inl ((← escapedChar) :: taken)
      else if c = '\r' then
        Reading.skip ['\n']
        return .inl ('\n' :: '\r' :: taken)
      else
        Reading.require (isPrintable c || c = '\n')
        return .inl (c :: taken))
    []

def digits? (accepts : Char → Bool) (text : Text) : Option Text :=
  let groups := text.splitOn '_'
  if groups.all fun group => group ≠ [] && group.all accepts then some groups.flatten else none

def digitsValue (base : Nat) (digits : Text) : Nat :=
  digits.foldl (fun n c => base * n + Unicode.hexDigit c) 0

def signed (text : Text) : Bool × Text :=
  match text with
  | '-' :: rest => (true, rest)
  | '+' :: rest => (false, rest)
  | _ => (false, text)

def decimalDigits? (text : Text) : Option Text :=
  match digits? Char.isDigit text with
  | some digits => if digits.head? = some '0' && text ≠ ['0'] then none else some digits
  | none => none

def integer? (text : Text) : Option Int :=
  let based := fun (base : Nat) (accepts : Char → Bool) (digits : Text) =>
    (digits? accepts digits).map fun digits => Int.ofNat (digitsValue base digits)
  match text with
  | '0' :: 'x' :: rest => based 16 isHexDigit rest
  | '0' :: 'o' :: rest => based 8 (fun c => '0' ≤ c && c ≤ '7') rest
  | '0' :: 'b' :: rest => based 2 (fun c => c = '0' || c = '1') rest
  | _ =>
      let (negative, rest) := signed text
      (decimalDigits? rest).map fun digits =>
        let value := Int.ofNat (digitsValue 10 digits)
        if negative then -value else value

def decimal? (text : Text) : Option Decimal :=
  let (mantissa, exponentText) :=
    match Text.splitAt? 'e' text <|> Text.splitAt? 'E' text with
    | some (mantissa, exponent) => (mantissa, some exponent)
    | none => (text, none)
  let (wholeText, fractionText) :=
    match Text.splitAt? '.' mantissa with
    | some (whole, fraction) => (whole, some fraction)
    | none => (mantissa, none)
  let exponent : Option Int :=
    match exponentText with
    | none => some 0
    | some text =>
        let (negative, digits) := signed text
        (digits? Char.isDigit digits).map fun digits =>
          let value := Int.ofNat (digitsValue 10 digits)
          if negative then -value else value
  let fraction : Option Text :=
    match fractionText with
    | none => some []
    | some text => digits? Char.isDigit text
  match decimalDigits? wholeText, fraction, exponent with
  | some whole, some fraction, some exponent =>
      if exponentText.isSome || fractionText.isSome then some ⟨whole ++ fraction, fraction.length, exponent⟩
      else none
  | _, _, _ => none

def real? (text : Text) : Option Value :=
  let (_, body) := signed text
  if body = "inf".toList || body = "nan".toList then some (.real none)
  else (decimal? body).map fun size => .real (some size)

def fixedNumber? (count : Nat) (text : Text) : Option Nat :=
  if text.length = count && text.all Char.isDigit then some (digitsValue 10 text) else none

def isLeapYear (year : Nat) : Bool := year % 4 = 0 && (year % 100 ≠ 0 || year % 400 = 0)

def monthLength (year month : Nat) : Nat :=
  if month = 2 then if isLeapYear year then 29 else 28
  else if month = 4 || month = 6 || month = 9 || month = 11 then 30
  else 31

def isDate (text : Text) : Bool :=
  match text.splitOn '-' with
  | [yearText, monthText, dayText] =>
      match fixedNumber? 4 yearText, fixedNumber? 2 monthText, fixedNumber? 2 dayText with
      | some year, some month, some day =>
          1 ≤ month && month ≤ 12 && 1 ≤ day && day ≤ monthLength year month
      | _, _, _ => false
  | _ => false

def isBelow (bound : Nat) (text : Text) : Bool := (fixedNumber? 2 text).any (· < bound)

def isTime (text : Text) : Bool :=
  match text.splitOn ':' with
  | [hour, minute] => isBelow 24 hour && isBelow 60 minute
  | [hour, minute, second] =>
      let (whole, fraction) :=
        match Text.splitAt? '.' second with
        | some (whole, fraction) => (whole, some fraction)
        | none => (second, none)
      isBelow 24 hour && isBelow 60 minute && isBelow 61 whole &&
        fraction.all fun digits => digits ≠ [] && digits.all Char.isDigit
  | _ => false

def isTimeWithOffset (text : Text) : Bool :=
  let isOffset := fun (offset : Text) =>
    match offset.splitOn ':' with
    | [hour, minute] => isBelow 24 hour && isBelow 60 minute
    | _ => false
  match text.getLast? with
  | some 'Z' | some 'z' => isTime text.dropLast
  | _ =>
      match Text.splitAt? '+' text <|> Text.splitAt? '-' text with
      | some (time, offset) => isTime time && isOffset offset
      | none => isTime text

def isMoment (text : Text) : Bool :=
  isDate text || isTime text ||
    (isDate (text.take 10) &&
      match text.drop 10 with
      | separator :: time => (separator = 'T' || separator = 't' || separator = ' ') && isTimeWithOffset time
      | [] => false)

def plain? (text : Text) : Option Value :=
  if text = "true".toList then some (.boolean true)
  else if text = "false".toList then some (.boolean false)
  else
    match integer? text with
    | some value => some (.integer value)
    | none =>
        match real? text with
        | some value => some value
        | none => if isMoment text then some (.moment text) else none

def isPlainChar (c : Char) : Bool := c.isAlphanum || c = '+' || c = '-' || c = '_' || c = '.' || c = ':'

def scalar (c : Char) : Reading Value := do
  if c = '"' then
    if ← Reading.skip? ['"', '"'] then return .text (← longText '"' true)
    else return .text (← basicText)
  else if c = '\'' then
    if ← Reading.skip? ['\'', '\''] then return .text (← longText '\'' false)
    else return .text (← literalText)
  else
    Reading.require (isPlainChar c)
    let text := c :: (← Reading.takeWhile isPlainChar)
    let timeFollows ← Reading.ahead fun
      | ' ' :: next :: _ => next.isDigit
      | _ => false
    if isDate text && timeFollows then
      Reading.skip [' ']
      let time ← Reading.takeWhile isPlainChar
      Reading.given (plain? (text ++ ' ' :: time))
    else Reading.given (plain? text)

end PathPattern.Toml
