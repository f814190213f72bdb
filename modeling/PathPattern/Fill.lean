import PathPattern.Matcher
import PathPattern.Scrub

/-!
Filling the tokens of a pattern with values.

Filling has two steps. First every token name in turn gets its value into the segments: one segment per mention in
a template, all segments of that name in a symbolic pattern. Then the text is written: values as they are, and
the text between them scrubbed of what looks like a placeholder.
-/

namespace PathPattern

abbrev Bindings := Text → Option Text

namespace Bindings

def first (pairs : List (Text × Text)) : Bindings := fun name =>
  (pairs.find? fun (other, _) => other = name).map Prod.snd

def last (pairs : List (Text × Text)) : Bindings := first pairs.reverse

end Bindings

structure Slot where
  segment : Segment
  value : Option Text
deriving DecidableEq, Repr

namespace Slot

def isOpenFor (name : Text) (slot : Slot) : Bool := slot.value.isNone && slot.segment.name? == some name

def fillFirst (name value : Text) : List Slot → List Slot
  | [] => []
  | slot :: rest =>
      if slot.isOpenFor name then { slot with value := some value } :: rest else slot :: fillFirst name value rest

def fillEvery (name value : Text) (slots : List Slot) : List Slot :=
  slots.map fun slot => if slot.isOpenFor name then { slot with value := some value } else slot

def fill (mode : Mode) (bindings : Bindings) (slots : List Slot) (name : Text) : List Slot :=
  match bindings name with
  | none => slots
  | some value => if mode = .template then fillFirst name value slots else fillEvery name value slots

def assign (mode : Mode) (segments : List Segment) (bindings : Bindings) : List Slot :=
  (tokenNames segments).foldl (fill mode bindings) (segments.map fun segment => ⟨segment, none⟩)

def write (mode : Mode) (waiting : Text) : List Slot → Text
  | [] => mode.scrub waiting
  | slot :: rest =>
      match slot.value with
      | some value => mode.scrub waiting ++ value ++ write mode [] rest
      | none => write mode (waiting ++ slot.segment.text) rest

end Slot

def Matcher.fill (matcher : Matcher) (bindings : Bindings) : Except Fault Text :=
  if matcher.mode.hasTokens then
    .ok (Slot.write matcher.mode [] (Slot.assign matcher.mode matcher.segments bindings))
  else .error (.noTokens matcher.mode)

end PathPattern
