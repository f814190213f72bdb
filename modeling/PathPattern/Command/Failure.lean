import PathPattern.Fault

namespace PathPattern

def Fault.chain (fault : Fault) : List Text :=
  let faults := fault :: fault.causes
  faults.map message ++ (faults.getLast?.bind detail?).toList

namespace Command

inductive Activity where
  | compiling (pattern : Text)
  | loading
  | resolving (name : Text)
  | filling (pattern : Text)
  | discovering
  | validating
deriving DecidableEq, Repr

structure Failure where
  activity : Activity
  fault : Fault
deriving DecidableEq, Repr

def indented (lead indent text : Text) : Text :=
  lead ++ text.flatMap fun c => if c = '\n' then '\n' :: indent else [c]

def numberLead (number : Nat) : Text :=
  let digits := Nat.toDigits 10 number
  List.replicate (5 - digits.length) ' ' ++ digits ++ ": ".toList

def numbered (number : Nat) : List Text → Text
  | [] => []
  | cause :: rest => '\n' :: indented (numberLead number) "       ".toList cause ++ numbered (number + 1) rest

def causesText : List Text → Text
  | [] => []
  | [cause] => "\n\nCaused by:\n".toList ++ indented "    ".toList "    ".toList cause
  | causes => "\n\nCaused by:".toList ++ numbered 0 causes

def report : List Text → Text
  | [] => []
  | message :: causes => message ++ causesText causes ++ ['\n']

namespace Failure

def text (failure : Failure) : Text :=
  let chain := failure.fault.chain
  let under := fun (message : Text) => "error: ".toList ++ report (message :: chain)
  match failure.activity with
  | .compiling pattern => under ("Failed to compile pattern '".toList ++ pattern ++ ['\''])
  | .loading => under "Failed to load configuration".toList
  | .resolving name => under ("Failed to resolve named pattern '".toList ++ name ++ ['\''])
  | .filling pattern => under ("Failed to substitute into '".toList ++ pattern ++ ['\''])
  | .discovering => under "Failed to discover config files".toList
  | .validating => "Configuration error: ".toList ++ report chain

end Failure
end Command
end PathPattern
