import Outline.Text.Quoted

set_option autoImplicit false

/-!
# Thresholds of the log

A threshold is chosen by name, in any case. A name that means nothing chooses the usual threshold;
one name belongs to the format of notes and is refused.
-/
namespace Outline.CommandLine

def defaultThreshold : Nat := 20

/-- The capital of a letter, where that is an ASCII letter. Two letters outside ASCII have such a
capital too. -/
def asciiCapital (c : Char) : Char :=
  if c == 'ı' then 'I' else if c == 'ſ' then 'S' else c.toUpper

def thresholds : List (String × Nat) :=
  [("CRITICAL", 50), ("FATAL", 50), ("ERROR", 40), ("WARNING", 30), ("WARN", 30), ("INFO", 20),
    ("DEBUG", 10), ("NOTSET", 0)]

def noteFormat : String × String := ("BASIC_FORMAT", "%(levelname)s:%(name)s:%(message)s")

inductive ThresholdError where
  | format (text : String)
deriving Repr, DecidableEq

def ThresholdError.message : ThresholdError → String
  | format text => "Unknown level: " ++ Text.quoted text

def threshold (name : String) : Except ThresholdError Nat :=
  let capitals := String.ofList (name.toList.map asciiCapital)
  if capitals == noteFormat.1 then .error (.format noteFormat.2)
  else .ok ((thresholds.lookup capitals).getD defaultThreshold)

end Outline.CommandLine
