import Outline.Text.Digit
import Outline.Text.Quoted

set_option autoImplicit false

/-!
# Command line arguments

Options begin with a hyphen and may be shortened as long as they stay unambiguous; a value follows
its option or an equals sign. After `--` everything is an argument. At most one argument that
belongs to no option is accepted. All arguments are looked at before any of them is acted upon.
-/
namespace Outline.CommandLine

inductive OptionKind where
  | help
  | switch
  | text
  | integer
deriving Repr, DecidableEq

def OptionKind.takesValue : OptionKind → Bool
  | help | switch => false
  | text | integer => true

structure OptionSpec where
  names : List String
  kind : OptionKind
deriving Repr, DecidableEq

def OptionSpec.title (o : OptionSpec) : String := "/".intercalate o.names

/-- A program: its name, its options, whether it accepts an argument of its own, and the texts that
explain it. -/
structure Program where
  name : String
  options : List OptionSpec
  hasArgument : Bool
  usage : String
  help : String

namespace Program

def named (p : Program) : List (String × OptionSpec) :=
  p.options.flatMap fun o => o.names.map fun name => (name, o)

end Program

inductive UsageError where
  | ambiguous (text : String) (candidates : List String)
  | missingValue (option : OptionSpec)
  | unwantedValue (option : OptionSpec) (value : String)
  | notInteger (option : OptionSpec) (value : String)
  | unrecognized (texts : List String)
deriving Repr, DecidableEq

def UsageError.message : UsageError → String
  | ambiguous text candidates =>
    "ambiguous option: " ++ text ++ " could match " ++ ", ".intercalate candidates
  | missingValue option => "argument " ++ option.title ++ ": expected one argument"
  | unwantedValue option value =>
    "argument " ++ option.title ++ ": ignored explicit argument " ++ Text.quoted value
  | notInteger option value =>
    "argument " ++ option.title ++ ": invalid int value: " ++ Text.quoted value
  | unrecognized texts => "unrecognized arguments: " ++ " ".intercalate texts

/-- A value that is joined to its option, by an equals sign or directly. -/
structure Joined where
  value : String
  byEquals : Bool
deriving Repr, DecidableEq

inductive Mark where
  | plain
  | separator
  | option (name : String) (spec : OptionSpec) (joined : Option Joined)
  | unknown
deriving Repr, DecidableEq

def splitEquals (chars : List Char) : String × Option String :=
  let front := chars.takeWhile (· != '=')
  (String.ofList front,
    if front.length < chars.length then some (String.ofList (chars.drop (front.length + 1)))
    else none)

/-- Whether a text is written like a negative number. A line feed may follow it. -/
def isNegativeNumber (chars : List Char) : Bool :=
  let isDigit (c : Char) : Bool := Text.isDigit c.toNat
  match chars with
  | '-' :: rest =>
    let body := if rest.getLast? == some '\n' then rest.dropLast else rest
    let whole := body.takeWhile isDigit
    match body.drop whole.length with
    | [] => !whole.isEmpty
    | '.' :: fraction => !fraction.isEmpty && fraction.all isDigit
    | _ => false
  | _ => false

/-- The options that a text may be short for. With two hyphens it is the beginning of a name; with
one it is a name of one letter, and a value may be joined to it. -/
def candidates (p : Program) (text : String) : List (String × OptionSpec × Option Joined) :=
  let chars := text.toList
  match chars with
  | '-' :: '-' :: _ =>
    let (front, value) := splitEquals chars
    (p.named.filter fun o => front.toList.isPrefixOf o.1.toList).map fun (name, spec) =>
      (name, spec, value.map (⟨·, true⟩))
  | _ =>
    p.named.filterMap fun (name, spec) =>
      if name.toList == chars.take 2 then
        some (name, spec, some ⟨String.ofList (chars.drop 2), false⟩)
      else if chars.isPrefixOf name.toList then some (name, spec, none)
      else none

def markOf (p : Program) (text : String) : Except UsageError Mark :=
  let chars := text.toList
  if chars.head? != some '-' then .ok .plain
  else match p.named.lookup text with
    | some spec => .ok (.option text spec none)
    | none =>
      if chars.length = 1 then .ok .plain
      else
        let (front, value) := splitEquals chars
        match p.named.lookup front, value with
        | some spec, some value => .ok (.option front spec (some ⟨value, true⟩))
        | _, _ =>
          match candidates p text with
          | [(name, spec, joined)] => .ok (.option name spec joined)
          | [] =>
            if isNegativeNumber chars || chars.contains ' ' then .ok .plain else .ok .unknown
          | several => .error (.ambiguous text (several.map (·.1)))

def markAll (p : Program) : List String → Except UsageError (List (String × Mark))
  | [] => .ok []
  | text :: rest =>
    if text == "--" then .ok ((text, .separator) :: rest.map fun other => (other, .plain))
    else do
      let mark ← markOf p text
      let marks ← markAll p rest
      pure ((text, mark) :: marks)

/-- How far the argument of a program's own has been read. A separator may stand on either side of
it. -/
inductive OwnArgument where
  | open
  | afterSeparator
  | taken
  | closed
deriving Repr, DecidableEq

structure Reading where
  argument : Option String := none
  own : OwnArgument
  /-- The values given to options, the latest first. -/
  values : List (String × String) := []
  /-- What nobody takes, the latest first. -/
  extras : List String := []

namespace Reading

def settle (r : Reading) : Reading :=
  if r.own = .open then r else { r with own := .closed }

def plain (r : Reading) (text : String) : Reading :=
  match r.own with
  | .open | .afterSeparator => { r with argument := some text, own := .taken }
  | .taken | .closed => { r with own := .closed, extras := text :: r.extras }

def separator (r : Reading) : Reading :=
  match r.own with
  | .open => { r with own := .afterSeparator }
  | .afterSeparator | .taken => r
  | .closed => { r with extras := "--" :: r.extras }

def assign (r : Reading) (spec : OptionSpec) (value : String) : Except UsageError Reading :=
  if spec.kind = .integer && (Text.readInt? value).isNone then .error (.notInteger spec value)
  else .ok { r.settle with values := (spec.title, value) :: r.values }

end Reading

inductive Request where
  | help
  | run (reading : Reading)

/-- Follows the letters joined to an option that takes no value: they are further such options, up
to the first that is none. Gives the value that one of them does not want, if there is one. -/
def joinedSwitches (p : Program) (spec : OptionSpec) : Bool → List Char → Option UsageError
  | byEquals, chars =>
    match chars with
    | [] => some (.unwantedValue spec "")
    | c :: rest =>
      if byEquals || c == '-' then some (.unwantedValue spec (String.ofList chars))
      else match p.named.lookup (String.ofList ['-', c]), rest with
        | none, _ => none
        | some _, [] => none
        | some next, '=' :: value =>
          some (.unwantedValue next (String.ofList value))
        | some next, _ => joinedSwitches p next false rest

def switch (p : Program) (name : String) (spec : OptionSpec) (joined : Option Joined) :
    Option UsageError :=
  match joined with
  | none => none
  | some ⟨value, byEquals⟩ =>
    if name.toList.take 2 == ['-', '-'] then some (.unwantedValue spec value)
    else joinedSwitches p spec byEquals value.toList

def follow (p : Program) (r : Reading) : List (String × Mark) → Except UsageError Request
  | [] => if r.extras.isEmpty then .ok (.run r) else .error (.unrecognized r.extras.reverse)
  | (text, .plain) :: rest => follow p (r.plain text) rest
  | (_, .separator) :: rest => follow p r.separator rest
  | (text, .unknown) :: rest => follow p { r.settle with extras := text :: r.extras } rest
  | (_, .option name spec joined) :: rest =>
    if spec.kind.takesValue then
      match joined with
      | some ⟨value, _⟩ =>
        match r.assign spec value with
        | .error e => .error e
        | .ok r => follow p r rest
      | none =>
        match rest with
        | (value, .plain) :: after =>
          match r.assign spec value with
          | .error e => .error e
          | .ok r => follow p r after
        | _ => .error (.missingValue spec)
    else
      match switch p name spec joined with
      | some e => .error e
      | none =>
        if spec.kind = .help then .ok .help
        else follow p { r.settle with values := (spec.title, "") :: r.values } rest

def readArguments (p : Program) (texts : List String) : Except UsageError Request := do
  let marks ← markAll p texts
  follow p { own := if p.hasArgument then .open else .closed } marks

def Program.complaint (p : Program) (e : UsageError) : String :=
  p.usage ++ p.name ++ ": error: " ++ e.message ++ "\n"

end Outline.CommandLine
