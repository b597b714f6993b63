/-!
Arguments of the command line. Options may be written long or short, a value may be joined to its
option or follow it, short options may be joined to one another, and behind a double dash nothing
is an option. Arguments are read from left to right, and the first that ends the reading decides.
-/

namespace ObjectMapping

inductive PlanFormat where
  | json
  | summary
deriving DecidableEq, Repr

def PlanFormat.ofName? (name : String) : Option PlanFormat :=
  [("json", json), ("summary", summary)].lookup name

namespace CommandLine

inductive OptionName where
  | verbose
  | noColor
  | help
  | version
  | assignment
  | format
  | output
  | manifest
deriving DecidableEq, Repr

namespace OptionName

def long : OptionName → String
  | verbose => "verbose"
  | noColor => "no-color"
  | help => "help"
  | version => "version"
  | assignment => "option"
  | format => "format"
  | output => "output"
  | manifest => "manifest"

def short? : OptionName → Option Char
  | verbose => some 'v'
  | noColor => none
  | help => some 'h'
  | version => some 'V'
  | assignment => some 'O'
  | format => some 'f'
  | output => some 'o'
  | manifest => some 'm'

def takesValue : OptionName → Bool
  | assignment | format | output | manifest => true
  | _ => false

def isRepeatable : OptionName → Bool
  | assignment => true
  | _ => false

def admits : OptionName → String → Bool
  | format, value => (PlanFormat.ofName? value).isSome
  | _, _ => true

def general : List OptionName :=
  [verbose, noColor, help, version]

end OptionName

inductive Stop where
  | rejected
  | help
  | version
deriving DecidableEq, Repr

structure Given where
  options : List (OptionName × String) := []
  plain : List String := []

namespace Given

def value? (g : Given) (o : OptionName) : Option String :=
  g.options.lookup o

def values (g : Given) (o : OptionName) : List String :=
  (g.options.filter (·.1 = o)).map (·.2)

/-- Takes an option. One without a value is given the empty text. -/
def add (g : Given) (o : OptionName) (value : String) : Except Stop Given :=
  match o with
  -- these end the reading at once, whatever comes behind them
  | .help => .error .help
  | .version => .error .version
  | o =>
    if (!o.isRepeatable && (g.value? o).isSome) || !o.admits value then .error .rejected
    else .ok { g with options := g.options ++ [(o, value)] }

def addPlain (room : Nat) (g : Given) (text : String) : Except Stop Given :=
  if g.plain.length < room then .ok { g with plain := g.plain ++ [text] } else .error .rejected

/-- Takes a long option. If its value is still to come, the option is returned. -/
def addLong (known : List OptionName) (g : Given) (name : String) (value : Option String) :
    Except Stop (Given × Option OptionName) :=
  match known.find? (·.long = name), value with
  | none, _ => .error .rejected
  | some o, some value => if o.takesValue then (·, none) <$> g.add o value else .error .rejected
  | some o, none => if o.takesValue then .ok (g, some o) else (·, none) <$> g.add o ""

/-- Takes short options joined to one another. If the value of the last is still to come, that
option is returned. -/
def addShort (known : List OptionName) (g : Given) :
    List Char → Except Stop (Given × Option OptionName)
  | [] => .ok (g, none)
  | c :: rest =>
    match known.find? (·.short? = some c) with
    | none => .error .rejected
    | some o =>
      if o.takesValue then
        match rest with
        | [] => .ok (g, some o)
        -- an equals sign between the letter and the value is not part of the value
        | '=' :: value => (·, none) <$> g.add o (String.ofList value)
        | value => (·, none) <$> g.add o (String.ofList value)
      else do addShort known (← g.add o "") rest

end Given

inductive Argument where
  | escape
  | long (name : String) (value : Option String)
  | short (letters : List Char)
  | plain (text : String)

def Argument.ofText (text : String) : Argument :=
  match text.toList with
  | ['-', '-'] => .escape
  | '-' :: '-' :: chars =>
    .long (String.ofList (chars.takeWhile (· != '=')))
      (match chars.dropWhile (· != '=') with
        | _ :: value => some (String.ofList value)
        | [] => none)
  -- a single dash is no option
  | '-' :: c :: chars => .short (c :: chars)
  | _ => .plain text

def Argument.isPlain : Argument → Bool
  | plain _ => true
  | _ => false

def Given.addOption (known : List OptionName) (g : Given) :
    Argument → Except Stop (Given × Option OptionName)
  | .long name value => g.addLong known name value
  | .short letters => g.addShort known letters
  | _ => .error .rejected

/-- Reads arguments: the options known, and as many plain arguments as there is room for. Without
any room the reading goes up to the first plain argument, and the rest is returned. -/
def scan (known : List OptionName) (room : Option Nat) (g : Given) :
    List String → Except Stop (Given × List String)
  | [] => .ok (g, [])
  | arg :: rest =>
    match Argument.ofText arg, room with
    | .plain text, some n => do scan known room (← g.addPlain n text) rest
    -- the command begins here, and its arguments are read by other options
    | .plain _, none => .ok (g, arg :: rest)
    -- nothing behind a double dash is an option
    | .escape, some n => (·, []) <$> rest.foldlM (Given.addPlain n) g
    | option, _ => do
      let (g, pending) ← g.addOption known option
      match pending, rest with
      | none, rest => scan known room g rest
      | some o, value :: rest =>
        -- what looks like an option is no value
        if (Argument.ofText value).isPlain then scan known room (← g.add o value) rest
        else .error .rejected
      | some _, [] => .error .rejected

inductive Invocation where
  | plan (manifest : String) (assignments : List String) (format : PlanFormat)
      (output : Option String)
  | converters (manifest : Option String)
  | version (program : String)
  | help
deriving DecidableEq, Repr

namespace Invocation

def ofResult {α : Type} (program : String) (make : α → Option Invocation) :
    Except Stop α → Option Invocation
  | .ok a => make a
  | .error .rejected => none
  | .error .help => some .help
  | .error .version => some (.version program)

def planOf (manifestVariable : Option String) (g : Given) : Option Invocation := do
  let manifest ← g.plain.head? <|> manifestVariable
  let format := (g.value? .format).bind PlanFormat.ofName?
  return .plan manifest (g.values .assignment) (format.getD .json) (g.value? .output)

def ofCommand (manifestVariable : Option String) : List String → Option Invocation
  | "plan" :: args =>
    ofResult "mapgen-plan" (fun r => planOf manifestVariable r.1)
      (scan (.assignment :: .format :: .output :: OptionName.general) (some 1) {} args)
  | "converters" :: args =>
    ofResult "mapgen-converters" (fun r => some (.converters (r.1.value? .manifest)))
      (scan (.manifest :: OptionName.general) (some 0) {} args)
  | ["help"] | ["help", "plan"] | ["help", "converters"] | ["help", "help"] => some .help
  | _ => none

def ofArguments (args : List String) (manifestVariable : Option String) : Option Invocation :=
  ofResult "mapgen" (fun r => ofCommand manifestVariable r.2) (scan OptionName.general none {} args)

end Invocation

end CommandLine

end ObjectMapping
