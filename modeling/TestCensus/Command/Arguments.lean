import TestCensus.Number.Numeral
import TestCensus.Report.Format
import TestCensus.Settings.Layers

/-!
# Arguments

The arguments of a command are read from the left.  Each of them is a switch, or
an option, which takes a value.

* After two dashes stands a long name.  The value of an option stands behind an
  equals sign, or it is the next argument.
* After one dash stand short names.  What follows the name of an option is its
  value, with an equals sign before it or without one; if nothing follows, the
  value is the next argument.
* A value that is an argument of its own must not begin with a dash, unless it is
  that dash.

All other arguments are refused.  Only the verbosity and the test directories may
be given more than once.  Reading stops at the first argument that is refused, or
that asks for help or for the version.
-/

namespace TestCensus.Command

open TestCensus.Number TestCensus.Text

/-! ## Names -/

/-- A switch or an option. -/
inductive Name where
  /-- The report is for programs. -/
  | json
  /-- The report is a document. -/
  | markdown
  /-- A suite with problems has an exit status of its own. -/
  | strict
  /-- The file that the report goes to. -/
  | output
  /-- The project. -/
  | root
  /-- A directory with tests. -/
  | testDir
  /-- The collector is not asked. -/
  | noCollector
  /-- The seconds that a query may take. -/
  | collectTimeout
  /-- The number of workers. -/
  | threads
  /-- The file with the settings. -/
  | config
  /-- More is logged. -/
  | verbose
  /-- Asks for help. -/
  | help
  /-- Asks for the version. -/
  | version
deriving DecidableEq, Repr

namespace Name

/-- All names. -/
def all : List Name :=
  [json, markdown, strict, output, root, testDir, noCollector, collectTimeout, threads, config,
    verbose, help, version]

/-- The long name, as written after two dashes. -/
def long : Name → String
  | json => "json"
  | markdown => "markdown"
  | strict => "strict"
  | output => "output"
  | root => "root"
  | testDir => "test-dir"
  | noCollector => "no-oracle"
  | collectTimeout => "oracle-timeout"
  | threads => "threads"
  | config => "config"
  | verbose => "verbose"
  | help => "help"
  | version => "version"

/-- The short name, as written after one dash. -/
def short? : Name → Option Char
  | output => some 'o'
  | config => some 'c'
  | verbose => some 'v'
  | help => some 'h'
  | version => some 'V'
  | _ => none

/-- It is an option, which takes a value. -/
def isOption : Name → Bool
  | output | root | testDir | collectTimeout | threads | config => true
  | _ => false

/-- The name with a long form. -/
def ofLong? (cs : List Char) : Option Name := all.find? (·.long == String.ofList cs)

/-- The name with a short form. -/
def ofShort? (c : Char) : Option Name := all.find? (·.short? == some c)

end Name

/-! ## Arguments -/

/-- What the arguments ask for. -/
structure Arguments where
  /-- The report is for programs. -/
  json : Bool := false
  /-- The report is a document. -/
  markdown : Bool := false
  /-- A suite with problems has an exit status of its own. -/
  strict : Bool := false
  /-- The collector is not asked. -/
  noCollector : Bool := false
  /-- The file that the report goes to. -/
  output : Option String := none
  /-- The project. -/
  root : Option String := none
  /-- The directories with tests. -/
  testDirs : List String := []
  /-- The seconds that a query may take. -/
  collectTimeout : Option Nat := none
  /-- The number of workers. -/
  threads : Option Nat := none
  /-- The file with the settings. -/
  config : Option String := none
  /-- How often more logging was asked for. -/
  verbosity : Nat := 0
deriving DecidableEq, Repr

/-- Why the reading of arguments stops. -/
inductive Stop where
  /-- An argument is refused. -/
  | refused
  /-- Help is asked for. -/
  | help
  /-- The version is asked for. -/
  | version
deriving DecidableEq, Repr

/-- A value that is given for the first time. -/
def once (old : Option α) (new : α) : Except Stop (Option α) :=
  match old with
  | none => .ok (some new)
  | some _ => .error .refused

/-- A switch that is turned for the first time. -/
def onceTurned (old : Bool) : Except Stop Bool := if old then .error .refused else .ok true

/-- A path, which is not empty. -/
def readPath (value : String) : Except Stop String :=
  if value.isEmpty then .error .refused else .ok value

/-- A number. -/
def readNumber (value : String) : Except Stop Nat :=
  (readNumeral value.toList).mapError fun _ => .refused

namespace Arguments

/-- The arguments with a switch turned.  An option without a value is refused. -/
def turn (a : Arguments) : Name → Except Stop Arguments
  | .json => do return { a with json := ← onceTurned a.json }
  | .markdown => do return { a with markdown := ← onceTurned a.markdown }
  | .strict => do return { a with strict := ← onceTurned a.strict }
  | .noCollector => do return { a with noCollector := ← onceTurned a.noCollector }
  | .verbose => .ok { a with verbosity := a.verbosity + 1 }
  | .help => .error .help
  | .version => .error .version
  | _ => .error .refused

/-- The arguments with the value of an option.  A switch with a value is refused. -/
def give (a : Arguments) (value : String) : Name → Except Stop Arguments
  | .output => do return { a with output := ← once a.output (← readPath value) }
  | .root => do return { a with root := ← once a.root (← readPath value) }
  | .config => do return { a with config := ← once a.config (← readPath value) }
  | .testDir => .ok { a with testDirs := a.testDirs ++ [value] }
  | .collectTimeout => do
      return { a with collectTimeout := ← once a.collectTimeout (← readNumber value) }
  | .threads => do return { a with threads := ← once a.threads (← readNumber value) }
  | _ => .error .refused

/-- The arguments with short names, up to an option whose value is still missing. -/
def takeShort (a : Arguments) : List Char → Except Stop (Arguments × Option Name)
  | [] => .ok (a, none)
  | c :: rest =>
      match Name.ofShort? c with
      | none => .error .refused
      | some name =>
          if name.isOption then
            match rest with
            | [] => .ok (a, some name)
            | '=' :: value => do return (← a.give (String.ofList value) name, none)
            | value => do return (← a.give (String.ofList value) name, none)
          else do (← a.turn name).takeShort rest

/-- The arguments with a long name, unless it is an option whose value is still
missing. -/
def takeLong (a : Arguments) (cs : List Char) : Except Stop (Arguments × Option Name) :=
  match Name.ofLong? (cs.takeWhile (· != '=')), cs.dropWhile (· != '=') with
  | none, _ => .error .refused
  | some name, _ :: value => do return (← a.give (String.ofList value) name, none)
  | some name, [] => if name.isOption then .ok (a, some name) else do return (← a.turn name, none)

/-- An argument that can be the value of the option before it. -/
def isValue (argument : String) : Bool :=
  argument == "-" || argument.toList.head? != some '-'

/-- Takes one argument; what is missing is the option whose value comes next. -/
def take (a : Arguments) (argument : String) : Except Stop (Arguments × Option Name) :=
  match argument.toList with
  | '-' :: '-' :: long => a.takeLong long
  | '-' :: c :: short => a.takeShort (c :: short)
  | _ => .error .refused

/-- Takes arguments after those before them, with the option whose value is still
missing. -/
def takeAll : Arguments × Option Name → List String → Except Stop Arguments
  | (a, none), [] => .ok a
  | (_, some _), [] => .error .refused
  | (a, none), argument :: rest =>
      if argument = "--" then (if rest.isEmpty then .ok a else .error .refused)
      else do takeAll (← a.take argument) rest
  | (a, some name), argument :: rest =>
      if isValue argument then do takeAll (← a.give argument name, none) rest
      else .error .refused

/-- Reads arguments.  A report has one format only. -/
def read (arguments : List String) : Except Stop Arguments := do
  let a ← takeAll ({}, none) arguments
  if a.json && a.markdown then .error .refused else return a

/-- The format of the report. -/
def format (a : Arguments) : Report.Format :=
  if a.json then .json else if a.markdown then .markdown else .console

/-- What the arguments set. -/
def overrides (a : Arguments) : Overrides :=
  { testDirs := if a.testDirs.isEmpty then none else some a.testDirs
    threads := a.threads
    collectEnabled := if a.noCollector then some false else none
    collectTimeout := a.collectTimeout }

end Arguments

end TestCensus.Command
