import TestCensus.Shell.State

/-!
# Options of a shell

Options are letters behind a dash, or names behind `-o`.  Behind a plus sign they
are turned off again.  Only two of them change what a script does here: `e` ends
it at a failure and `u` at a parameter that is not set.
-/

namespace TestCensus.Shell

/-- The options that a shell was given. -/
structure ShellOptions where
  /-- The letters that were turned on. -/
  on : List Char := []
  /-- The letters that were turned off. -/
  off : List Char := []
  /-- The options were ended by two dashes. -/
  ended : Bool := false

/-- The letters of options that a shell knows. -/
def optionLetters : List Char := "abcefmnuvxC".toList

/-- The letters of options that have names. -/
def optionNames : List (String × Char) :=
  [("errexit", 'e'), ("nounset", 'u'), ("noglob", 'f'), ("xtrace", 'x'), ("verbose", 'v'),
    ("noexec", 'n'), ("allexport", 'a'), ("notify", 'b'), ("monitor", 'm'), ("noclobber", 'C')]

/-- The options of a shell and what follows them, or an option that it does not
know. -/
def readOptions (o : ShellOptions) : List String → Except String (ShellOptions × List String)
  | [] => .ok (o, [])
  | "--" :: rest => .ok ({ o with ended := true }, rest)
  | "-o" :: name :: rest =>
      match optionNames.lookup name with
      | some c => readOptions { o with on := c :: o.on } rest
      | none => .error ("-o " ++ name)
  | "+o" :: name :: rest =>
      match optionNames.lookup name with
      | some c => readOptions { o with off := c :: o.off } rest
      | none => .error ("+o " ++ name)
  | a :: rest =>
      match a.toList with
      | '-' :: c :: cs =>
          match (c :: cs).find? fun d => !optionLetters.contains d with
          | some 'o' => .error ("-o " ++ rest.head?.getD "")
          | some d => .error ("-" ++ d.toString)
          | none => readOptions { o with on := c :: cs ++ o.on } rest
      | '+' :: c :: cs => readOptions { o with off := c :: cs ++ o.off } rest
      | _ => .ok (o, a :: rest)

/-- The state with options turned on and off. -/
def State.withOptions (s : State) (o : ShellOptions) : State :=
  { s with
    stopsAtFailure := (s.stopsAtFailure || o.on.contains 'e') && !o.off.contains 'e'
    stopsAtMissing := (s.stopsAtMissing || o.on.contains 'u') && !o.off.contains 'u' }

end TestCensus.Shell
