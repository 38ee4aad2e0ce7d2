/-!
# Shell scripts

Collectors are often small scripts around another program.  A script is a command,
and commands are made of words.  A word is a list of parts: text, and places where
something else is put in.  What is put in between quotes is kept together; what is
put in without quotes is split at blanks.

The modules of `Shell` stand apart from the census.  They play the part of a system
and its programs, of which the census knows no more than a `Collect.Launcher`: what
is said of the census is said for all launchers, and only the command line uses this
one.
-/

namespace TestCensus.Shell

/-- What is done with the value of a parameter before it is put in.  Where nothing
else is said, this is about a parameter that is missing, and with `ifEmpty` also
about one that is empty. -/
inductive Adjustment where
  /-- The word stands in its place. -/
  | default (ifEmpty : Bool)
  /-- The parameter is set to the word first. -/
  | assigned (ifEmpty : Bool)
  /-- The script ends, and the word says why. -/
  | demanded (ifEmpty : Bool)
  /-- The word stands in the place of a parameter that is there. -/
  | replaced (ifEmpty : Bool)
  /-- The shortest or longest end that matches the word is cut off. -/
  | withoutEnd (longest : Bool)
  /-- The shortest or longest beginning that matches the word is cut off. -/
  | withoutStart (longest : Bool)
  /-- There is no such adjustment. -/
  | unknown
deriving DecidableEq

mutual

/-- A part of a word. -/
inductive Part where
  /-- Text; between quotes it stands for itself in patterns too. -/
  | text (isQuoted : Bool) (cs : List Char)
  /-- The value of a parameter. -/
  | parameter (isQuoted : Bool) (name : String)
  /-- The value of a parameter that is adjusted with a word. -/
  | adjusted (isQuoted : Bool) (name : String) (adjustment : Adjustment) (word : List Part)
  /-- The length of the value of a parameter. -/
  | size (isQuoted : Bool) (name : String)
  /-- The value of a sum, which is itself a word. -/
  | sum (isQuoted : Bool) (expression : List Part)
  /-- The output of a command. -/
  | output (isQuoted : Bool) (body : Command)

/-- What a redirection does. -/
inductive Redirection where
  /-- The channel goes where another channel goes. -/
  | toChannel (channel other : Nat)
  /-- The channel is closed. -/
  | closed (channel : Nat)
  /-- The channel is written to a file, which is emptied before or not. -/
  | toFile (channel : Nat) (keeps : Bool) (path : List Part)
  /-- The input is read from a file. -/
  | fromFile (path : List Part)
  /-- The input is a text. -/
  | fromText (text : List Part)

/-- A command. -/
inductive Command where
  /-- Assignments and a program with its arguments.  `linesLeft` line ends follow
  the place where the command starts in the script. -/
  | simple (linesLeft : Nat) (assignments : List (String × List Part)) (words : List (List Part))
      (redirections : List Redirection)
  /-- Nothing. -/
  | nothing
  /-- One command after the other. -/
  | sequence (first second : Command)
  /-- A command that is not waited for. -/
  | background (body : Command)
  /-- The second command if the first one succeeds. -/
  | andThen (first second : Command)
  /-- The second command if the first one fails. -/
  | orElse (first second : Command)
  /-- Success and failure exchanged. -/
  | negation (body : Command)
  /-- The output of the first command is the input of the second. -/
  | pipeline (first second : Command)
  /-- A command in braces. -/
  | group (body : Command) (redirections : List Redirection)
  /-- A command in parentheses, which keeps what it changes to itself. -/
  | subshell (body : Command) (redirections : List Redirection)
  /-- A choice. -/
  | branch (condition whenTrue whenFalse : Command)
  /-- A loop as long as the condition succeeds, or fails. -/
  | loop (untilSuccess : Bool) (condition body : Command)
  /-- A loop over words, or over the arguments of the script. -/
  | each (name : String) (words : Option (List (List Part))) (body : Command)
  /-- A choice by patterns. -/
  | choice (word : List Part) (cases : List (List (List Part) × Command))
  /-- A command gets a name, by which it runs from then on. -/
  | named (name : String) (body : Command)

end

/-- A word. -/
abbrev Word := List Part

end TestCensus.Shell
