import TestCensus.Text.Quoted
import TestCensus.Source.Reading

/-!
# Failures

Each part of a census has its own causes of failure, and each cause has one
message.  A failure also has a code, by which programs recognize it.  A fatal
failure is printed with its code in brackets before the message (`tagged`).

Failures of single files and of collection queries do not end a census; they
become warnings.  Those that do end it are gathered in `CensusFailure`.
-/

namespace TestCensus

open TestCensus.Text

/-- A code in brackets before a message. -/
def tagged (code message : String) : String := "[" ++ code ++ "] " ++ message

/-! ## Locating files -/

/-- Why the test files cannot be located. -/
inductive ScanFailure where
  /-- The system cannot read a directory. -/
  | io (path message : String)
  /-- The system does not permit reading a directory. -/
  | permissionDenied (path : String)
  /-- A pattern of the exclude list is no pattern. -/
  | invalidPattern (pattern message : String)
  /-- The workers cannot be started. -/
  | workerPool (message : String)
  /-- The census was cancelled. -/
  | cancelled
deriving DecidableEq, Repr

namespace ScanFailure

/-- The message of a failure. -/
def message : ScanFailure → String
  | io path message => "IO error scanning " ++ path ++ ": " ++ message
  | permissionDenied path => "Permission denied: " ++ path
  | invalidPattern pattern message =>
      "Invalid exclude pattern " ++ quoted pattern ++ ": " ++ message
  | workerPool message => "Failed to build worker pool: " ++ message
  | cancelled => "Scan cancelled"

/-- The code of a failure. -/
def code : ScanFailure → String
  | permissionDenied _ => "PERMISSION_DENIED"
  | cancelled => "CANCELLED"
  | _ => "SCAN_ERROR"

end ScanFailure

/-! ## Settings -/

/-- Why there are no settings. -/
inductive SettingsFailure where
  /-- The file is not there or cannot be read. -/
  | fileNotFound (path : String)
  /-- The text is not that of settings. -/
  | parse (path message : String)
  /-- A value is not allowed. -/
  | validation (field message : String)
  /-- A variable of the environment does not hold a value. -/
  | invalidValue (field message : String)
deriving DecidableEq, Repr

namespace SettingsFailure

/-- The message of a failure. -/
def message : SettingsFailure → String
  | fileNotFound path => "Config file not found: " ++ path
  | parse path message => "Config parse error in " ++ path ++ ": " ++ message
  | validation field message => "Config validation failed for " ++ field ++ ": " ++ message
  | invalidValue field message => "Invalid config value for " ++ field ++ ": " ++ message

/-- The code of a failure. -/
def code (_ : SettingsFailure) : String := "CONFIG_ERROR"

end SettingsFailure

/-! ## Reports -/

/-- Why there is no report. -/
inductive ReportFailure where
  /-- The report cannot be written in its format. -/
  | serialization (format message : String)
  /-- There is no such format. -/
  | unknownFormat (format : String)
deriving DecidableEq, Repr

namespace ReportFailure

/-- The message of a failure. -/
def message : ReportFailure → String
  | serialization format message => "failed to serialize " ++ format ++ " report: " ++ message
  | unknownFormat format => "unknown report format: " ++ format

/-- The code of a failure. -/
def code (_ : ReportFailure) : String := "REPORT_ERROR"

end ReportFailure

/-! ## Collection queries -/

/-- Why a collection query has no answer. -/
inductive CollectFailure where
  /-- The program cannot be started. -/
  | spawn (program message : String)
  /-- The program ended with a status that is not one of an answer. -/
  | exitStatus (code : Int) (stderr : String)
  /-- The program did not end in time. -/
  | timeout (seconds : Nat)
  /-- A signal ended the program. -/
  | terminated
  /-- The program cannot be watched. -/
  | io (message : String)
  /-- No program is named. -/
  | emptyCommand
deriving DecidableEq, Repr

namespace CollectFailure

/-- The message of a failure. -/
def message : CollectFailure → String
  | spawn program message => "failed to spawn " ++ program ++ ": " ++ message
  | exitStatus code stderr =>
      "collection exited with status " ++ toString code ++ ": " ++ stderr
  | timeout seconds => "collection timed out after " ++ toString seconds ++ "s"
  | terminated => "collection process was terminated by a signal"
  | io message => "oracle IO error: " ++ message
  | emptyCommand => "oracle command is empty"

/-- The code of a failure. -/
def code : CollectFailure → String
  | timeout _ => "ORACLE_TIMEOUT"
  | _ => "ORACLE_ERROR"

end CollectFailure

/-! ## Reading files -/

/-- Why a test file has no tests. -/
inductive FileFailure where
  /-- The grammar of the language cannot be used. -/
  | grammarUnavailable (message : String)
  /-- The system cannot read the file. -/
  | unreadable (path message : String)
  /-- The source cannot be read. -/
  | malformed (path : String) (failure : Source.SyntaxFailure)
  /-- Reading gave no tree. -/
  | noTree (path : String)
deriving DecidableEq, Repr

namespace FileFailure

/-- The message of a failure. -/
def message : FileFailure → String
  | grammarUnavailable message => "Python grammar unavailable: " ++ message
  | unreadable path message => path ++ " is unreadable: " ++ message
  | malformed _ f =>
      "syntax error at line " ++ toString f.line ++ ", column " ++ toString f.column ++
        " (" ++ toString f.count ++ " error node(s))"
  | noTree path => "tree-sitter produced no tree for " ++ path

/-- The code of a failure. -/
def code (_ : FileFailure) : String := "PARSE_ERROR"

end FileFailure

/-! ## Ending a census -/

/-- Why a census has no result. -/
inductive CensusFailure where
  /-- The test files cannot be located. -/
  | scan (failure : ScanFailure)
  /-- There are no settings. -/
  | settings (failure : SettingsFailure)
  /-- There is no report. -/
  | report (failure : ReportFailure)
  /-- The census was cancelled. -/
  | cancelled
deriving DecidableEq, Repr

namespace CensusFailure

/-- The message of a failure. -/
def message : CensusFailure → String
  | scan failure => "Scan error: " ++ failure.message
  | settings failure => "Configuration error: " ++ failure.message
  | report failure => "Report error: " ++ failure.message
  | cancelled => "Audit cancelled"

/-- The code of a failure. -/
def code : CensusFailure → String
  | scan failure => failure.code
  | settings failure => failure.code
  | report failure => failure.code
  | cancelled => "CANCELLED"

end CensusFailure

end TestCensus
