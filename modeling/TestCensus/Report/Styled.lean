/-!
# Styled texts

A styled text consists of pieces, some of which are painted.  On a terminal a
painted piece stands between the sequence that starts its style and the sequence
that ends it; elsewhere only the pieces are written.
-/

namespace TestCensus.Report

/-- A piece of a styled text. -/
inductive Piece where
  /-- A piece without a style. -/
  | plain (text : String)
  /-- A piece in the style of the given code. -/
  | painted (code text : String)
deriving DecidableEq, Repr

/-- The sequence that starts the style of a code. -/
def styleStart (code : String) : String := "\x1b[" ++ code ++ "m"

/-- The sequence that ends a style. -/
def styleEnd : String := "\x1b[0m"

/-- A piece as written, with its style or without. -/
def Piece.render (color : Bool) : Piece → String
  | plain text => text
  | painted code text => if color then styleStart code ++ text ++ styleEnd else text

/-- A styled text as written, with its styles or without. -/
def renderPieces (color : Bool) (pieces : List Piece) : String :=
  String.join (pieces.map (Piece.render color))

end TestCensus.Report
