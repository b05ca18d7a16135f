import Backlog.Task.Id
import Backlog.Text.Decimal
/-!
# Labels for generated identifiers

Generated identifiers are shown as `@0`, `@1` and so on, in the order in which they became known.
A label inside a text stands for its identifier, and an identifier inside a text is shown as its
label. A label of no identifier stays as it is.
-/

namespace Backlog.Simulation

open Text

/-- Generated identifiers in the order in which they became known. -/
abbrev Labels := List TaskId

namespace Labels

/-- A piece of text that followed an `@`. -/
def expandPiece (labels : Labels) (piece : String) : String :=
  let cs := piece.toList
  let ds := cs.takeWhile isDigit
  match (natural? ds).bind fun n => labels[n]? with
  | some id => id.text ++ String.ofList (cs.drop ds.length)
  | none => "@" ++ piece

/-- A text with its labels replaced by identifiers. -/
def expand (labels : Labels) (s : String) : String :=
  match s.splitOn "@" with
  | [] => s
  | piece :: pieces => piece ++ String.join (pieces.map (expandPiece labels))

/-- A text with its identifiers replaced by labels. -/
def shorten (labels : Labels) (s : String) : String :=
  if s.length < 36 then s
  else (labels.zipIdx).foldl (fun s (id, n) => s.replace id.text ("@" ++ decimalText n)) s

end Labels

end Backlog.Simulation
