import Backlog.Logging.Level
import Backlog.Text.Blank
import Backlog.Text.Decimal
/-!
# Which log lines are written

A filter is a list of directives, separated by commas. A directive sets how much detail is written:
for every source of events, or for those whose name begins with a given one. The directive with the
longest name that fits decides, and of two with one name the later; a source that none fits is
silent. A name alone asks for every detail.

Detail is a level, in any letter case, or `off`, or one of the numbers 0 to 5. A list with one
directive that cannot be read is no filter. The empty list lets errors through.
-/

namespace Backlog

/-- How much detail is written for some sources. -/
structure LogDirective where
  /-- The beginning of the sources' names; every source if none. -/
  source : Option String
  /-- The detail of the most detailed level that is written; 0 for none. -/
  detail : Nat
  deriving DecidableEq, Repr

/-- Which log lines are written. -/
abbrev LogFilter := List LogDirective

namespace LogDirective

open Text

/-- The greatest detail. -/
def everything : Nat := LogLevel.detail .trace

/-- The detail a word asks for. -/
def detail? (word : String) : Option Nat :=
  match unsigned? word.toList with
  | some n => if n ≤ everything then some n else none
  | none =>
    if word.map Char.toUpper == "OFF" then some 0 else (LogLevel.ofName? word).map LogLevel.detail

/-- Whether a directive may begin with a character. -/
def canBegin (c : Char) : Bool := c.isAlphanum || c == '-' || c == ':' || c == '_' || 0x80 ≤ c.toNat

/-- The directive a text denotes: a detail, a name, or a name, `=` and a detail, which may be left
out. -/
def read? (text : String) : Option LogDirective :=
  let cs := trimChars text.toList
  if cs.head?.any canBegin then
    let name := String.ofList (cs.takeWhile fun c => c != '=')
    match cs.dropWhile fun c => c != '=' with
    | [] =>
      match detail? name with
      | some d => some ⟨none, d⟩
      | none => some ⟨some name, everything⟩
    | [_] => some ⟨some name, everything⟩
    | _ :: word => (detail? (String.ofList word)).map fun d => ⟨some name, d⟩
  else none

/-- Whether a directive is about a source. -/
def fits (d : LogDirective) (source : String) : Bool :=
  d.source.all fun s => source.startsWith s

/-- How exactly a directive names its sources. -/
def exactness (d : LogDirective) : Nat :=
  match d.source with
  | none => 0
  | some s => s.utf8ByteSize + 1

end LogDirective

namespace LogFilter

/-- The filter that lets a level and everything graver through. -/
def upTo (l : LogLevel) : LogFilter := [⟨none, l.detail⟩]

/-- The filter a text denotes. -/
def read? (text : String) : Option LogFilter := do
  let ds ← ((text.splitOn ",").filter fun item => !item.isEmpty).mapM LogDirective.read?
  some (if ds.isEmpty then upTo .error else ds)

/-- The filter a setting asks for; without a filter everything but debugging is written. -/
def ofSetting (value : Option String) : LogFilter := (value.bind read?).getD (upTo .info)

/-- The directive that decides for a source. -/
def deciding? (f : LogFilter) (source : String) : Option LogDirective :=
  f.foldl
    (fun best d =>
      if d.fits source && best.all fun b => b.exactness ≤ d.exactness then some d else best)
    none

/-- Whether an event of a source is written. -/
def lets (f : LogFilter) (source : String) (l : LogLevel) : Bool :=
  (f.deciding? source).any fun d => l.detail ≤ d.detail

end LogFilter

end Backlog
