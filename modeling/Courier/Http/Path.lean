import Courier.Text.Split

/-
  Paths of requests, and patterns for them.

  In a pattern a colon opens a blank for the rest of a
  segment, and a segment that starts with a star is a blank
  for all that is left.  No blank may be left empty.

  Key definitions include:
    * `Path.ofTarget`
    * `Path.queryOfTarget`
    * `Path.fits`
-/

------------------------------------------------------------
-- Targets
------------------------------------------------------------

namespace Courier

namespace Path

/- A target without what is meant for the client only. -/
def shown
    (target : String) : List Char :=
  target.toList.takeWhile (· != '#')

/-
  What follows the host in a target that names one.  The
  host ends where a path or a query begins.
-/
def afterHost
    (chars : List Char) : List Char :=
  match chars.dropWhile (· != ':') with
  | ':' :: '/' :: '/' :: rest =>
      rest.dropWhile fun c => c != '/' && c != '?'
  | _ => chars

/- A target from its path on. -/
def fromPath
    (target : String) : List Char :=
  let chars := shown target
  if chars.head? = some '/' then chars else afterHost chars

/- The path of a target. -/
def ofTarget
    (target : String) : List Char :=
  let path := (fromPath target).takeWhile (· != '?')
  if path.isEmpty then ['/'] else path

/- The query of a target, or nothing. -/
def queryOfTarget
    (target : String) : List Char :=
  ((Split.cut? '?' (fromPath target)).map Prod.snd).getD []

end Path

end Courier

------------------------------------------------------------
-- Patterns
------------------------------------------------------------

namespace Courier

namespace Path

/- A segment is what a segment of a pattern says. -/
def segmentFits
    (pattern segment : List Char) : Bool :=
  match Split.cut? ':' pattern with
  | none => pattern == segment
  | some (before, _) =>
      before.isPrefixOf segment &&
        before.length < segment.length

/- Segments are what the segments of a pattern say. -/
def segmentsFit :
    List (List Char) → List (List Char) → Bool
  | [], [] => true
  | pattern :: patterns, segment :: segments =>
      if pattern.head? = some '*' then
        !(segment.isEmpty && segments.isEmpty)
      else
        segmentFits pattern segment &&
          segmentsFit patterns segments
  | _, _ => false

/- A path is what a pattern says. -/
def fits
    (pattern path : List Char) : Bool :=
  segmentsFit (Split.pieces '/' pattern)
    (Split.pieces '/' path)

end Path

end Courier
