import JavaReview.Command.Analyze

/-!
The commands on stored reviews: listing, summing up, writing reports and comparing.
-/

namespace JavaReview.Command

open Job

/-- What is told of a stored review. -/
def entryLine (colored : Bool) (r : Store.ReviewEntry) : String :=
  padLeft 6 ("#" ++ decimal r.id) ++ "  " ++ Style.paint colored .bold r.filename ++ "  " ++
    Style.paint colored .gray r.createdAt.toUtc.plainText ++ "\n    " ++
    countsText colored r.counts ++ "\n"

/-- Lists stored reviews. -/
def listReviews (e : Surroundings) (l : Line) : Job Unit := do
  let _ ← start e l.given
  let rows ← orFail .store ((← store).list (l.given.integer "limit" 20) (l.given.integer "offset" 0))
  if rows.isEmpty then print (Style.paint e.colored .gray "No reviews yet" ++ "\n")
  else print (String.join (rows.map (entryLine e.colored)))

/-- Sums up the stored reviews. -/
def showSummary (e : Surroundings) (l : Line) : Job Unit := do
  let _ ← start e l.given
  let s ← orFail .store (← store).summary
  print ("\n" ++ Style.paint e.colored .cyanBold "=== Review Summary ===" ++ "\n\n" ++
    "  Reviews: " ++ decimal s.reviews ++ "\n" ++
    "  Issues:  " ++ countsText e.colored s.counts ++ "\n\n")

/-- Writes the reports of a review in the formats of names, in order. -/
def writeReports (dir : String) (r : Review) : List String → Job Unit
  | [] => pure ()
  | name :: names => do
    let format ← readFormat name
    let (tree, path) := Report.write (← tree) dir format r
    setTree tree
    let path ← orFail .report path
    print ("  " ++ path ++ "\n")
    writeReports dir r names

/-- Writes reports of a stored review. The format `-` is the text on the output. -/
def report (e : Surroundings) (l : Line) : Job Unit := do
  let config ← start e l.given
  let r ← orFail (.notLoaded "review") ((← store).load (l.given.integer "review" 0))
  let formats := l.given.text "format" "json,html"
  if formats = "-" then print (Report.render .text r)
  else
    print (Style.paint e.colored .greenBold "Report OK" ++ " review #" ++ decimal r.id ++ " (" ++
      r.filename ++ ")\n")
    writeReports (reportDir l.given config) r
      ((Text.splitOn ',' formats.toList).map fun f => String.ofList (Text.trim f))

/-- What is told of a finding that only one review has. -/
def findingLine (mark : String) (f : Finding) : String :=
  "  " ++ mark ++ " " ++ f.rule ++ " line " ++ decimal f.line ++ ": " ++ f.title ++ "\n"

/-- What is told of a finding that changed. -/
def changeLine (mark : String) (c : Comparison.Change) : String :=
  "  " ++ mark ++ " " ++ c.head.rule ++ " line " ++ decimal c.head.line ++ ": [" ++
    String.intercalate " " c.fields ++ "]\n"

/-- What is told of a comparison. -/
def comparisonText (colored : Bool) (c : Comparison) (path : String) : String :=
  Style.paint colored .cyanBold "Diff" ++ " #" ++ decimal c.baseId ++ " -> #" ++ decimal c.headId ++ "\n" ++
    String.join (c.new.map (findingLine (Style.paint colored .red "+"))) ++
    String.join (c.removed.map (findingLine (Style.paint colored .green "-"))) ++
    String.join (c.changed.map (changeLine (Style.paint colored .yellow "~"))) ++
    decimal c.new.length ++ " new, " ++ decimal c.removed.length ++ " removed, " ++
    decimal c.changed.length ++ " changed\n  " ++ path ++ "\n"

/-- Compares two stored reviews. -/
def diff (e : Surroundings) (l : Line) : Job Unit := do
  let config ← start e l.given
  let base ← orFail (.notLoaded "base review") ((← store).load (l.given.integer "base" 0))
  let head ← orFail (.notLoaded "head review") ((← store).load (l.given.integer "head" 0))
  let (tree, path) := Report.writeComparison (← tree) (reportDir l.given config) base head
  setTree tree
  let path ← orFail .report path
  print (comparisonText e.colored (Comparison.ofReviews base head) path)

end JavaReview.Command
