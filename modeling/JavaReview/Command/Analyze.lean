import JavaReview.Command.Session
import JavaReview.Report
import JavaReview.Source.Load
import JavaReview.Store.Reviews
import JavaReview.Store.Waivers

/-!
The command that reviews files. Every file gives one review, without the findings that active waivers
accept; it is stored unless that is switched off, and written as a report.
-/

namespace JavaReview.Command

open Job

/-- The format of a name. -/
def readFormat (name : String) : Job Report.Format :=
  match Report.Format.parse? name with
  | some f => pure f
  | none => throw (.unknownFormat name)

/-- The directory for reports: that of the flag, or the configured one. -/
def reportDir (given : Given) (config : Config) : String :=
  let out := given.text "out" ""
  if out = "" then config.reporting.outDir else out

/-- How a review is named after it was stored or not. -/
def reviewId (colored : Bool) (r : Review) : String :=
  if r.id ≠ 0 then "#" ++ decimal r.id else Style.paint colored .gray "unsaved"

/-- What is told of a review. -/
def reviewLine (colored : Bool) (r : Review) (waived : Nat) (path : String) : String :=
  Style.paint colored .bold r.filename ++ " " ++ reviewId colored r ++ "  " ++
    countsText colored r.counts ++
    (if waived = 0 then ""
      else "  " ++ Style.paint colored .gray ("(" ++ decimal waived ++ " waived)")) ++
    "\n  " ++ Style.paint colored .gray path ++ "\n"

/-- What is told of several reviews. -/
def totalLine (colored : Bool) (rs : List Review) : String :=
  "\n" ++ Style.paint colored .bold "Total:" ++ " " ++ decimal rs.length ++ " files  " ++
    countsText colored ((rs.map (·.counts)).foldr (· + ·) {}) ++ "\n"

/-- Stores a review, if that is wanted. -/
def saveReview (now : Instant) (wanted : Bool) (r : Review) : Job Review := do
  if wanted then
    let (s, saved) ← orFail (.notSaved r.filename) ((← store).save now r)
    setStore s
    return saved
  else return r

/-- Finishes a review: what waivers accept is left out, and the rest is stored, written and told. -/
def finishReview (e : Surroundings) (wanted : Bool) (dir : String) (format : Report.Format)
    (ws : List Waiver) (r : Review) : Job Review := do
  let saved ← saveReview e.now wanted (r.applyWaivers ws)
  let (tree, path) := Report.write (← tree) dir format saved
  setTree tree
  let path ← orFail (.notWritten saved.filename) path
  print (reviewLine e.colored saved (r.waived ws) path)
  return saved

/-- Finishes reviews in order. -/
def finishReviews (e : Surroundings) (wanted : Bool) (dir : String) (format : Report.Format)
    (ws : List Waiver) : List Review → Job (List Review)
  | [] => pure []
  | r :: rs => do
    let first ← finishReview e wanted dir format ws r
    return first :: (← finishReviews e wanted dir format ws rs)

/-- Reviews the files of paths, or those of the settings. -/
def analyze (e : Surroundings) (l : Line) : Job Unit := do
  let format ← readFormat (l.given.text "format" "json")
  let (config, engine) ← startEngine e l.given
  let paths := if l.args.isEmpty then config.analysis.sources.getD [] else l.args
  if paths.isEmpty then throw .noPaths
  let (units, _) := Source.load (← tree).disk config.analysis.maxSourceBytes paths
  if units.isEmpty then throw .nothingToAnalyze
  let reviews ← orFail .analysis (engine.analyzeAll e.now false units)
  let ws ← orFail .waivers ((← store).listWaivers e.now true)
  let done ← finishReviews e (!l.given.isOn "no-save") (reportDir l.given config) format ws reviews
  if done.length > 1 then print (totalLine e.colored done)

end JavaReview.Command
