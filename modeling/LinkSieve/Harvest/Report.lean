import LinkSieve.Json
/-!
# Harvest reports

A report tells what became of the links of one page or of several: how many were examined and accepted,
what was saved under which name, and what failed for which reason.
-/

namespace LinkSieve.Harvest

/-- A link whose resource is in the output directory now. -/
structure Download where
  url : String
  fileName : String
  bytes : Nat
  alreadyPresent : Bool
  deriving Repr, DecidableEq

/-- A link that was given up. -/
structure Failure where
  url : String
  reason : String
  deriving Repr, DecidableEq

/-- What became of the links. -/
structure Report where
  examined : Nat
  accepted : Nat
  downloaded : List Download
  failed : List Failure
  deriving Repr, DecidableEq

namespace Report

/-- The report on no pages. -/
def empty : Report := ⟨0, 0, [], []⟩

/-- Adds the report on a further page. -/
def merge (report other : Report) : Report where
  examined := report.examined + other.examined
  accepted := report.accepted + other.accepted
  downloaded := report.downloaded ++ other.downloaded
  failed := report.failed ++ other.failed

/-- Adds a link that was saved. -/
def addDownload (report : Report) (download : Download) : Report :=
  { report with downloaded := report.downloaded ++ [download] }

/-- Adds a link that was given up. -/
def addFailure (report : Report) (failure : Failure) : Report :=
  { report with failed := report.failed ++ [failure] }

/-- The line of a saved link. -/
def downloadLine (download : Download) : String :=
  "  " ++ download.fileName ++ " (" ++ toString download.bytes ++ " bytes" ++
    (if download.alreadyPresent then ", already present" else "") ++ ")\n"

/-- The line of a link that was given up. -/
def failureLine (failure : Failure) : String :=
  "  " ++ failure.url ++ ": " ++ failure.reason ++ "\n"

/-- The report as lines. -/
def text (report : Report) : String :=
  "HARVEST accepted " ++ toString report.accepted ++ " of " ++ toString report.examined ++ " link" ++
    (if report.examined = 1 then "" else "s") ++ "\n" ++
  (if report.downloaded.isEmpty then "No matching files found or download failed.\n"
    else "Downloaded files:\n" ++ String.join (report.downloaded.map downloadLine)) ++
  (if report.failed.isEmpty then ""
    else "Failed:\n" ++ String.join (report.failed.map failureLine))

/-- A saved link as a document. Only what was already present is marked. -/
def downloadDocument (download : Download) : Json :=
  .object ([("url", .str download.url), ("file_name", .str download.fileName),
    ("bytes", .num download.bytes)] ++
    if download.alreadyPresent then [("already_present", .bool true)] else [])

/-- A link that was given up as a document. -/
def failureDocument (failure : Failure) : Json :=
  .object [("url", .str failure.url), ("reason", .str failure.reason)]

/-- The report as a document. -/
def document (report : Report) : Json :=
  .object [("harvest", .object [
    ("examined", .num report.examined),
    ("accepted", .num report.accepted),
    ("downloaded", .arr (report.downloaded.map downloadDocument)),
    ("failed", .arr (report.failed.map failureDocument))])]

end Report

end LinkSieve.Harvest
