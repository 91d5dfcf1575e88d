import BytecodeMutation.Report.Renaming
import BytecodeMutation.Report.Summary
import BytecodeMutation.Site.Json
import BytecodeMutation.Json.Writer

/-! The report of mutation sites as JSON text. -/

namespace BytecodeMutation

open Json (text)

def MutationSite.toReportJson (rename : String → String) (s : MutationSite) : Json :=
  .record [("ordinal", .nat s.ordinal), ("fingerprint", text s.id.fingerprint),
    ("operator", text s.id.operator), ("category", text s.category.name),
    ("class", text s.id.method.owner),
    ("method", text (s.id.method.name ++ s.id.method.descriptor)),
    ("instruction_index", .nat s.id.index),
    ("file", .orNull ((s.reportedFile? rename).map text)),
    ("line", .orNull (s.location.line.map fun n => .nat n.toNat)),
    ("description", text s.description)]

/-- The report on the sites of units, which are named first. -/
def Json.siteReport (rename : String → String) (units : List String)
    (sites : List MutationSite) : String :=
  (Json.record [("units", .texts units),
    ("sites", .array (sites.map (·.toReportJson rename))),
    ("summary", (SiteSummary.of sites).toJson)]).pretty

end BytecodeMutation
