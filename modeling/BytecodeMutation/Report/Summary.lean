import BytecodeMutation.Json.Basic
import BytecodeMutation.Report.Keyed
import BytecodeMutation.Site.Basic
import BytecodeMutation.Text.Padded

/-! How many sites there are: in all, in every category and for every operator, and in how many
methods. -/

namespace BytecodeMutation

structure SiteSummary where
  total : Nat
  methods : Nat
  perCategory : List (String × Nat)
  perOperator : List (String × Nat)
  deriving DecidableEq, Inhabited

namespace SiteSummary

def of (sites : List MutationSite) : SiteSummary where
  total := sites.length
  methods := (sites.map fun s => s.id.method).eraseDups.length
  perCategory := Keyed.tally (sites.map fun s => s.category.tag)
  perOperator := Keyed.tally (sites.map fun s => s.id.operator)

def countsJson (counts : List (String × Nat)) : Json :=
  .record (counts.map fun (key, n) => (key, .nat n))

def toJson (s : SiteSummary) : Json :=
  .record [("total", .nat s.total), ("methods", .nat s.methods),
    ("per_category", countsJson s.perCategory), ("per_operator", countsJson s.perOperator)]

/-- A count after a label that is filled up to fifteen characters. -/
def logLine (label text : String) : LogRecord :=
  ⟨.info, Text.padded 15 label ++ " " ++ text⟩

/-- The counts by category and the total. -/
def log (s : SiteSummary) : Log :=
  s.perCategory.map (fun (tag, n) => logLine tag (Decimal.natText n)) ++
    [logLine "Total" (Decimal.natText s.total ++ " in " ++ Decimal.natText s.methods ++ " methods")]

end SiteSummary

end BytecodeMutation
