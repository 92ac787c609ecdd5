import ClientTraits.Json.Printer
import ClientTraits.Resolution.Report
import ClientTraits.Wire.Request

/-!
# The report document

The document that tells the outcome for all clients: an array with one object for each root, all
keys in alphabetical order. Each endpoint also shows its URL template and whether its verb is a
standard one.
-/

namespace ClientTraits

open Json (Value)

/-- The written form of an endpoint in a report. -/
def Endpoint.reportJson (e : Endpoint) : Value :=
  (e.toJson.setField "template" (.string e.template)).setField "standard" (.bool e.verb.isStandard)

/-- The written form of a report. -/
def Report.toJson (r : Report) : Value :=
  .object
    [("root", .string r.root),
     ("specs", .array (r.endpoints.map Endpoint.reportJson)),
     ("duplicates", Value.strings (r.duplicates.map Signature.shown)),
     ("failures", Value.strings (r.failures.map MethodFailure.message)),
     ("typeErrors", Value.strings (r.graphErrors.map GraphError.message))]

/-- The document for a list of reports. -/
def reportDocument (reports : List Report) : Value :=
  (Value.array (reports.map Report.toJson)).sorted

/-- The text of the document. -/
def renderReports (reports : List Report) (pretty : Bool) : String :=
  if pretty then (reportDocument reports).pretty else (reportDocument reports).compact

end ClientTraits
