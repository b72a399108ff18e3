import WebHarvest.Crawl.Report
import WebHarvest.Exchange.Archive
import WebHarvest.Json.Writer

/-! The JSON form of a crawl's reports. -/

namespace WebHarvest.Crawl.Report

/-- A report by its fields. -/
def toJson (report : Report) : Json :=
  .ofMembers
    [("url", .text report.url),
     ("status", .orNull .int report.status),
     ("state", .text report.stateText),
     ("size", .nat report.size),
     ("digest", .orNull .text report.digest),
     ("annotations", .array (report.annotations.map .text)),
     ("failures", .array (report.failures.map .text)),
     ("decision", report.decision.toJson),
     ("records", report.records.toJson)]

/-- A report as a line of text. -/
def line (report : Report) : String :=
  report.toJson.render

end WebHarvest.Crawl.Report
