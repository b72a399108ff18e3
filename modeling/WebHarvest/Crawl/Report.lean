import WebHarvest.Archive.Pipeline
import WebHarvest.Fetch.Landing

/-! What a crawl says about each of its URLs. -/

namespace WebHarvest.Crawl

/-- A report. An item that was not fetched has no state. -/
structure Report where
  url : String
  status : Option Int
  state : Option Fetch.FetchState
  size : Nat
  digest : Option String
  annotations : List String
  failures : List String
  decision : Archive.Decision
  records : Archive.RecordSet
  deriving DecidableEq, Repr

/-- The report on an item. -/
def Report.ofItem (item : CrawlItem) (state : Option Fetch.FetchState)
    (decision : Archive.Decision) : Report where
  url := item.url.text
  status := item.status.map FetchStatus.code
  state := state
  size := item.contentSize
  digest := item.digest.map ContentDigest.text
  annotations := item.annotations
  failures := item.failures
  decision := decision
  records := item.records

/-- The name of what became of an item. -/
def Report.stateText (report : Report) : String :=
  report.state.elim "Skipped" Fetch.FetchState.text

end WebHarvest.Crawl
