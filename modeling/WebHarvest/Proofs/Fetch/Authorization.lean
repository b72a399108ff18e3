import WebHarvest.Proofs.Access.Confinement
import WebHarvest.Proofs.Http.Fields
import WebHarvest.Fetch.Fetcher

/-! The authorization of a request: a fetcher whose settings name none presents nothing but a
credential for the request's own host.
-/

namespace WebHarvest.Fetch

open Access (Credential CredentialStore ServerCache)

-----------------------------------------------------------------------------------------
-- The authorization of a request
-----------------------------------------------------------------------------------------

/-- A text that is set in another field leaves a name alone. -/
theorem values_insertText_of_ne {name other : String} (different : other ≠ name)
    (headers : Http.Headers) (text : Option String)
    : (insertText headers name text).values other = headers.values other := by
  unfold insertText
  split
  · exact Http.Headers.values_insert_of_ne different _ _
  · rfl

/-- So does a value that is always sent when a setting is on. -/
theorem values_insertWhen_of_ne {name other : String} (different : other ≠ name) (on : Bool)
    (value : String) (headers : Http.Headers)
    : (Fetcher.insertWhen on name value headers).values other = headers.values other := by
  unfold Fetcher.insertWhen
  split
  · exact Http.Headers.values_insert_of_ne different _ _
  · rfl

/-- Apart from the accept fields no field but that of a credential is an authorization. -/
theorem values_openFields (fetcher : Fetcher) (item : CrawlItem) (limits : Recording.Limits)
    : (fetcher.openFields item limits).values "authorization"
      = fetcher.acceptFields.values "authorization" := by
  unfold Fetcher.openFields FetchConfig.addValidators
  simp only [values_insertText_of_ne (by decide : "authorization" ≠ "if-none-match"),
    values_insertText_of_ne (by decide : "authorization" ≠ "if-modified-since"),
    values_insertText_of_ne (by decide : "authorization" ≠ "range"),
    values_insertText_of_ne (by decide : "authorization" ≠ "referer"),
    values_insertText_of_ne (by decide : "authorization" ≠ "user-agent"),
    values_insertWhen_of_ne (by decide : "authorization" ≠ "connection"),
    values_insertWhen_of_ne (by decide : "authorization" ≠ "accept-encoding")]

/-- Where lines are read as header fields, each field comes from a line, by induction on the
lines.
-/
theorem exists_line_of_mapM {lines : List String} {fields : List (String × Bytes)}
    (read : lines.mapM FetchConfig.headerField = .ok fields)
    : ∀ field ∈ fields, ∃ line ∈ lines, FetchConfig.headerField line = .ok field := by
  induction lines generalizing fields with
  | nil =>
      cases read
      simp
  | cons line rest ih =>
      rw [List.mapM_cons] at read
      cases first : FetchConfig.headerField line with
      | error why =>
          rw [first] at read
          cases read
      | ok field =>
          cases later : rest.mapM FetchConfig.headerField with
          | error why =>
              rw [first, later] at read
              cases read
          | ok others =>
              rw [first, later] at read
              cases read
              intro other member
              rcases List.mem_cons.mp member with rfl | among
              · exact ⟨line, List.mem_cons_self, first⟩
              · obtain ⟨source, listed, made⟩ := ih later other among
                exact ⟨source, List.mem_cons_of_mem _ listed, made⟩

/-- A fetcher has the settings and the store that it was made with, and no authorization among its
accept fields unless the settings name one.
-/
theorem fetcher_of_new {config : FetchConfig} {store : CredentialStore} {fetcher : Fetcher}
    (made : Fetcher.new config store = .ok fetcher)
    (unnamed
      : ∀ line ∈ config.acceptHeaders,
          ∀ value, FetchConfig.headerField line ≠ .ok ("authorization", value))
    : fetcher.store = store ∧ fetcher.acceptFields.values "authorization" = [] := by
  unfold Fetcher.new at made
  split at made
  · cases made
  · cases made
  · rename_i accepted
    cases made
    refine ⟨rfl, ?_⟩
    unfold FetchConfig.acceptFields at accepted
    cases read : config.acceptHeaders.mapM FetchConfig.headerField with
    | error why =>
        rw [read] at accepted
        cases accepted
    | ok fields =>
        rw [read] at accepted
        cases accepted
        refine Http.Headers.values_ofList_of_absent fun field member named => ?_
        obtain ⟨line, listed, source⟩ := exists_line_of_mapM read field member
        exact unnamed line listed field.2 (named ▸ source)

-----------------------------------------------------------------------------------------
-- The credential of a request
-----------------------------------------------------------------------------------------

variable {known : Credential → Prop} {fetcher : Fetcher}

/-- A request presents nothing, or one credential of a known origin for its own host. -/
def IsConfined (known : Credential → Prop) (request : Http.Request) : Prop :=
  request.headers.values "authorization" = []
  ∨ ∃ credential host,
      known credential
      ∧ request.url.hostText? = some host
      ∧ credential.appliesTo host = true
      ∧ request.headers.values "authorization" = [credential.authorization]

/-- The credential that is chosen for an item is for its host: an own one was compared with the
host, and that of a server is for the server's domain.
-/
theorem appliesTo_of_credential? {servers : ServerCache} (confined : servers.IsConfined known)
    {item : CrawlItem} (origins : ∀ credential ∈ item.credentials, known credential)
    {credential : Credential} {own : Bool}
    (chosen : Fetcher.credential? servers item = some (credential, own))
    : ∃ host,
        item.url.hostText? = some host
        ∧ credential.appliesTo host = true
        ∧ known credential := by
  unfold Fetcher.credential? at chosen
  obtain ⟨host, named, found⟩ := Option.bind_eq_some_iff.mp chosen
  refine ⟨host, named, ?_⟩
  cases presented : Fetcher.ownCredential? item host with
  | some other =>
      rw [presented] at found
      cases found
      have member : credential ∈ item.credentials := List.mem_of_find?_eq_some presented
      have chosen := List.find?_some presented
      rw [Bool.and_eq_true] at chosen
      exact ⟨chosen.1, origins credential member⟩
  | none =>
      rw [presented] at found
      obtain ⟨other, offered, same⟩ := Option.map_eq_some_iff.mp found
      cases same
      obtain ⟨server, served, answers⟩ := Option.bind_eq_some_iff.mp offered
      exact confined.appliesTo served (List.mem_of_find?_eq_some answers)

/-- So the request presents that credential only. -/
theorem isConfined_request (unnamed : fetcher.acceptFields.values "authorization" = [])
    {servers : ServerCache} (confined : servers.IsConfined known) {item : CrawlItem}
    (origins : ∀ credential ∈ item.credentials, known credential)
    (limits : Recording.Limits)
    : IsConfined known (fetcher.request servers item limits).1 := by
  have nothing : (fetcher.openFields item limits).values "authorization" = [] :=
    (values_openFields fetcher item limits).trans unnamed
  unfold Fetcher.request
  cases chosen : Fetcher.credential? servers item with
  | none => exact .inl nothing
  | some credential =>
      obtain ⟨credential, own⟩ := credential
      obtain ⟨host, named, applies, origin⟩ := appliesTo_of_credential? confined origins chosen
      refine .inr ⟨credential, host, origin, named, applies, ?_⟩
      simp [Http.Headers.values_insert]

end WebHarvest.Fetch
