import WebHarvest.Proofs.Http.Lines
import WebHarvest.Proofs.Recording.OperationRuns
import WebHarvest.Proofs.Text.Decimal
import WebHarvest.Proofs.Url.OneLine

/-! Envelopes are unambiguous: a body begins behind the first blank line, whatever it is, and the
lines in front of it tell what the message says. Of a request they leave open only whether the host
field that stands first is one of the request's own.
-/

namespace WebHarvest.Http

open Clock (Instant)
open Recording (EnvelopesFirst Limits Operation Recorder Tokens)
open Url (AreVisible IsOneLine isOneLine_append isOneLine_digits)

-----------------------------------------------------------------------------------------
-- Fields
-----------------------------------------------------------------------------------------

/-- A field that may stand in a message, with its name in the form in which names are kept. -/
def IsField (field : String × Bytes) : Prop :=
  headerName? field.1 = some field.1 ∧ isValue field.2 = true

instance (field : String × Bytes) : Decidable (IsField field) :=
  inferInstanceAs (Decidable (_ ∧ _))

/-- A field that fits on a line, where its first colon ends its name. -/
structure FitsLine (field : String × Bytes) : Prop where
  unmarked : ':' ∉ field.1.toList
  name : IsOneLine field.1.toList
  value : 13 ∉ field.2

/-- A field without its line end. -/
def fieldText (field : String × Bytes) : Bytes :=
  Text.utf8 field.1 ++ Text.utf8 ": " ++ field.2

theorem not_mem_of_isToken {text : String} (token : isToken text = true) {c : Char}
    (other : isTokenChar c = false)
    : c ∉ text.toList := by
  intro member
  simp only [isToken, Bool.and_eq_true, List.all_eq_true] at token
  exact absurd (token.2 c member) (by simp [other])

theorem isToken_of_headerName? {text name : String} (read : headerName? text = some name)
    : isToken text = true := by
  unfold headerName? at read
  split at read
  · rename_i valid
    exact (Bool.and_eq_true_iff.mp valid).1
  · cases read

/-- Every field that may stand in a message fits on a line. -/
theorem IsField.fitsLine {field : String × Bytes} (valid : IsField field) : FitsLine field where
  unmarked := not_mem_of_isToken (isToken_of_headerName? valid.1) (by decide)
  name := not_mem_of_isToken (isToken_of_headerName? valid.1) (by decide)
  value := by
    intro member
    exact absurd (List.all_eq_true.mp valid.2 13 member) (by decide)

/-- The bytes of a text on one line have no line end. -/
theorem not_mem_utf8 {text : String} (line : IsOneLine text.toList) : 13 ∉ Text.utf8 text :=
  mt (Text.mem_of_mem_utf8 (c := '\r') (by decide)) line

theorem isLine_utf8 {text : String} (filled : text.toList ≠ []) (line : IsOneLine text.toList)
    : IsLine (Text.utf8 text) := by
  refine ⟨?_, not_mem_utf8 line⟩
  intro empty
  have nothing : Text.utf8 "" = [] := by simp [Text.utf8_eq_flatMap]
  have same := Text.utf8_injective (empty.trans nothing.symm)
  simp [same] at filled

theorem fieldText_eq (field : String × Bytes)
    : fieldText field = Text.utf8 field.1 ++ 58 :: 32 :: field.2 := by
  have mark : Text.utf8 ": " = [58, 32] := Text.utf8_of_ascii (by simp)
  rw [fieldText, mark, List.append_assoc]
  rfl

theorem FitsLine.isLine {field : String × Bytes} (fits : FitsLine field)
    : IsLine (fieldText field) := by
  rw [fieldText_eq]
  refine ⟨by simp, ?_⟩
  simp [not_mem_utf8 fits.name, fits.value]

theorem areLines_fieldText {fields : List (String × Bytes)} (fit : ∀ field ∈ fields, FitsLine field)
    : ∀ line ∈ fields.map fieldText, IsLine line :=
  List.forall_mem_map.mpr fun field member => (fit field member).isLine

/-- A field is told from its line. -/
theorem fieldText_inj {field other : String × Bytes} (fits : FitsLine field)
    (fits' : FitsLine other) (same : fieldText field = fieldText other)
    : field = other := by
  rw [fieldText_eq, fieldText_eq] at same
  have unmarked {text : String} (absent : ':' ∉ text.toList) : 58 ∉ Text.utf8 text :=
    mt (Text.mem_of_mem_utf8 (c := ':') (by decide)) absent
  obtain ⟨names, values⟩ := append_mark_inj (unmarked fits.unmarked) (unmarked fits'.unmarked) same
  exact Prod.ext (Text.utf8_injective names) (List.cons.inj values).2

/-- Several fields are told from their lines, by induction on them. -/
theorem map_fieldText_inj {fields others : List (String × Bytes)}
    (fit : ∀ field ∈ fields, FitsLine field) (fit' : ∀ field ∈ others, FitsLine field)
    (same : fields.map fieldText = others.map fieldText)
    : fields = others := by
  induction fields generalizing others with
  | nil => exact (List.map_eq_nil_iff.mp same.symm).symm
  | cons field fields ih =>
      cases others with
      | nil => cases same
      | cons other others =>
          obtain ⟨here, later⟩ := List.cons.inj same
          obtain ⟨first, fit⟩ := List.forall_mem_cons.mp fit
          obtain ⟨first', fit'⟩ := List.forall_mem_cons.mp fit'
          rw [fieldText_inj first first' here, ih fit fit' later]

/-- A first line and the fields behind it are told from their bytes. -/
theorem framed_fields_inj {first first' : Bytes} {fields others : List (String × Bytes)}
    (isLine : IsLine first) (isLine' : IsLine first') (fit : ∀ field ∈ fields, FitsLine field)
    (fit' : ∀ field ∈ others, FitsLine field)
    (same : framed (first :: fields.map fieldText) = framed (first' :: others.map fieldText))
    : first = first' ∧ fields = others := by
  have lines := framed_inj (List.forall_mem_cons.mpr ⟨isLine, areLines_fieldText fit⟩)
    (List.forall_mem_cons.mpr ⟨isLine', areLines_fieldText fit'⟩) same
  obtain ⟨firsts, texts⟩ := List.cons.inj lines
  exact ⟨firsts, map_fieldText_inj fit fit' texts⟩

theorem fieldLines_eq (headers : Headers)
    : fieldLines headers = (headers.toList.map fieldText).flatMap (· ++ lineEnd) := by
  rw [List.flatMap_map]
  rfl

-----------------------------------------------------------------------------------------
-- Responses
-----------------------------------------------------------------------------------------

theorem isOneLine_text (version : Version) : IsOneLine version.text.toList := by
  cases version <;> decide

theorem not_mem_text (version : Version) : ' ' ∉ version.text.toList := by
  cases version <;> decide

theorem text_injective : Function.Injective Version.text := by
  intro version other same
  cases version <;> cases other <;> first | rfl | exact absurd same (by decide)

theorem isOneLine_reason (code : Nat) : IsOneLine (reason code).toList := by
  unfold reason
  split <;> decide

namespace ResponseHead

/-- A response with fields that may stand in one. -/
def IsValid (head : ResponseHead) : Prop :=
  ∀ field ∈ head.headers.toList, IsField field

instance (head : ResponseHead) : Decidable head.IsValid :=
  List.decidableBAll IsField head.headers.toList

/-- The first line without its end. -/
def statusLine (head : ResponseHead) : Bytes :=
  Text.utf8 (head.version.text ++ " " ++ toString head.status ++ " " ++ reason head.status)

theorem envelope_eq_framed (head : ResponseHead)
    : head.envelope = framed (head.statusLine :: head.headers.toList.map fieldText) := by
  rw [framed_cons, framed, ← fieldLines_eq]
  simp only [envelope, statusLine, List.append_assoc]

theorem isLine_statusLine (head : ResponseHead) : IsLine head.statusLine := by
  have digits := isOneLine_digits (Text.Decimal.areDigits_toDigits head.status)
  apply isLine_utf8
  · simp
  · simp only [String.toList_append, Text.Decimal.toList_toString]
    simp only [isOneLine_append, isOneLine_text, isOneLine_reason, digits, true_and, and_true]
    decide

/-- The status line tells version and status, which both end at the next blank. -/
theorem statusLine_inj {head other : ResponseHead} (same : head.statusLine = other.statusLine)
    : head.version = other.version ∧ head.status = other.status := by
  have texts := congrArg String.toList (Text.utf8_injective same)
  simp only [String.toList_append, List.append_assoc, Text.Decimal.toList_toString] at texts
  have noBlank (n : Nat) : ' ' ∉ Nat.toDigits 10 n := fun member =>
    absurd (Text.Decimal.areDigits_toDigits n ' ' member) (by decide)
  obtain ⟨versions, rest⟩ := append_mark_inj (not_mem_text _) (not_mem_text _) texts
  obtain ⟨statuses, -⟩ := append_mark_inj (noBlank _) (noBlank _) rest
  refine ⟨text_injective (String.toList_inj.mp versions), ?_⟩
  rw [← Text.Decimal.value_toDigits head.status, statuses, Text.Decimal.value_toDigits]

theorem IsValid.fit {head : ResponseHead} (valid : head.IsValid)
    : ∀ field ∈ head.headers.toList, FitsLine field :=
  fun field member => (valid field member).fitsLine

/-- Version, status and fields are told from an envelope. -/
theorem IsValid.envelope_inj {head other : ResponseHead} (valid : head.IsValid)
    (valid' : other.IsValid) (same : head.envelope = other.envelope)
    : head.version = other.version
      ∧ head.status = other.status
      ∧ head.headers.toList = other.headers.toList := by
  rw [head.envelope_eq_framed, other.envelope_eq_framed] at same
  obtain ⟨lines, fields⟩ := framed_fields_inj head.isLine_statusLine other.isLine_statusLine
    valid.fit valid'.fit same
  obtain ⟨versions, statuses⟩ := statusLine_inj lines
  exact ⟨versions, statuses, fields⟩

end ResponseHead

-----------------------------------------------------------------------------------------
-- Requests
-----------------------------------------------------------------------------------------

namespace Request

/-- A request for a web address with a method and fields that may stand in one. -/
structure IsValid (request : Request) : Prop where
  method : isToken request.method = true
  url : request.url.IsWeb
  fields : ∀ field ∈ request.headers.toList, IsField field

/-- The host field that is made from the URL, unless the request has one of its own. -/
def madeHost (request : Request) : List (String × Bytes) :=
  if request.headers.contains "host" then []
  else (request.hostField?.map fun host => ("host", Text.utf8 host)).toList

/-- The fields that are sent. -/
def sent (request : Request) : List (String × Bytes) :=
  request.madeHost ++ request.headers.toList

/-- The first line without its end. -/
def requestLine (request : Request) : Bytes :=
  Text.utf8 (request.method ++ " " ++ request.target ++ " " ++ request.version.text)

theorem madeHost_of_own {request : Request} (own : request.headers.contains "host" = true)
    : request.madeHost = [] :=
  if_pos own

theorem madeHost_of_none {request : Request} (none : request.headers.contains "host" = false)
    {host : String} (known : request.hostField? = some host)
    : request.madeHost = [("host", Text.utf8 host)] := by
  rw [madeHost, none, known]
  rfl

theorem hostLine_eq (request : Request)
    : request.hostLine = (request.madeHost.map fieldText).flatMap (· ++ lineEnd) := by
  unfold hostLine madeHost
  split
  · rfl
  · cases request.hostField? with
    | none => rfl
    | some host => simp [fieldText, fieldLine]

theorem envelope_eq_framed (request : Request)
    : request.envelope = framed (request.requestLine :: request.sent.map fieldText) := by
  rw [framed_cons, framed, sent, List.map_append, List.flatMap_append, ← hostLine_eq,
    ← fieldLines_eq]
  simp only [envelope, requestLine, List.append_assoc]

variable {request other : Request}

/-- What is asked for is visible. -/
theorem IsValid.areVisible_target (valid : request.IsValid)
    : AreVisible request.target.toList := by
  unfold target
  rw [String.toList_append]
  refine Url.areVisible_append.mpr ⟨valid.url.areVisible_pathText, ?_⟩
  cases known : request.url.query with
  | none => decide
  | some query =>
      rw [Option.map_some, Option.getD_some, String.toList_append]
      exact Url.areVisible_append.mpr ⟨by decide, valid.url.areVisible_query known⟩

theorem IsValid.isLine_requestLine (valid : request.IsValid) : IsLine request.requestLine := by
  have method : IsOneLine request.method.toList := not_mem_of_isToken valid.method (by decide)
  apply isLine_utf8
  · simp
  · simp only [String.toList_append, isOneLine_append, isOneLine_text, method,
      valid.areVisible_target.isOneLine, true_and, and_true]
    decide

/-- The request line tells method, target and version, the first two of which end at the next blank.
-/
theorem IsValid.requestLine_inj (valid : request.IsValid) (valid' : other.IsValid)
    (same : request.requestLine = other.requestLine)
    : request.method = other.method
      ∧ request.target = other.target
      ∧ request.version = other.version := by
  have texts := congrArg String.toList (Text.utf8_injective same)
  simp only [String.toList_append, List.append_assoc] at texts
  have method {request : Request} (valid : request.IsValid) : ' ' ∉ request.method.toList :=
    not_mem_of_isToken valid.method (by decide)
  have target {request : Request} (valid : request.IsValid) : ' ' ∉ request.target.toList :=
    fun member => absurd (valid.areVisible_target ' ' member) (by decide)
  obtain ⟨methods, rest⟩ := append_mark_inj (method valid) (method valid') texts
  obtain ⟨targets, versions⟩ := append_mark_inj (target valid) (target valid') rest
  exact ⟨String.toList_inj.mp methods, String.toList_inj.mp targets,
    text_injective (String.toList_inj.mp versions)⟩

/-- A web address gives a host field, which fits on a line. -/
theorem IsValid.exists_hostField? (valid : request.IsValid)
    : ∃ host, request.hostField? = some host ∧ IsOneLine host.toList := by
  obtain ⟨host, known, line⟩ := valid.url.exists_host
  have port
    : IsOneLine ((request.url.port.map fun port => ":" ++ toString port).getD "").toList := by
    cases request.url.port with
    | none => decide
    | some port =>
        rw [Option.map_some, Option.getD_some, String.toList_append,
          Text.Decimal.toList_toString]
        exact isOneLine_append.mpr
          ⟨by decide, isOneLine_digits (Text.Decimal.areDigits_toDigits port)⟩
  refine ⟨_, by rw [hostField?, Url.hostText?, known]; rfl, ?_⟩
  rw [String.toList_append]
  exact isOneLine_append.mpr ⟨line, port⟩

theorem IsValid.fit (valid : request.IsValid) : ∀ field ∈ request.sent, FitsLine field := by
  intro field member
  rcases List.mem_append.mp member with made | own
  · obtain ⟨host, known, line⟩ := valid.exists_hostField?
    cases has : request.headers.contains "host" with
    | true =>
        rw [madeHost_of_own has] at made
        cases made
    | false =>
        rw [madeHost_of_none has known] at made
        rw [List.mem_singleton.mp made]
        have unmarked : ':' ∉ "host".toList := by decide
        have name : IsOneLine "host".toList := by decide
        exact ⟨unmarked, name, not_mem_utf8 line⟩
  · exact (valid.fields field own).fitsLine

/-- Method, target, version and the fields that are sent are told from an envelope. -/
theorem IsValid.envelope_inj (valid : request.IsValid) (valid' : other.IsValid)
    (same : request.envelope = other.envelope)
    : request.method = other.method
      ∧ request.target = other.target
      ∧ request.version = other.version
      ∧ request.sent = other.sent := by
  rw [request.envelope_eq_framed, other.envelope_eq_framed] at same
  obtain ⟨lines, sent⟩ := framed_fields_inj valid.isLine_requestLine valid'.isLine_requestLine
    valid.fit valid'.fit same
  obtain ⟨methods, targets, versions⟩ := valid.requestLine_inj valid' lines
  exact ⟨methods, targets, versions, sent⟩

/-- Of two requests that send the same fields the own fields are the same too, if both or neither
have a host field of their own. Otherwise the one has those of the other behind the host field that
is made for the other.
-/
theorem IsValid.fields_of_sent (valid : request.IsValid) (valid' : other.IsValid)
    (same : request.sent = other.sent)
    : (request.headers.contains "host" = other.headers.contains "host"
        → request.hostLine = other.hostLine ∧ request.headers.toList = other.headers.toList)
      ∧ (request.headers.contains "host" = true
          → other.headers.contains "host" = false
          → ∃ host,
              other.hostField? = some host
              ∧ request.headers.toList = ("host", Text.utf8 host) :: other.headers.toList) := by
  obtain ⟨host, known, -⟩ := valid.exists_hostField?
  obtain ⟨host', known', -⟩ := valid'.exists_hostField?
  rw [hostLine_eq, hostLine_eq]
  unfold sent at same
  constructor
  · intro alike
    cases own : request.headers.contains "host" with
    | true =>
        rw [madeHost_of_own own, madeHost_of_own (alike ▸ own)] at same ⊢
        exact ⟨rfl, same⟩
    | false =>
        rw [madeHost_of_none own known, madeHost_of_none (alike ▸ own) known'] at same ⊢
        obtain ⟨hosts, fields⟩ := List.cons.inj same
        exact ⟨by rw [hosts], fields⟩
  · intro own none
    rw [madeHost_of_own own, madeHost_of_none none known'] at same
    exact ⟨host', known', same⟩

/-- A request to the own machine with some fields. -/
def loopback (headers : Headers) : Request where
  method := "GET"
  url :=
    { scheme := "http"
      username := ""
      password := none
      hasAuthority := true
      host := some (.ipv6 [0, 0, 0, 0, 0, 0, 0, 1])
      port := none
      path := .segments [""]
      query := none
      fragment := none }
  version := .http11
  headers := headers

theorem isValid_loopback {headers : Headers}
    (fields : ∀ field ∈ headers.toList, IsField field)
    : (loopback headers).IsValid := by
  have method : isToken "GET" = true := by decide
  have read : Url.read? "http://[::1]/" = some (loopback .empty).url := by decide +kernel
  exact ⟨method, ⟨⟨_, read⟩, .inl rfl⟩, fields⟩

/-- The host field that is made for such a request may be one of its own. -/
theorem envelope_loopback
    : (loopback .empty).envelope
      = (loopback (.ofList [("host", [0x5b, 0x3a, 0x3a, 0x31, 0x5d])])).envelope := by
  have name : (loopback .empty).hostField? = some "[::1]" := by decide
  have bytes : Text.utf8 "[::1]" = [0x5b, 0x3a, 0x3a, 0x31, 0x5d] := Text.utf8_of_ascii (by simp)
  have made : (loopback .empty).madeHost = [("host", [0x5b, 0x3a, 0x3a, 0x31, 0x5d])] :=
    bytes ▸ madeHost_of_none rfl name
  rw [envelope_eq_framed, envelope_eq_framed, sent, made]
  rfl

end Request

-----------------------------------------------------------------------------------------
-- Envelopes
-----------------------------------------------------------------------------------------

/-- The envelope of a response or of a request with parts that may stand in one. -/
inductive IsEnvelope : Bytes → Prop where
  | response {head : ResponseHead} (valid : head.IsValid) : IsEnvelope head.envelope
  | request {request : Request} (valid : request.IsValid) : IsEnvelope request.envelope

/-- Behind an envelope the first blank line ends. -/
theorem IsEnvelope.splitAtBlank?_append {envelope : Bytes} (known : IsEnvelope envelope)
    (body : Bytes)
    : splitAtBlank? (envelope ++ body) = some (envelope, body) := by
  cases known with
  | @response head valid =>
      rw [head.envelope_eq_framed]
      exact splitAtBlank?_framed head.isLine_statusLine (areLines_fieldText valid.fit) body
  | @request request valid =>
      rw [request.envelope_eq_framed]
      exact splitAtBlank?_framed valid.isLine_requestLine (areLines_fieldText valid.fit) body

variable {α : Type} [Tokens α]

/-- So a recording whose envelope is whole is divided where its body begins. -/
theorem IsEnvelope.splitAtBlank?_replay {envelope : Bytes} (known : IsEnvelope envelope)
    (now : Instant) {limits : Limits} (algorithm : Option DigestAlgorithm)
    {operations : List Operation} (ordered : EnvelopesFirst operations)
    (recorded : operations.flatMap Operation.envelopeBytes = envelope)
    (whole : limits.clip envelope = envelope)
    : let recorder : Recorder α := (Recorder.start now limits algorithm).performAll operations
      let replayed := recorder.replay.1
      splitAtBlank? replayed
        = some (replayed.take recorder.contentBegin, replayed.drop recorder.contentBegin) := by
  obtain ⟨portions, -, holds, -⟩ :=
    Recorder.exists_hasPerformed (α := α) now limits algorithm operations ordered
  rw [recorded, whole] at holds
  simp only [holds.replay_fst, holds.contentBegin, List.take_left, List.drop_left]
  exact known.splitAtBlank?_append _

/-- Whatever follows an envelope begins behind the first blank line, which ends where the envelope
does, so that a recording with all of the envelope is divided just where its body begins. Responses
with the same envelope have the same version, status and fields. Requests with the same envelope
have the same method, target and version, and send the same fields; these are the same host line
and the same own fields unless one request has a host field of its own and the other has not, where
the former's own field stands in the place of the one that is made for the latter.
-/
theorem envelope_unambiguous {envelope : Bytes} (known : IsEnvelope envelope)
    : (∀ body, splitAtBlank? (envelope ++ body) = some (envelope, body))
      ∧ (∀ (now : Instant) (limits : Limits) (algorithm : Option DigestAlgorithm)
            (operations : List Operation),
          EnvelopesFirst operations
          → operations.flatMap Operation.envelopeBytes = envelope
          → limits.clip envelope = envelope
          → let recorder : Recorder α := (Recorder.start now limits algorithm).performAll operations
            let replayed := recorder.replay.1
            splitAtBlank? replayed
              = some (replayed.take recorder.contentBegin, replayed.drop recorder.contentBegin))
      ∧ (∀ head other : ResponseHead,
          head.IsValid
          → other.IsValid
          → head.envelope = envelope
          → other.envelope = envelope
          → head.version = other.version
            ∧ head.status = other.status
            ∧ head.headers.toList = other.headers.toList)
      ∧ ∀ request other : Request,
          request.IsValid
          → other.IsValid
          → request.envelope = envelope
          → other.envelope = envelope
          → request.method = other.method
            ∧ request.target = other.target
            ∧ AreVisible request.target.toList
            ∧ request.version = other.version
            ∧ request.sent = other.sent
            ∧ (request.headers.contains "host" = other.headers.contains "host"
                → request.hostLine = other.hostLine
                  ∧ request.headers.toList = other.headers.toList)
            ∧ (request.headers.contains "host" = true
                → other.headers.contains "host" = false
                → ∃ host,
                    other.hostField? = some host
                    ∧ request.headers.toList
                      = ("host", Text.utf8 host) :: other.headers.toList) := by
  refine ⟨known.splitAtBlank?_append, ?_, ?_, ?_⟩
  · intro now limits algorithm operations ordered recorded whole
    exact known.splitAtBlank?_replay now algorithm ordered recorded whole
  · intro head other valid valid' here there
    exact valid.envelope_inj valid' (here.trans there.symm)
  · intro request other valid valid' here there
    obtain ⟨methods, targets, versions, sent⟩ := valid.envelope_inj valid' (here.trans there.symm)
    exact ⟨methods, targets, valid.areVisible_target, versions, sent,
      valid.fields_of_sent valid' sent⟩

/-- Blank lines in a body and bytes beyond ASCII in a field leave the body where it begins, and of
two requests with one envelope the one has the host field that is made for the other.
-/
theorem envelope_unambiguous_blankLines
    : let head : ResponseHead := ⟨299, .http2, .ofList [("a", [0xff]), ("b", []), ("a", [0x3a])]⟩
      let operations : List Operation :=
        [.envelope head.envelope, .body 0 none none [.chunk (blankLine ++ blankLine)], .close]
      let recorder : Recorder Float :=
        (Recorder.start 0 ⟨0, none, 0⟩ none).performAll operations
      let replayed := recorder.replay.1
      let request := Request.loopback .empty
      let own := Request.loopback (.ofList [("host", [0x5b, 0x3a, 0x3a, 0x31, 0x5d])])
      IsEnvelope head.envelope
      ∧ EnvelopesFirst operations
      ∧ splitAtBlank? (head.envelope ++ blankLine) = some (head.envelope, blankLine)
      ∧ splitAtBlank? replayed
        = some (replayed.take recorder.contentBegin, replayed.drop recorder.contentBegin)
      ∧ (∀ other : ResponseHead,
          other.IsValid
          → other.envelope = head.envelope
          → other.headers.toList = [("a", [0xff]), ("a", [0x3a]), ("b", [])])
      ∧ IsEnvelope request.envelope
      ∧ own.envelope = request.envelope
      ∧ ∃ host,
          request.hostField? = some host
          ∧ own.headers.toList = ("host", Text.utf8 host) :: request.headers.toList := by
  intro head operations recorder replayed request own
  have valid : head.IsValid := by decide
  have ordered : EnvelopesFirst operations := by decide
  have plain : request.IsValid := Request.isValid_loopback (by decide)
  have hosted : own.IsValid := Request.isValid_loopback (by decide)
  have same : own.envelope = request.envelope := Request.envelope_loopback.symm
  obtain ⟨ends, divided, tells, -⟩ := envelope_unambiguous (α := Float) (.response valid)
  obtain ⟨-, -, -, asks⟩ := envelope_unambiguous (α := Float) (.request plain)
  obtain ⟨-, -, -, -, -, -, madeHost⟩ := asks own request hosted plain same rfl
  refine ⟨.response valid, ordered, ends blankLine, ?_, ?_, .request plain, same, ?_⟩
  · exact divided 0 ⟨0, none, 0⟩ none operations ordered (List.append_nil _) rfl
  · intro other valid' here
    exact (tells other head valid' valid here rfl).2.2.trans (by decide)
  · exact madeHost (by decide) (by decide)

/-- A host field of a request's own is not told from one that is made from its URL. -/
theorem envelope_unambiguous_ownHost
    : let request := Request.loopback .empty
      let own := Request.loopback (.ofList [("host", [0x5b, 0x3a, 0x3a, 0x31, 0x5d])])
      request.IsValid
      ∧ own.IsValid
      ∧ request.envelope = own.envelope
      ∧ request.headers.toList ≠ own.headers.toList := by
  intro request own
  have plain : request.IsValid := Request.isValid_loopback (by decide)
  have hosted : own.IsValid := Request.isValid_loopback (by decide)
  exact ⟨plain, hosted, Request.envelope_loopback, by decide⟩

end WebHarvest.Http
