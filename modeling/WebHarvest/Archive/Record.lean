/-! Records of an archive before they are written: what a fetched item contributes, by roles. -/

namespace WebHarvest.Archive

/-- Types of records. -/
inductive RecordType where
  | response
  | resource
  | revisit
  | request
  | metadata
  deriving DecidableEq, Repr

/-- The name of a type. -/
def RecordType.text : RecordType → String
  | response => "response"
  | resource => "resource"
  | revisit => "revisit"
  | request => "request"
  | metadata => "metadata"

/-- All types of records. -/
def RecordType.all : List RecordType := [response, resource, revisit, request, metadata]

/-- The type with a name. -/
def RecordType.ofText? (name : String) : Option RecordType :=
  all.find? (·.text == name)

/-- The part that a record plays: the principal one, or one that accompanies it. -/
inductive RecordRole where
  | principal
  | request
  | metadata
  deriving DecidableEq, Repr

/-- The name of a role. -/
def RecordRole.text : RecordRole → String
  | principal => "principal-record"
  | request => "request-record"
  | metadata => "metadata-record"

/-- All roles of records. -/
def RecordRole.all : List RecordRole := [principal, request, metadata]

/-- The role with a name. -/
def RecordRole.ofText? (name : String) : Option RecordRole :=
  all.find? (·.text == name)

/-- Labelled values in order. A label may occur more than once. -/
structure NamedFields where
  entries : List (String × String)
  deriving DecidableEq, Repr

namespace NamedFields

/-- No value. -/
def empty : NamedFields := ⟨[]⟩

/-- Adds a value at the end. -/
def add (fields : NamedFields) (label value : String) : NamedFields :=
  ⟨fields.entries ++ [(label, value)]⟩

/-- The first value with a label. -/
def get? (fields : NamedFields) (label : String) : Option String :=
  (fields.entries.find? (·.1 == label)).map (·.2)

/-- Whether a label occurs. -/
def contains (fields : NamedFields) (label : String) : Bool :=
  (fields.get? label).isSome

end NamedFields

/-- A record. The length counts the bytes of its content, and is enforced where the recorded bytes
go on behind it. -/
structure ArchiveRecord where
  type : RecordType
  url : String
  date : String
  id : String
  mimetype : String
  contentLength : Nat
  enforceLength : Bool
  fields : NamedFields
  deriving DecidableEq, Repr

/-- The records of an item, each role once, in the order in which the roles were filled. -/
structure RecordSet where
  entries : List (RecordRole × ArchiveRecord)
  deriving DecidableEq, Repr

namespace RecordSet

/-- No record. -/
def empty : RecordSet := ⟨[]⟩

instance : Inhabited RecordSet := ⟨empty⟩

/-- Sets the record of a role, which keeps its place if it has one. -/
def put (role : RecordRole) (record : ArchiveRecord)
    : List (RecordRole × ArchiveRecord) → List (RecordRole × ArchiveRecord)
  | [] => [(role, record)]
  | (other, kept) :: rest =>
    if other == role then (role, record) :: rest else (other, kept) :: put role record rest

/-- Sets the record of a role. -/
def insert (records : RecordSet) (role : RecordRole) (record : ArchiveRecord) : RecordSet :=
  ⟨put role record records.entries⟩

/-- The record of a role. -/
def get? (records : RecordSet) (role : RecordRole) : Option ArchiveRecord :=
  (records.entries.find? (·.1 == role)).map (·.2)

/-- The principal record. -/
def principal? (records : RecordSet) : Option ArchiveRecord :=
  records.get? .principal

/-- Roles that are filled. -/
def size (records : RecordSet) : Nat :=
  records.entries.length

end RecordSet

end WebHarvest.Archive
