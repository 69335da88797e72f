import TenantStore.Text.Decimal

namespace TenantStore

/-!
# Problems

Why an operation on a store failed. A problem is kept as its cause;
`Problem.kind` sorts the causes into three kinds and `Problem.message` words
them. Of what a storage layer reports only the layer is kept, because the
wording of its reports is its own.
-/

/-- What a search looks for. -/
inductive Subject where
  | account
  | user
  | peer
  | peerId
  | peerKey
  | setupKey
  | privateDomain
  | hashedToken
  | token
  deriving Repr, DecidableEq

/-- The noun of a subject in messages. -/
def Subject.name : Subject → String
  | .account => "account"
  | .user => "user"
  | .peer => "peer"
  | .peerId => "peer ID"
  | .peerKey => "peer key"
  | .setupKey => "setup key"
  | .privateDomain => "private domain"
  | .hashedToken => "hashed token"
  | .token => "token"

/-- A layer of storage that can fail on its own account. -/
inductive StorageLayer where
  | files
  | document
  | binary
  | database
  deriving Repr, DecidableEq

/-- The name of a layer in messages. -/
def StorageLayer.name : StorageLayer → String
  | .files => "I/O"
  | .document => "JSON"
  | .binary => "bincode"
  | .database => "sqlite"

/-- Numbers that may be too large for a column. -/
inductive WideNumber where
  | timestamp
  | networkSerial
  deriving Repr, DecidableEq

/-- The noun of a wide number in messages. -/
def WideNumber.name : WideNumber → String
  | .timestamp => "timestamp"
  | .networkSerial => "network serial"

namespace Problem

/-- The three kinds of problems. -/
inductive Kind where
  /-- The caller gave an argument that cannot be used; nothing was changed. -/
  | invalidArgument
  /-- What was asked for is not there. -/
  | notFound
  /-- The storage failed. -/
  | internal
  deriving Repr, DecidableEq

namespace Kind

/-- How the messages of a kind begin. -/
def heading : Kind → String
  | .invalidArgument => "Invalid argument"
  | .notFound => "Not found"
  | .internal => "Internal error"

/-- The name of a kind. -/
def name : Kind → String
  | .invalidArgument => "InvalidArgument"
  | .notFound => "NotFound"
  | .internal => "Internal"

/-- The message of a kind with a detail. -/
def describe (kind : Kind) (detail : String) : String :=
  kind.heading ++ ": " ++ detail

end Kind

end Problem

/-- Why an operation on a store failed. -/
inductive Problem where
  | emptyAccountId
  | unknownEngine (name : String)
  /-- A number does not fit a column. -/
  | tooWide (number : WideNumber) (value : UInt64)
  | notFound (subject : Subject) (key : String)
  /-- A query that must answer a row answered none. -/
  | noRows
  /-- A storage layer failed, perhaps with a report worth keeping. -/
  | storage (layer : StorageLayer) (report : Option String)
  /-- Two peers of one account have one address. -/
  | addressTaken
  /-- An address is stored in a number of bytes that no address has. -/
  | addressLength (length : Nat)
  /-- A binary cell does not decode. -/
  | undecodable (table column : String) (row : Int)
  deriving Repr, DecidableEq

namespace Problem

/-- The kind of a problem. -/
def kind : Problem → Kind
  | .emptyAccountId => .invalidArgument
  | .unknownEngine _ => .invalidArgument
  | .tooWide _ _ => .invalidArgument
  | .notFound _ _ => .notFound
  | .noRows => .notFound
  | .storage _ _ => .internal
  | .addressTaken => .internal
  | .addressLength _ => .internal
  | .undecodable _ _ _ => .internal

/-- What a message says behind its heading. -/
def detail : Problem → String
  | .emptyAccountId => "account id should not be empty"
  | .unknownEngine name => "unknown store engine '" ++ name ++ "'"
  | .tooWide number value =>
      number.name ++ " " ++ Text.showNat value.toNat
        ++ " does not fit a sqlite integer"
  | .notFound subject key => subject.name ++ " " ++ key ++ " not found"
  | .noRows => "query returned no rows"
  | .storage layer none => layer.name
  | .storage layer (some report) => layer.name ++ ": " ++ report
  | .addressTaken =>
      "sqlite: UNIQUE constraint failed: peers.account_id, peers.ip"
  | .addressLength length =>
      "invalid IP address length " ++ Text.showNat length
  | .undecodable table column row =>
      "decode " ++ table ++ "." ++ column ++ " row " ++ Text.showInt row

/-- The message of a problem. -/
def message (problem : Problem) : String :=
  problem.kind.describe problem.detail

/-- The files could not be read or written. -/
def files : Problem :=
  .storage .files none

/-- A document does not decode. -/
def document : Problem :=
  .storage .document none

/-- The database refused a statement, or a cell does not read. -/
def database : Problem :=
  .storage .database none

end Problem

end TenantStore
