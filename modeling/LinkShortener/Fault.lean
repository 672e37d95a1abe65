import LinkShortener.Datum
import LinkShortener.Record.Flaw

/-!
Why an operation of the service fails. A fault names its cause; its family decides how the
outside world is told about it, and its message is the text people read. Outages are the
causes that come from the machinery below the service and carry the text they were met with.
-/

namespace LinkShortener

/-- A failure of the machinery below the service. -/
inductive Outage
  | keyValue
  | database
  | databaseConflict
  | connection
  | bus
  | busTimeout
  | columns
  | columnsMisuse
  | refusal
  | crash
  deriving DecidableEq, Repr

/-- What the catalog of links was doing. -/
inductive CatalogTask
  | insert (token : String)
  | read (token : String)
  | update (token : String)
  | delete (token : String)
  | lastId
  deriving DecidableEq, Repr

/-- What was done to a copy. -/
inductive CopyTask
  | fill (token : String)
  | drop (token : String)
  deriving DecidableEq, Repr

/-- What the id counter was doing. -/
inductive CounterTask
  | seed
  | advance (key : String)
  deriving DecidableEq, Repr

/-- What the publisher was doing. -/
inductive PublisherTask
  | idle
  | publish (token : String)
  deriving DecidableEq, Repr

/-- What the store of clicks was doing. -/
inductive ClickTask
  | create
  | store (event : String)
  | tally (token : String)
  deriving DecidableEq, Repr

/-- Why an address has no place. -/
inductive Unplaced
  | absent (address : String)
  | malformed (address : String)
  | unreadable (address : String)
  | wrongTree (address : String)
  deriving DecidableEq, Repr

/-- Why an address names no host and port. -/
inductive EndpointFlaw
  | bracket
  | notAddress (host : String)
  | futureAddress
  | fourInBrackets
  | hiddenDelimiter (authority : String)
  | portText (text : String)
  | portLength (flaw : Numeral.Oversized)
  | portRange
  deriving DecidableEq, Repr

/-- The cause of a failed operation. -/
inductive Fault
  | emptyToken
  | strayCharacter (c : Char) (token : String)
  | malformedEvent (sample : List UInt8)
  | invalidUrl (url : String)
  | unsupportedScheme (scheme : String)
  | unknownUrl (token : String)
  | unknownToken (token : String)
  | notCopied (token : String)
  | noClicks (token : String)
  | duplicateLink (id : Int) (token : String)
  | catalog (task : CatalogTask)
  | copies (task : CopyTask)
  | counter (task : CounterTask)
  | publisher (task : PublisherTask)
  | clicks (task : ClickTask)
  | unplaced (address : String) (why : Unplaced)
  | outage (kind : Outage) (text : String)
  | negativeId (id : Int)
  | idOutOfRange
  | notPlaceAtlas (kind : String)
  | nullInAddress
  | endpoint (flaw : EndpointFlaw)
  | datum (flaw : DatumFlaw)
  | oversized (flaw : Numeral.Oversized)
  | unfitGroups (groups : List (String × Cell))
  | unfitRecord (flaws : List Record.Flaw)
  | unknownLevel (name : String)
  | unbuilt
  | interrupted (cause : Fault)
  | cancelled
  deriving DecidableEq, Repr

/-- How a fault is reported: what the caller sent is refused, what was asked for is absent,
what was made exists already, a part of the service is unavailable, or the fault is foreign to
the service and passes through it. -/
inductive Family
  | refusal
  | absence
  | conflict
  | unavailability
  | foreign
  deriving DecidableEq, Repr

def CatalogTask.text : CatalogTask → String
  | .insert token => s!"inserting mapping {token}"
  | .read token => s!"reading mapping {token}"
  | .update token => s!"updating mapping {token}"
  | .delete token => s!"deleting mapping {token}"
  | .lastId => "getting last mapping id"

def CopyTask.text : CopyTask → String
  | .fill token => s!"caching token {token}"
  | .drop token => s!"deleting cached token {token}"

def CounterTask.text : CounterTask → String
  | .seed => "setting mapping count in redis"
  | .advance key => s!"incrementing {key}"

def PublisherTask.text : PublisherTask → String
  | .idle => "Kafka producer is not running"
  | .publish token => s!"publishing stats event for {token}"

def ClickTask.text : ClickTask → String
  | .create => "creating stats_events table"
  | .store event => s!"storing stats event {event}"
  | .tally token => s!"aggregating statistics for {token}"

def Unplaced.text : Unplaced → String
  | .absent address => s!"The address {address} is not in the database."
  | .malformed address => s!"'{address}' does not appear to be an IPv4 or IPv6 address."
  | .unreadable address =>
      s!"{Text.Quoted.text address} does not appear to be an IPv4 or IPv6 address"
  | .wrongTree address =>
      s!"Error looking up {address}. You attempted to look up an IPv6 address in an IPv4-only database"

def EndpointFlaw.text : EndpointFlaw → String
  | .bracket => "Invalid IPv6 URL"
  | .notAddress host => s!"{Text.Quoted.text host} does not appear to be an IPv4 or IPv6 address"
  | .futureAddress => "IPvFuture address is invalid"
  | .fourInBrackets => "An IPv4 address cannot be in brackets"
  | .hiddenDelimiter authority =>
      s!"netloc '{authority}' contains invalid characters under NFKC normalization"
  | .portText text => s!"Port could not be cast to integer value as {Text.Quoted.text text}"
  | .portLength flaw => flaw.text
  | .portRange => "Port out of range 0-65535"

namespace Fault

def message : Fault → String
  | emptyToken => "Token must not be empty"
  | strayCharacter c token =>
      s!"Invalid token character {Text.Quoted.char c} in {Text.Quoted.text token}"
  | malformedEvent sample => s!"Malformed stats event payload: {Text.Quoted.bytes sample}"
  | invalidUrl url => s!"Invalid url provided: {url}"
  | unsupportedScheme scheme => s!"Unsupported URL scheme: {scheme}"
  | unknownUrl token => s!"No url found for token {token}"
  | unknownToken token => s!"No mapping with token {token} found"
  | notCopied token => s!"URL token not found in cache: {token}"
  | noClicks token => s!"No statistics found for url token: {token}"
  | duplicateLink id token => s!"Mapping with id {id} or token {token} already exists"
  | catalog task => task.text
  | copies task => task.text
  | counter task => task.text
  | publisher task => task.text
  | clicks task => task.text
  | unplaced address _ => s!"locating ip {Text.Quoted.text address}"
  | outage _ text => text
  | negativeId id => s!"Mapping id must be non-negative, got {id}"
  | idOutOfRange => "The id does not fit the column"
  | notPlaceAtlas kind => s!"The city method cannot be used with the {kind} database"
  | nullInAddress => "argument 1 contains an embedded null character"
  | endpoint flaw => flaw.text
  | datum flaw => flaw.text
  | oversized flaw => flaw.text
  | unfitGroups _ => "The values of a group must be texts"
  | unfitRecord _ => "The record has flaws"
  | unknownLevel name => s!"Unknown level: {Text.Quoted.text name}"
  | unbuilt => "The part is not built"
  | interrupted cause => cause.message
  | cancelled => ""

def family : Fault → Family
  | emptyToken | strayCharacter .. | malformedEvent _ | invalidUrl _ | unsupportedScheme _
  | outage .refusal _ => .refusal
  | unknownUrl _ | unknownToken _ | notCopied _ | noClicks _ => .absence
  | duplicateLink .. => .conflict
  | catalog _ | copies _ | counter _ | publisher _ | clicks _ | unplaced .. => .unavailability
  | _ => .foreign

/-- A failure of the relational database, or of the connection to it. -/
def isDatabaseOutage : Fault → Bool
  | outage .database _ | outage .databaseConflict _ | outage .connection _ => true
  | _ => false

/-- A key conflict found by the relational database. -/
def isKeyConflict : Fault → Bool
  | outage .databaseConflict _ => true
  | _ => false

/-- A failure of the key-value server. -/
def isKeyValueOutage : Fault → Bool
  | outage .keyValue _ => true
  | _ => false

/-- A failure of the message bus. -/
def isBusOutage : Fault → Bool
  | outage .bus _ | outage .busTimeout _ => true
  | _ => false

/-- A failure of the copies. -/
def isCopyFault : Fault → Bool
  | copies _ => true
  | _ => false

/-- The absence of a copy. -/
def isCopyAbsence : Fault → Bool
  | notCopied _ => true
  | _ => false

/-- A failure of the column store, or of the connection to it. -/
def isColumnOutage : Fault → Bool
  | outage .columns _ | outage .columnsMisuse _ | outage .connection _ => true
  | _ => false

end Fault

end LinkShortener
