import PageCheck.Text.Utf8
import PageCheck.Url

/-!
# Responses

What comes back when a page is asked for: a failure, a status with a body, or nothing at all. The
pages at hand are a finite table; what is not in it fails, either because its URL cannot be asked
for or because there is no network.
-/

namespace PageCheck

/-- A sort of failures: its name, and as what else its failures count. -/
structure FailureKind where
  /-- The name that stands in for an empty description. -/
  name : String
  /-- The time ran out. -/
  isTimeout : Bool := false
  /-- The request did not get through. -/
  isClient : Bool := false
  /-- Bytes are no text. -/
  isDecoding : Bool := false
  /-- What its failures say of themselves where nothing else is said of them. -/
  standing : String := ""
  name_ne_empty : name ≠ "" := by decide
deriving DecidableEq, Repr

namespace FailureKind

def client : FailureKind := { name := "ClientError", isClient := true }

def connection : FailureKind := { name := "ClientConnectionError", isClient := true }

def disconnected : FailureKind where
  name := "ServerDisconnectedError"
  isClient := true
  standing := "Server disconnected"

def payload : FailureKind := { name := "ClientPayloadError", isClient := true }

def address : FailureKind := { name := "InvalidUrlClientError", isClient := true }

/-- The server let the time run out. -/
def serverTimeout : FailureKind where
  name := "ServerTimeoutError"
  isTimeout := true
  isClient := true

def timeout : FailureKind := { name := "TimeoutError", isTimeout := true }

def decoding : FailureKind := { name := "UnicodeDecodeError", isDecoding := true }

/-- A codec gives up as a whole, without a byte to blame. -/
def codec : FailureKind := { name := "UnicodeError" }

def system : FailureKind := { name := "OSError" }

def value : FailureKind := { name := "ValueError" }

def runtime : FailureKind := { name := "RuntimeError" }

/-- Failures that have nothing to do with the request; they are not dealt with. -/
def isForeign (kind : FailureKind) : Bool := !(kind.isTimeout || kind.isClient || kind.isDecoding)

end FailureKind

structure Failure where
  kind : FailureKind
  /-- What it was described as, if it was. -/
  description : Option String
deriving DecidableEq, Repr

namespace Failure

def text (f : Failure) : String := f.description.getD f.kind.standing

/-- A number is to be written that is too long for it. -/
def longNumber : Failure := ⟨.value, some (Text.longNumberMessage none)⟩

def ofDecoding (fault : Text.DecodeFault) : Failure := ⟨.decoding, some fault.message⟩

end Failure

inductive Body where
  | text (s : String)
  | bytes (octets : List UInt8) (charset : Text.Charset)
  /-- A body that cannot be read: it breaks off, or nothing is known of how it is written. -/
  | broken (failure : Failure)
deriving DecidableEq, Repr

def Body.read : Body → Except Failure String
  | text s => .ok s
  | bytes octets charset => (charset.decode octets).mapError .ofDecoding
  | broken failure => .error failure

/-- A body whose server says that its characters are of the set `undefined`, which reads nothing. -/
def Body.undefined : Body :=
  .broken ⟨.codec, some "decoding with 'undefined' codec failed (UnicodeError: undefined encoding)"⟩

inductive Response where
  | failure (failure : Failure)
  /-- No answer ever comes. -/
  | silence
  | answer (status : Int) (body : Body)
deriving DecidableEq, Repr

structure Pages where
  entries : List (String × Response)

namespace Pages

def none : Pages := ⟨[]⟩

def answer (pages : Pages) (url : String) : Response :=
  match pages.entries.find? (·.1 == url) with
  | some (_, response) => response
  | Option.none =>
    match Url.refusal? url with
    | some text => .failure ⟨.address, some text⟩
    | Option.none => .failure ⟨.connection, some "no network"⟩

end Pages

end PageCheck
