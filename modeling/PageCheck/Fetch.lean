import PageCheck.Fetch.Response
import PageCheck.Log.Record

/-!
# Fetching pages

One request per page. A status outside the two hundreds and every failure of the request become an
error about the URL; failures of other kinds pass through. So does the failure to write a status.
-/

namespace PageCheck

structure Page where
  url : String
  content : String
  status : Int
deriving DecidableEq, Repr

structure FetchError where
  url : String
  reason : String
  /-- The status of the response, if it was the reason. -/
  status : Option Int
deriving DecidableEq, Repr

namespace FetchError

def message (e : FetchError) : String := "Failed to load " ++ e.url ++ ": " ++ e.reason

def ofStatus (url : String) (status : Int) : FetchError :=
  ⟨url, "status code: " ++ toString status, some status⟩

def timedOut (url : String) : FetchError := ⟨url, "timed out", none⟩

/-- An error described by a text, or by a name if the text is empty. -/
def described (url text name : String) : FetchError :=
  ⟨url, if text = "" then name else text, none⟩

end FetchError

inductive FetchStop where
  | failed (error : FetchError)
  | escaped (failure : Failure)
  | silence
deriving DecidableEq, Repr

namespace Fetch

def isSuccess (status : Int) : Bool := 200 ≤ status && status ≤ 299

/-- What a failure means for the page at a URL. A failure of time counts as that whatever else it is. -/
def stopOf (url : String) (failure : Failure) : FetchStop :=
  if failure.kind.isTimeout then .failed (.timedOut url)
  else if failure.kind.isForeign then .escaped failure
  else .failed (.described url failure.text failure.kind.name)

/-- What a status outside the two hundreds means. -/
def stopOfStatus (url : String) (status : Int) : FetchStop :=
  if Text.isLong status then .escaped .longNumber
  else .failed (.ofStatus url status)

def outcome (url : String) : Response → Except FetchStop Page
  | .silence => .error .silence
  | .failure failure => .error (stopOf url failure)
  | .answer status body =>
    if isSuccess status then
      match body.read with
      | .ok text => .ok ⟨url, text, status⟩
      | .error failure => .error (stopOf url failure)
    else .error (stopOfStatus url status)

end Fetch

def fetch (pages : Pages) (url : String) : Logged (Except FetchStop Page) :=
  ⟨Fetch.outcome url (pages.answer url), [⟨.debug, "GET " ++ url⟩]⟩

end PageCheck
