import PageCheck.Config

/-!
# Sessions

What all requests of a run have in common follows from the configuration.
-/

namespace PageCheck

structure Session where
  /-- How many seconds a request may take in all. -/
  total : Binary64
  headers : List (String × String)
deriving Repr

def Config.session (config : Config) : Session :=
  ⟨config.timeout, [("User-Agent", config.userAgent)]⟩

end PageCheck
