import DirectoryClient.Dn.Basic
import DirectoryClient.Request

/-!
# Options of a search

* `SearchOptions`              what one search does about limits, referrals and failures;
* `SearchOptions.ofConfig`     the options that a configuration gives;
* `SearchOptions.request`      the request for a base name.
-/

namespace DirectoryClient

structure SearchOptions where
  /-- a search cut off by a size limit ends with what it found -/
  allowPartialResults : Bool := false
  referralStrategy : ReferralStrategy := .follow
  sizeLimit : Int32 := 0
  timeLimit : Int32 := 0
  /-- in seconds -/
  operationTimeout : Option UInt64 := none
  retry : RetryPolicy := {}

namespace SearchOptions

def ofConfig (c : Config) : SearchOptions where
  allowPartialResults := c.allowPartialResults
  referralStrategy := c.referralStrategy
  sizeLimit := c.sizeLimit
  timeLimit := c.timeLimit
  operationTimeout := c.timeouts.operation?
  retry := c.retry

def request (o : SearchOptions) (base : Dn) (filter : String) (scope : Scope)
    (attributes : List String) : SearchRequest where
  base := base.text
  scope := scope
  filter := filter
  attributes := attributes
  sizeLimit := o.sizeLimit
  timeLimit := o.timeLimit
  timeout := o.operationTimeout

end SearchOptions

end DirectoryClient
