import DirectoryClient.Registry.Basic

/-!
# Which server holds a name

The server whose base context lies closest above a name answers for it.

* `Registry.bestContext`   the closest context among those of all servers;
* `Registry.candidates`    the servers with that context; if there is none, the configured servers
                           without a context;
* `Registry.route`         one of the candidates by a draw, the default server if there are none;
* `Registry.enrol`         the server that a URL means, which is new if no server covers the URL.
-/

namespace DirectoryClient

/-- A context of the same name ends the search; one above it counts if it lies below the best one so
far. -/
def closestContext (d : Dn) (best : Option Dn) : List Dn → Option Dn
  | [] => best
  | c :: rest =>
    if c.same d then some c
    else if c.isAncestorOf d && best.all c.isDescendantOf then closestContext d (some c) rest
    else closestContext d best rest

namespace Registry

/-- the contexts of the servers that have one -/
def contexts (r : Registry) : List Dn := r.records.filterMap (·.baseContext)

def bestContext (r : Registry) (d : Dn) : Option Dn := closestContext d none r.contexts

/-- whether a server may answer when `best` is the closest context -/
def isCandidate (best : Option Dn) (s : ServerRecord) : Bool :=
  match best with
  | some c => sameContext s.baseContext (some c)
  | none => s.baseContext.isNone && !s.isReferral

/-- the positions of the servers among which chance decides -/
def candidates (r : Registry) (d : Dn) : List Nat :=
  (List.range r.size).filter fun i => isCandidate (r.bestContext d) (r.server i).record

/-- Names that no schema has qualified belong to the default server. -/
def route (r : Registry) (d : Dn) (draw : Nat) : Nat :=
  if d.isQualified then
    let l := r.candidates d
    (l[draw % l.length]?).getD 0
  else 0

/-- the first server that covers a URL -/
def find? (r : Registry) (schema : Schema) (url : LdapUrl) : Option Nat :=
  r.records.findIdx? fun s => s.covers schema url

/-- the server for a URL and the registry with it -/
def enrol (r : Registry) (schema : Schema) (url : LdapUrl) : Nat × Registry :=
  match r.find? schema url with
  | some i => (i, r)
  | none => (r.size, r.push (.ofReferral schema r.first.record url))

end Registry

end DirectoryClient
