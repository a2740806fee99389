import TypedQuery.Registry
import TypedQuery.Key

/-!
# Reading a query

A query comes at the end of a path, after the query separator.  Text without the
separator is a query as a whole.  The query is a list of *pairs*, each a key and
a value.

Reading a query forgets what was read before and then feeds the pairs, in their
order, to the parameters they name.

* A key that is not in normal form stops the reading.
* A key that names no parameter is skipped.
* A value that is not accepted stops the reading.  What its parameter keeps of
  the value is up to the rule.

A parameter that is given more than once keeps the last value.
-/

namespace TypedQuery

namespace Settings

/-- The query in an input: what follows the first query separator, or all of it if there
is none. -/
def queryText (s : Settings) (input : String) : String :=
  match Text.cut? s.querySeparator input with
  | some (_, query) => query
  | none => input

/-- The pairs of a query.  A piece without a value separator is no pair and is left
out. -/
def pairs (s : Settings) (query : String) : List (String × String) :=
  (Text.pieces s.pairSeparator query).filterMap (Text.cut? s.valueSeparator)

/-- The written form of a pair. -/
def writePair (s : Settings) (pair : String × String) : String :=
  pair.1 ++ String.singleton s.valueSeparator ++ pair.2

/-- The written form of a query. -/
def writeQuery (s : Settings) (pairs : List (String × String)) : String :=
  Text.joined s.pairSeparator (pairs.map s.writePair)

end Settings

namespace Registry

/-- Reads the text of a value for the parameter with a name.  Nothing happens if there is
no such parameter. -/
def readValue (r : Registry) (name text : String) : Except QueryError Unit × Registry :=
  match r.index[name]? with
  | none => (.ok (), r)
  | some position =>
    match r.parameters[position]? with
    | none => (.ok (), r)
    | some p =>
      match p.read text with
      | (result, p) => (result, { r with parameters := r.parameters.setIfInBounds position p })

/-- Feeds pairs to the parameters they name, up to the first error. -/
def feed (r : Registry) : List (String × String) → Except QueryError Unit × Registry
  | [] => (.ok (), r)
  | (key, text) :: rest =>
    if Key.isNormal key then
      match r.readValue key text with
      | (.ok (), r) => r.feed rest
      | (.error e, r) => (.error e, r)
    else (.error (.badKey key), r)

/-- Reads a query. -/
def read (r : Registry) (input : String) : Except QueryError Unit × Registry :=
  if r.isEmpty then (.error .noParameters, r)
  else
    let query := r.settings.queryText input
    if query.isEmpty then (.error .noQuery, r.reset)
    else r.reset.feed (r.settings.pairs query)

end Registry

end TypedQuery
