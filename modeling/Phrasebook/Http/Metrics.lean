/-!
# Metrics

Two families are kept: how many requests there were, by method, path and status, and how many durations
were recorded, by method and path. How long the requests took is not kept: nothing in a session decides it.
-/

set_option autoImplicit false

namespace Phrasebook.Http

/-- The labels of a counted request. -/
structure Sample where
  /-- The method. -/
  method : String
  /-- The path, or that there was none. -/
  path : String
  /-- The status. -/
  status : Nat
deriving DecidableEq, Inhabited

/-- The requests counted so far, in order. -/
structure Metrics where
  /-- The requests. -/
  samples : List Sample := []
deriving Inhabited

namespace Metrics

/-- Counts a request. -/
def record (m : Metrics) (s : Sample) : Metrics := ⟨m.samples ++ [s]⟩

/-- The label of a path that is not there. -/
def unmatched : String := "unmatched"

/-- A label value between quotes. A backslash that escapes a quote or a backslash is not doubled. -/
def labelValue (s : String) : String :=
  go false s.toList ""
where
  go : Bool → List Char → String → String
    | held, [], acc => if held then acc ++ "\\\\" else acc
    | held, c :: rest, acc =>
      if c == '\n' then go held rest (acc ++ "\\n")
      else if c == '"' then go false rest (acc ++ "\\\"")
      else if c == '\\' then go (!held) rest (if held then acc ++ "\\\\" else acc)
      else go false rest ((if held then acc ++ "\\\\" else acc).push c)

/-- A label. -/
def label (name value : String) : String := name ++ "=\"" ++ labelValue value ++ "\""

/-- A line without its value. -/
def line (family : String) (labels : List String) : String :=
  family ++ "\x7b" ++ ",".intercalate labels ++ "\x7d"

/-- The two lines to which a request belongs. -/
def lines (s : Sample) : List String :=
  let shared := [label "method" s.method, label "path" s.path]
  [line "http_request_duration_seconds_count" shared,
    line "http_requests_total" (shared ++ [label "status" (toString s.status)])]

/-- Counts up a line in a list kept in order. -/
def tally (name : String) : List (String × Nat) → List (String × Nat)
  | [] => [(name, 1)]
  | (n, k) :: rest =>
    if name < n then (name, 1) :: (n, k) :: rest
    else if name == n then (n, k + 1) :: rest
    else (n, k) :: tally name rest

/-- All lines with their counts, in order. -/
def counts (m : Metrics) : List (String × Nat) :=
  (m.samples.flatMap lines).foldl (fun acc name => tally name acc) []

/-- What the page that is exposed says of the counts. The page has more lines, which are left out here: the type of
each family, and for each method and path the sum and the quantiles of the durations, which come from a clock outside
of the session. -/
def expose (m : Metrics) : String :=
  String.join (m.counts.map fun (name, k) => name ++ " " ++ toString k ++ "\n")

end Metrics

end Phrasebook.Http
