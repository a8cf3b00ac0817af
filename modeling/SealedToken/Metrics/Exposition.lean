import SealedToken.Metrics.Basic
import SealedToken.Number.Shortest
import SealedToken.Text.Encoding

/-!
The exposition text of metrics: for each family its help, its type, and a line for each sample.
-/

set_option autoImplicit false

namespace SealedToken.Exposition

/-- Letters, underscores and colons. -/
def isNameStart (c : CodePoint) : Bool :=
  let n := c.toNat
  (65 ≤ n && n ≤ 90) || (97 ≤ n && n ≤ 122) || c = '_' || c = ':'

def isNameChar (c : CodePoint) : Bool := isNameStart c || (48 ≤ c.toNat && c.toNat ≤ 57)

/-- Characters that no metric name may have become underscores, and so does a digit in front. -/
def sanitize : Text → Text
  | [] => []
  | first :: rest =>
    (if isNameStart first then first else '_') ::
      rest.map fun c => if isNameChar c then c else '_'

def escape (value : Text) : Text :=
  value.flatMap fun c : CodePoint =>
    if c = '\\' then ['\\', '\\'] else if c = '\n' then ['\\', 'n']
    else if c = '"' then ['\\', '"'] else [c]

/-- A positive value with more than six digits before its point has a two-digit exponent, behind a
mantissa without trailing zeros and point. -/
def number (x : Float) : Text :=
  match Binary64.ofFloat x with
  | .notANumber => "NaN"
  | .infinite negative => if negative then "-Inf" else "+Inf"
  | .finite .. =>
    let text := Shortest.write x
    match Text.cut '.' text with
    | (first :: whole, some fraction) =>
      if 0 < x && 6 ≤ whole.length then
        let mantissa : Text := first :: '.' :: (whole ++ fraction)
        (mantissa.reverse.dropWhile fun c : CodePoint => c = '0' || c = '.').reverse ++
          Shortest.exponentText 2 whole.length
      else text
    | _ => text

def label (name value : Text) : Text :=
  name ++ "=\"" ++ escape value ++ "\""

/-- One sample; labels stand between braces when there are any. -/
def sample (name : Text) (labels : List Text) (value : Float) : Text :=
  let shown : Text := if labels.isEmpty then [] else "\x7b" ++ Text.join ',' labels ++ "\x7d"
  name ++ shown ++ " " ++ number value ++ "\n"

def header (name help kind : Text) : Text :=
  "# HELP " ++ name ++ " " ++ help ++ "\n# TYPE " ++ name ++ " " ++ kind ++ "\n"

/-- How many durations fell into each bucket or one before it. -/
def cumulative (sum : Nat) : List Nat → List Nat
  | [] => []
  | count :: counts => (sum + count) :: cumulative (sum + count) counts

end Exposition

open Exposition in
/-- All families: tokens issued, verifications, and their durations. -/
def Metrics.exposition (metrics : Metrics) : Text :=
  let family := fun (suffix : Text) => sanitize (metrics.name ++ suffix)
  let issued := family "_tokens_issued_total"
  let outcomes := family "_verifications_total"
  let durations := family "_verification_duration_seconds"
  let reached := cumulative 0 metrics.durations.buckets
  let bounds := Durations.bounds ++ [1 / 0]
  header issued "Total number of tokens issued" "counter" ++
    metrics.issued.entries.flatMap (fun (mark, count) =>
      sample issued [label "prefix" mark] (Float.ofNat count)) ++
    header outcomes "Total number of verification attempts" "counter" ++
    metrics.outcomes.entries.flatMap (fun (outcome, count) =>
      sample outcomes [label "reason" outcome.reason, label "status" outcome.status]
        (Float.ofNat count)) ++
    header durations "Verification latency in seconds" "histogram" ++
    (bounds.zip reached).flatMap (fun (bound, count) =>
      sample (durations ++ "_bucket") [label "le" (number bound)] (Float.ofNat count)) ++
    sample (durations ++ "_count") [] (Float.ofNat (reached.getLastD 0)) ++
    sample (durations ++ "_sum") [] metrics.durations.total

/-- The exposition as it is served. A mark or a reason with a surrogate has no encoding. -/
def Metrics.published (metrics : Metrics) : Except EncodingFault Bytes :=
  Utf8.encode? metrics.exposition

end SealedToken
