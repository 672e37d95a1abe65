import LinkShortener.Fault
import LinkShortener.Text.Lower
import LinkShortener.Url.Split

/-!
The endpoint that an address names: the host in lower case and the port. A host in brackets
loses them, userinfo is passed over, an empty host is none, and an empty port text is none.
-/

namespace LinkShortener

structure Endpoint where
  host : Option String
  port : Option Nat
  deriving DecidableEq, Repr

namespace Endpoint

open Url

/-- What is wrong with an address that cannot be split. -/
def ofSplitFlaw : SplitFlaw → EndpointFlaw
  | .bracket => .bracket
  | .notAddress host => .notAddress (String.ofList host)
  | .futureAddress => .futureAddress
  | .fourInBrackets => .fourInBrackets
  | .hiddenDelimiter authority => .hiddenDelimiter (String.ofList authority)

/-- The texts of the host and of the port in an authority. -/
def texts (authority : List Char) : List Char × List Char :=
  let rest := afterLast '@' authority
  if rest.contains '[' then
    let (host, after) := cut ']' (cut '[' rest).2
    (host, (cut ':' after).2)
  else cut ':' rest

def host? (text : List Char) : Option String :=
  if text.isEmpty then none
  else
    let (name, zone) := text.span (· != '%')
    some (String.ofList (Text.lower name ++ zone))

def port? (text : List Char) : Except EndpointFlaw (Option Nat) :=
  if text.isEmpty then .ok none
  else if !text.all Char.isDigit then .error (.portText (String.ofList text))
  else
    match Numeral.oversized? text with
    | some flaw => .error (.portLength flaw)
    | none =>
      if Net.decimal text ≤ 65535 then .ok (some (Net.decimal text)) else .error .portRange

def ofUrl (url : String) : Except EndpointFlaw Endpoint := do
  let parts ← (split url.toList).mapError ofSplitFlaw
  let (host, port) := texts parts.authority
  return ⟨host? host, ← port? port⟩

end Endpoint

end LinkShortener
