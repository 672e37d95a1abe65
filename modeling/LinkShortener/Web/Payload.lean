import LinkShortener.Json.Reader
import LinkShortener.Link.Basic
import LinkShortener.Web.Request

/-!
Requests for a link in the body of a web request. A body must be announced as JSON: its content
type, parameters left aside, is in the main type `application` and its subtype is `json` or
ends in `+json`, in any case.
-/

namespace LinkShortener.Web

/-- Why a body holds no request for a link. -/
inductive PayloadFlaw
  /-- it is not announced as JSON, no document, or no such record -/
  | refused
  /-- it is no text, or asks for too much -/
  | unreadable
  deriving DecidableEq, Repr

namespace Payload

/-- The content type without its parameters, in lower case. -/
def mediaType (contentType : String) : List Char :=
  (Text.trimChars (Text.upTo ';' contentType.toList)).map Char.toLower

/-- Whether a content type announces JSON. -/
def announcesJson (contentType : String) : Bool :=
  match (mediaType contentType).splitOn '/' with
  | [main, sub] =>
    main == "application".toList && (sub == "json".toList || "+json".toList.isSuffixOf sub)
  | _ => false

/-- A text in which every half of a surrogate pair is written as an escape; two of them, so that
neither side can complete it to a pair. After a backslash that waits for its letter it is a letter
of no escape, as half a pair would be. -/
def escaped (waiting : Bool) : List (Option Char) → List Char
  | [] => []
  | some c :: rest => c :: escaped (c == '\\' && !waiting) rest
  | none :: rest => (if waiting then ['x'] else "\\ud800\\ud800".toList) ++ escaped false rest

/-- The request for a link in a body. -/
def linkRequest (r : Request) : Except PayloadFlaw LinkRequest :=
  if r.body.isEmpty || !((r.header? "content-type").any announcesJson) then .error .refused
  else
    match Text.Encoded.read? r.body with
    | none => .error .unreadable
    | some characters =>
      match Json.read .body (String.ofList (escaped false characters)) with
      | .error .excessive => .error .unreadable
      | .error .malformed => .error .refused
      | .ok document => (LinkRequest.ofJson document).mapError fun _ => .refused

end Payload

end LinkShortener.Web
