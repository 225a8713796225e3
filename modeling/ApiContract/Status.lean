import ApiContract.Checked
import ApiContract.Text.Digit

/-!
# Response status

A response is keyed by a status code, by the digits of one, or by the symbol of
one.  `Status.resolve` gives the code; a text that is neither digits nor a
symbol fails with the closest symbol as a suggestion.
-/

namespace ApiContract.Status

/-- The symbols and their codes. -/
def codes : Entries String Int := [
  ("continue", 100), ("switching_protocols", 101), ("processing", 102), ("early_hints", 103),
  ("ok", 200), ("created", 201), ("accepted", 202), ("non_authoritative_information", 203),
  ("no_content", 204), ("reset_content", 205), ("partial_content", 206), ("multi_status", 207),
  ("already_reported", 208), ("im_used", 226),
  ("multiple_choices", 300), ("moved_permanently", 301), ("found", 302), ("see_other", 303),
  ("not_modified", 304), ("use_proxy", 305), ("temporary_redirect", 307),
  ("permanent_redirect", 308),
  ("bad_request", 400), ("unauthorized", 401), ("payment_required", 402), ("forbidden", 403),
  ("not_found", 404), ("method_not_allowed", 405), ("not_acceptable", 406),
  ("proxy_authentication_required", 407), ("request_timeout", 408), ("conflict", 409),
  ("gone", 410), ("length_required", 411), ("precondition_failed", 412),
  ("payload_too_large", 413), ("uri_too_long", 414), ("unsupported_media_type", 415),
  ("range_not_satisfiable", 416), ("expectation_failed", 417), ("im_a_teapot", 418),
  ("misdirected_request", 421), ("unprocessable_entity", 422), ("locked", 423),
  ("failed_dependency", 424), ("too_early", 425), ("upgrade_required", 426),
  ("precondition_required", 428), ("too_many_requests", 429),
  ("request_header_fields_too_large", 431), ("unavailable_for_legal_reasons", 451),
  ("internal_server_error", 500), ("not_implemented", 501), ("bad_gateway", 502),
  ("service_unavailable", 503), ("gateway_timeout", 504), ("http_version_not_supported", 505),
  ("variant_also_negotiates", 506), ("insufficient_storage", 507), ("loop_detected", 508),
  ("not_extended", 510), ("network_authentication_required", 511)]

/-- The failure of a text that names no status. -/
def unknown (text : String) : Failure :=
  .unknownStatus text codes.keys

/-- The code that digits write.  Digits that are not decimal, or too many of
them, write none. -/
def ofDigits (digits : List Char) : Except Failure Int :=
  if digits.length > Number.digitLimit then .error (.badValue .tooManyDigits)
  else
    match Text.decimalNumber? digits with
    | some n => .ok n
    | none => .error (.badValue .notDecimal)

/-- The code that a text names: by its digits, or as a symbol. -/
def ofText (text : String) : Except Failure Int :=
  let cs := text.toList
  if !cs.isEmpty && cs.all Text.isDigit then ofDigits cs
  else
    match codes.get? text with
    | some code => .ok code
    | none => .error (unknown text)

/-- The code of a response key.  A whole number is a code; a boolean is not. -/
def resolve : Value → Except Failure Int
  | .int n => .ok n
  | .bool b => (Value.bool b).shown.bind fun text => .error (unknown text)
  | v => v.shown.bind ofText

end ApiContract.Status
