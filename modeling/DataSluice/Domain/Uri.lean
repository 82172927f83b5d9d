/-
# URIs for display

`sanitize_uri` drops user information and the values of sensitive query parameters from a
URI. What it returns is put together again from the parts of the URI, so it may also write
the same URI in another way.
-/

import DataSluice.Lib.Url

namespace DataSluice.Domain

open DataSluice.Lib.Url

/-- `_SENSITIVE_QUERY_KEYS` -/
def sensitiveQueryKeys : List String :=
  ["api_key", "apikey", "token", "access_token", "refresh_token", "secret", "signature",
    "credential", "password", "x-api-key", "x-api-token", "x-auth-token", "sig",
    "x-amz-signature", "x-amz-credential", "x-amz-security-token", "x-goog-signature",
    "x-goog-credential"]

/-- `_REDACTED` -/
def redacted : Text := "***".toList

variable (unicode : UnicodeData)

/-- `_netloc_without_userinfo` -/
def netlocWithoutUserinfo (parts : SplitResult) : Text :=
  match parts.hostname unicode with
  | none => (rpartition '@' parts.netloc).2.2
  | some host =>
      let hostname := if host.contains ':' then '[' :: host ++ [']'] else host
      match parts.port with
      | .ok (some port) => hostname ++ ':' :: (Nat.repr port).toList
      | _ => hostname

/-- `_redacted_query` -/
def redactedQuery (query : Text) : Text :=
  if query = [] then []
  else
    urlencode ['*'] ((parseQsl query).map fun pair =>
      (pair.1, if isOneOf sensitiveQueryKeys (unicode.lower pair.1) then redacted else pair.2))

/-- `sanitize_uri` -/
def sanitizeUri (uri : String) : String :=
  match urlsplit unicode uri.toList with
  | .error _ => uri
  | .ok parts =>
      if parts.scheme = [] then uri
      else
        String.ofList (urlunsplit
          { scheme := parts.scheme
            netloc := netlocWithoutUserinfo unicode parts
            path := parts.path
            query := redactedQuery unicode parts.query
            fragment := parts.fragment })

end DataSluice.Domain
