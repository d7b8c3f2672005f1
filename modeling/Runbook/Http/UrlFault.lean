import Runbook.Text.Quoted

namespace Runbook.Http

inductive UrlFault where
  | tooLong
  | partTooLong (name : String)
  /-- A control character of ASCII, and how many characters stand before it. -/
  | unprintable (c : Char) (place : Nat)
  | ipv4 (host : String)
  | ipv6 (host : String)
  | hostName (host : String)
  | port (text : String)
  | unrootedPath
  | doubleSlash
  | leadingColon
  /-- A connection was refused for its URL. -/
  | refused (message : String)
deriving DecidableEq, Repr

def UrlFault.message : UrlFault → String
  | tooLong => "URL too long"
  | partTooLong name => "URL component '" ++ name ++ "' too long"
  | unprintable c place =>
    "Invalid non-printable ASCII character in URL, " ++ Text.quoted (String.ofList [c]) ++
      " at position " ++ toString place ++ "."
  | ipv4 host => "Invalid IPv4 address: " ++ Text.quoted host
  | ipv6 host => "Invalid IPv6 address: " ++ Text.quoted host
  | hostName host => "Invalid IDNA hostname: " ++ Text.quoted host
  | port text => "Invalid port: " ++ Text.quoted text
  | unrootedPath => "For absolute URLs, path must be empty or begin with '/'"
  | doubleSlash => "Relative URLs cannot have a path starting with '//'"
  | leadingColon => "Relative URLs cannot have a path starting with ':'"
  | refused message => message

end Runbook.Http
