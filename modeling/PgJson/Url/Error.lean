import PgJson.Text.Digits
import PgJson.Text.Quoted
import PgJson.Text.Utf8

namespace PgJson

inductive UrlError where
  | relative
  | invalidPort
  | emptyHost
  | invalidIpv4
  | invalidIpv6
  | invalidDomain
  | invalidInternationalDomain
  | utf8 (fault : Utf8.Fault)
  | numeral (fault : Text.NumeralFault)
  | addressSyntax
  | sslMode (given : String)
  deriving DecidableEq, Repr

namespace UrlError

def chain : UrlError → List String
  | relative => ["relative URL without a base"]
  | invalidPort => ["invalid port number"]
  | emptyHost => ["empty host"]
  | invalidIpv4 => ["invalid IPv4 address"]
  | invalidIpv6 => ["invalid IPv6 address"]
  | invalidDomain => ["invalid domain character"]
  | invalidInternationalDomain => ["invalid international domain name"]
  | utf8 fault => [fault.message]
  | numeral fault => [fault.message]
  | addressSyntax => ["invalid IP address syntax"]
  | sslMode given =>
    let text := "unknown value " ++ Text.quoted given ++ " for `ssl_mode`"
    ["error with configuration: " ++ text, text]

def message (e : UrlError) : String := e.chain.headD ""

end UrlError
end PgJson
