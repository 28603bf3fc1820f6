import HttpFetch.Url.Read
/-!
# Proxies

A proxy may be named for each scheme, by a variable in small letters or, where that one is missing or
blank, by the same in capitals.
-/

namespace HttpFetch

/-- The proxies in use, by the scheme of the address that is asked for. -/
structure Proxies where
  http : Option Url := none
  https : Option Url := none
  deriving DecidableEq

namespace Proxies

/-- The proxy for addresses of a scheme. -/
def forScheme (proxies : Proxies) : Scheme → Option Url
  | .http => proxies.http
  | .https => proxies.https

/-- The value of a variable, if it has one that is not blank. -/
def filled? (lookup : String → Option String) (name : String) : Option String :=
  (lookup name).filter (!Text.isAllBlank ·)

/-- The value that names a proxy: of the first variable, else of the second. -/
def setting? (lookup : String → Option String) (lower upper : String) : Option String :=
  (filled? lookup lower).or (filled? lookup upper)

/-- The address that a setting holds; one that cannot be read counts as none. -/
def address? (setting : Option String) : Option Url :=
  setting.bind fun text => (Url.read text).toOption

/-- The setting for addresses of a scheme. -/
def settingFor (lookup : String → Option String) : Scheme → Option String
  | .http => setting? lookup "http_proxy" "HTTP_PROXY"
  | .https => setting? lookup "https_proxy" "HTTPS_PROXY"

/-- The proxies that variables name. -/
def ofVariables (lookup : String → Option String) : Proxies where
  http := address? (settingFor lookup .http)
  https := address? (settingFor lookup .https)

/-- Whether a variable names a proxy that cannot be read. -/
def hasUnreadable (lookup : String → Option String) : Bool :=
  [Scheme.http, Scheme.https].any fun scheme =>
    let setting := settingFor lookup scheme
    setting.isSome && (address? setting).isNone

end Proxies
end HttpFetch
