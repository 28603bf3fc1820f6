import HttpFetch.Fault
import HttpFetch.Tls.Root
import HttpFetch.Url.Read
/-!
# Why a transfer failed

A transfer that does not succeed ends with exactly one `TransferError`, which says what went wrong
and belongs to one of three classes.
-/

namespace HttpFetch

/-- What is wrong with the head of a response. -/
inductive HeadFault where
  /-- the first line ended before the version did -/
  | version
  | status (text : String)
  | contentLength (text : String)
  /-- any other fault, in words -/
  | described (text : String)
  deriving Repr, DecidableEq

/-- The wording of a fault in a head. -/
def HeadFault.message : HeadFault → String
  | .version => "status line ended inside the version"
  | .status text => "invalid status code '" ++ text ++ "'"
  | .contentLength text => "invalid Content-Length '" ++ text ++ "'"
  | .described text => text

/-- What is wrong with the means of TLS, before a handshake is tried. -/
inductive TlsFault where
  /-- a certificate to be trusted cannot be used -/
  | root (fault : Root.Fault)
  /-- any other fault, in words -/
  | described (text : String)
  deriving Repr, DecidableEq

/-- The wording of a fault in the means of TLS. -/
def TlsFault.message : TlsFault → String
  | .root fault => fault.message
  | .described text => "unexpected error: " ++ text

/-- Why a transfer ended without success. -/
inductive TransferError where
  /-- the address, or the target of a redirect, cannot be fetched -/
  | malformedUrl (error : UrlError)
  /-- no address of the peer could be reached -/
  | connection (target : String) (fault : Fault)
  /-- the proxy did not open the tunnel -/
  | proxyTunnel (proxy statusLine : String)
  | tlsHandshake (host : String) (fault : Fault)
  | tlsConfig (fault : TlsFault)
  | redirectLimitExceeded (limit : Nat)
  | missingRedirectLocation (status : UInt16)
  /-- the server blames the request -/
  | clientError (status : UInt16) (description : String)
  /-- the server blames itself -/
  | serverError (status : UInt16) (description : String)
  | streamRead (fault : Fault)
  | streamWrite (fault : Fault)
  | malformedResponse (fault : HeadFault)
  /-- the response ended inside its head -/
  | incompleteResponse
  /-- the response ended before its body was as long as announced -/
  | incompleteBody (expected received : Nat)
  /-- the body could not be stored -/
  | sinkIo (path : String) (fault : Fault)
  | cancelled
  /-- the transfer broke off through a fault in code called on the way -/
  | workerPanicked
  deriving Repr, DecidableEq

/-- Where a failure comes from. -/
inductive FailureClass where
  /-- the way to the server -/
  | transport
  /-- the response -/
  | protocol
  /-- this side: input, storage, cancellation -/
  | own
  deriving Repr, DecidableEq

namespace TransferError

/-- The wording of an error. -/
def message : TransferError → String
  | .malformedUrl error => error.message
  | .connection target fault => "unable to connect to " ++ target ++ ": " ++ fault.text
  | .proxyTunnel proxy statusLine => "proxy " ++ proxy ++ " refused tunnel: " ++ statusLine
  | .tlsHandshake host fault => "TLS handshake with " ++ host ++ " failed: " ++ fault.text
  | .tlsConfig fault => "invalid TLS configuration: " ++ fault.message
  | .redirectLimitExceeded limit => "redirected more than " ++ toString limit ++ " times"
  | .missingRedirectLocation status =>
    "HTTP " ++ toString status.toNat ++ " redirect without a Location header"
  | .clientError status description => "HTTP " ++ toString status.toNat ++ " " ++ description
  | .serverError status description => "HTTP " ++ toString status.toNat ++ " " ++ description
  | .streamRead fault => "error reading response: " ++ fault.text
  | .streamWrite fault => "error sending request: " ++ fault.text
  | .malformedResponse fault => "malformed response: " ++ fault.message
  | .incompleteResponse => "connection closed before the response headers were complete"
  | .incompleteBody expected received =>
    "connection closed after " ++ toString received ++ " of " ++ toString expected ++ " body bytes"
  | .sinkIo path fault => "error writing response body to " ++ path ++ ": " ++ fault.text
  | .cancelled => "transfer cancelled"
  | .workerPanicked => "transfer worker panicked"

/-- The class of an error. -/
def failureClass : TransferError → FailureClass
  | .connection .. | .proxyTunnel .. | .tlsHandshake .. | .streamRead _ | .streamWrite _
  | .incompleteResponse | .incompleteBody .. => .transport
  | .redirectLimitExceeded _ | .missingRedirectLocation _ | .clientError .. | .serverError ..
  | .malformedResponse _ => .protocol
  | .malformedUrl _ | .tlsConfig _ | .sinkIo .. | .cancelled | .workerPanicked => .own

/-- Whether an error lies on the way to the server. -/
def isTransport (e : TransferError) : Bool := e.failureClass == .transport

/-- Whether an error lies in the response. -/
def isProtocol (e : TransferError) : Bool := e.failureClass == .protocol

/-- The status that an error reports. -/
def status : TransferError → Option UInt16
  | .clientError status _ | .serverError status _ | .missingRedirectLocation status => some status
  | _ => none

end TransferError
end HttpFetch
