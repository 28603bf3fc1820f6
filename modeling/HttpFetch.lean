import HttpFetch.CommandLine.Run
import HttpFetch.Main
import HttpFetch.Proofs.AbsoluteLocations
import HttpFetch.Proofs.AddressOrder
import HttpFetch.Proofs.BasicCredentials
import HttpFetch.Proofs.BodyLength
import HttpFetch.Proofs.Cancellation
import HttpFetch.Proofs.Chunking
import HttpFetch.Proofs.Confinement
import HttpFetch.Proofs.Disclosure
import HttpFetch.Proofs.EscapedCredentials
import HttpFetch.Proofs.FirstHop
import HttpFetch.Proofs.HeadGrammar
import HttpFetch.Proofs.LastHop
import HttpFetch.Proofs.Portions
import HttpFetch.Proofs.ProxyCredentials
import HttpFetch.Proofs.ReadBuffer
import HttpFetch.Proofs.RedirectBound
import HttpFetch.Proofs.RefusedBodies
import HttpFetch.Proofs.RequestReading
import HttpFetch.Proofs.RoundTrip
import HttpFetch.Proofs.StatusLine
import HttpFetch.Proofs.Storing
import HttpFetch.Proofs.TunnelCancellation
import HttpFetch.Proofs.TunnelReplies
import HttpFetch.Proofs.WholeBody
import HttpFetch.Transfer.Shown
