import BackendRegistrar.Proofs.Records
import BackendRegistrar.Proofs.Signing
import BackendRegistrar.Proofs.Synchronization
import BackendRegistrar.Proofs.Transport

/-! The requests of a synchronization over the network: the set is read, then it is updated at most
once, and then only the status of the work is asked for. What is sent, and what comes of it, depends
on the replies alone. That is so exactly as long as no reply makes the client go on elsewhere. -/

namespace BackendRegistrar.Cloud
open Program Client
open Http (Sending sendings)

variable {c : Client} {short : Trace service} {trace : Trace Http.network} {result : Except CloudError Unit}

section Translated

theorem Unfinished.congr {answer other : Except CloudError OperationStatus} (goesOn : Unfinished answer)
    (same : answer.toOption = other.toOption) : Unfinished other := by
  obtain ⟨status, rfl, final⟩ := goesOn
  exact ⟨status, ok_of_toOption same.symm, final⟩

end Translated

variable {tracker : CompletionTracker} {id name : String} {targets : List Target}

section LocalService

/-! A service that shows a set, accepts its update and tells at once that the work has succeeded; and one
that answers the update by pointing to its front page. -/

def localClient : Client := ⟨.network, "http://[::1]:8080", ⟨"t/u/f", Signer.plainKey⟩, .standard⟩

def localUrl (path : String) : Url :=
  ⟨"http".toList, some ⟨none, some "[::1]".toList, some 8080⟩, path.toList, none, none⟩

def response (body : String) : Http.Response :=
  ⟨200, [("opc-work-request-id", Text.octets "wr")], .ok (Text.octets body)⟩

end LocalService

end BackendRegistrar.Cloud
