import Dossier.Http.Exchange
import Dossier.Json.Bytes
import Dossier.Scan
import Dossier.Uuid

/-! # The scan service

The service that stores documents knows how far their scans are.
-/

namespace Dossier

/-- The service behind an address. -/
structure ScanService where
  baseUrl : String
  deriving Repr, DecidableEq

namespace ScanService

/-- The service of an address, whose slashes at the end do not count. -/
def ofUrl (url : String) : ScanService :=
  ⟨String.ofList (url.toList.reverse.dropWhile (· == '/')).reverse⟩

def statusUrl (s : ScanService) (documentId : Uuid) : String :=
  s.baseUrl ++ "/api/v1/documents/" ++ documentId.text ++ "/scan-status"

def request (s : ScanService) (documentId : Uuid) : Http.Request :=
  ⟨"GET", s.statusUrl documentId, none⟩

def answer (s : ScanService) (documentId : Uuid) : Http.Exchange → Except ScanFailure ScanStatus
  | .unreachable => .error (.connection (s.statusUrl documentId))
  | .answered response =>
      if !response.isSuccess then .error (.status documentId.text response.status)
      else match response.whole?.map (Json.decodeBytes ScanStatus.answerShape.decode) with
        | some (.ok status) => .ok status
        | _ => .error .invalidResponse

def status (s : ScanService) (transport : Http.Transport) (documentId : Uuid) :
    Except ScanFailure ScanStatus :=
  s.answer documentId (transport (s.request documentId))

end ScanService

end Dossier
