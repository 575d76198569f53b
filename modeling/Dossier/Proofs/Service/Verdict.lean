import Dossier.Proofs.Row.NormalForm
import Dossier.Proofs.Service.Latest

/-! # What an endpoint decides

An execution ends for good only by what an endpoint says of the document that it was asked about: a response with
success, with a row for that document as its body, complete or unprocessable. All else is for another try. Main
statement: `endpoint_decides`.
-/

namespace Dossier

theorem Http.Response.whole?_eq_some {response : Response} {bytes : List UInt8} :
    response.whole? = some bytes ↔ response.complete = true ∧ response.body = bytes := by
  simp [whole?]

/-- Whether an exchange brings a row: there is a response with success, and its body is whole and holds the row. -/
def Http.Exchange.Brings (exchange : Http.Exchange) (row : Row) : Prop :=
  ∃ response, exchange = .answered response ∧ 200 ≤ response.status ∧ response.status ≤ 299 ∧
    response.complete = true ∧ Row.readBytes response.body = .ok row

namespace Endpoint

variable {e : Endpoint} {documentId : Uuid} {row : Row}

/-- An endpoint answers with the row that it brings, if that is one for the document. -/
theorem answer_eq_ok {exchange : Http.Exchange} :
    e.answer documentId exchange = .ok row ↔ exchange.Brings row ∧ row.documentId = documentId := by
  constructor
  · intro answered
    cases exchange with
    | unreachable => cases answered
    | answered response =>
        simp only [answer, readAnswer] at answered
        split at answered
        · cases answered
        · rename_i success
          have success : 200 ≤ response.status ∧ response.status ≤ 299 := by
            simpa [Http.Response.isSuccess] using success
          split at answered
          · rename_i found
            obtain ⟨bytes, whole, read⟩ := Option.map_eq_some_iff.mp found
            obtain ⟨complete, rfl⟩ := Http.Response.whole?_eq_some.mp whole
            split at answered
            · rename_i same
              cases answered
              exact ⟨⟨response, rfl, success.1, success.2, complete, read⟩, same⟩
            · cases answered
          · cases answered
  · rintro ⟨⟨response, rfl, least, most, complete, read⟩, same⟩
    have success : response.isSuccess = true := by simp [Http.Response.isSuccess, least, most]
    have whole := Http.Response.whole?_eq_some.mpr ⟨complete, rfl⟩
    simp [answer, readAnswer, success, whole, read, same]

/-- Whether an endpoint that is asked about a document over a transport brings a row for it. -/
def Says (e : Endpoint) (transport : Http.Transport) (documentId : Uuid) (row : Row) : Prop :=
  (transport (e.request documentId)).Brings row ∧ row.documentId = documentId

theorem process_eq_ok {transport : Http.Transport} :
    e.process transport documentId = .ok row ↔ e.Says transport documentId row :=
  answer_eq_ok

end Endpoint

namespace Service

variable {π : Type}

/-- Where store and topic work the finding alone decides how an execution ends and what it adds. -/
theorem Course.decided {c : Collaborators π} {documentId : Uuid} {processorId : String} {s : Service}
    {finding : Finding} {outcome : Except ProcessingFailure Row} {effect : Effect}
    (course : Course c documentId processorId s finding outcome effect) (stores : ∀ row, s.Takes c row)
    (received : (s.topics.get .completions).isOpen = true) :
    match finding with
    | .complete answer => ∃ row, row = { answer with processorId } ∧ outcome = .ok row ∧
        effect = { rows := [row], completions := [.first row.text] }
    | .hopeless error => (∃ message, outcome = .error (.unretryable message)) ∧
        effect = { rows := [.unprocessable documentId processorId error (c.clock s.readings)], readings := 1 }
    | .undecided => (∃ message source, outcome = .error (.retryable message source)) ∧ effect = {} := by
  cases course with
  | announced stamped => exact ⟨_, stamped, rfl, rfl⟩
  | unannounced stamped taken closed =>
      rw [received] at closed
      cases closed
  | unsaved stamped refused => exact absurd (stores _) refused
  | recorded dated => exact ⟨⟨_, rfl⟩, by rw [dated]⟩
  | unrecorded dated refused => exact absurd (stores _) refused
  | postponed => exact ⟨⟨_, _, rfl⟩, rfl⟩

/-- What is added by an execution that ends with an outcome: the result and its announcement, or a record that there is
none, or nothing. -/
def added (documentId : Uuid) (processorId : String) (now : Timestamp) :
    Except ProcessingFailure Row → Effect
  | .ok row => { rows := [row], completions := [.first row.text] }
  | .error (.unretryable _) =>
      { rows := [.unprocessable documentId processorId "Unprocessable document" now], readings := 1 }
  | .error (.retryable _ _) => {}

/-- Where store and topic work, an execution succeeds just if the endpoint of the processor brings a complete row for
the document, which is then saved and announced under the id of the processor, whatever the row calls it. It fails for
good just if the endpoint brings an unprocessable one, and is left to another try, with nothing added, in all other
cases. So every row that is saved is for the document and the processor. -/
theorem endpoint_decides (c : Collaborators π) (processors : List (String × π))
    (answer : π → Uuid → Except ProcessorFailure Row) (e : Endpoint) (transport : Http.Transport)
    (documentId : Uuid) (processorId : String) (s : Service)
    (remote : said processors answer documentId processorId = some (e.process transport documentId))
    (stores : ∀ row, s.Takes c row) (received : (s.topics.get .completions).isOpen = true) :
    let c := { c with registry := Registry.ofList processors }
    let run := execute c answer documentId processorId s
    let Brings (status : Status) (row : Row) := e.Says transport documentId row ∧ row.status = status
    let effect := added documentId processorId (c.clock s.readings) run.1
    (∀ row, run.1 = .ok row ↔ ∃ brought, Brings .complete brought ∧ row = { brought with processorId }) ∧
    ((∃ message, run.1 = .error (.unretryable message)) ↔ ∃ brought, Brings .unprocessable brought) ∧
    ((∃ message source, run.1 = .error (.retryable message source)) ↔
      ¬∃ brought, Brings .complete brought ∨ Brings .unprocessable brought) ∧
    effect.Leads s run.2 ∧
    ∀ row ∈ effect.rows, row.documentId = documentId ∧ row.processorId = processorId := by
  intro c run Brings effect
  obtain ⟨outcome, made, t, ends, course, leads⟩ := pursues_execute c processors answer documentId processorId s
  rw [remote] at course
  have ran : run = (outcome, t) := ends
  simp only [effect, Brings, ← Endpoint.process_eq_ok, ran]
  cases answered : e.process transport documentId with
  | error failure =>
      rw [answered] at course
      obtain ⟨⟨message, source, rfl⟩, rfl⟩ := course.decided stores received
      simpa [added] using leads
  | ok brought =>
      have own : brought.documentId = documentId := (Endpoint.process_eq_ok.mp answered).2
      rw [answered, Finding.of] at course
      cases status : brought.status with
      | complete =>
          rw [status] at course
          obtain ⟨row, stamped, rfl, rfl⟩ := course.decided stores received
          subst stamped
          simpa [added, status, own, exists_or, eq_comm] using leads
      | unprocessable =>
          rw [status] at course
          obtain ⟨⟨message, rfl⟩, rfl⟩ := course.decided stores received
          simpa [added, status, exists_or, Row.unprocessable] using leads
      | pending | missingDependency | other =>
          rw [status] at course
          obtain ⟨⟨message, source, rfl⟩, rfl⟩ := course.decided stores received
          simpa [added, status, exists_or] using leads

/-- A complete row that is signed by another processor than the one that is asked. -/
def foreignRow : Row := .complete ⟨1⟩ "dates" .empty ⟨⟨2026, 1, 1⟩, 0, 0⟩

/-- A response with that row as its body. -/
def foreignReply (status : Nat) : Http.Response where
  status
  body := foreignRow.text.toList.map fun c => .ofNat c.toNat
  complete := true

theorem read_foreignRow : Row.read foreignRow.text = .ok foreignRow := by
  have regular : foreignRow.Regular :=
    ⟨⟨⟨"COMPLETE", rfl⟩⟩, (by decide : 1 < 127), List.Pairwise.nil, trivial⟩
  exact Row.read_text (regular.normal ⟨trivial, trivial⟩)

/-- The row is saved for the processor that was asked if it comes with success, and with another status it is left to
another try. -/
theorem foreign_row_restamped :
    let e : Endpoint := ⟨"pages", "http://127.0.0.1/pages"⟩
    let c : Collaborators Endpoint := .reliable [e] (fun _ => .ok .ready) dayClock
    let run (status : Nat) := executeOver c (fun _ => .answered (foreignReply status)) ⟨1⟩ "pages" { store := .empty }
    (run 200).1 = .ok { foreignRow with processorId := "pages" } ∧
      (run 200).2.saved = [{ foreignRow with processorId := "pages" }] ∧
      (∃ message source, (run 503).1 = .error (.retryable message source)) ∧ (run 503).2.saved = [] := by
  intro e c run
  have stores (row : Row) : Takes c { store := .empty } row := ⟨rfl, _, rfl⟩
  let transport (status : Nat) : Http.Transport := fun _ => .answered (foreignReply status)
  have decided (status : Nat) := endpoint_decides c [("pages", e)]
    (fun endpoint documentId => endpoint.process (transport status) documentId) e (transport status) ⟨1⟩ "pages"
    { store := .empty } rfl stores rfl
  -- Said of whole runs: their outcomes alone would be compared by carrying both of them out.
  have ran (status : Nat) : execute { c with registry := Registry.ofList [("pages", e)] }
      (fun endpoint documentId => endpoint.process (transport status) documentId) ⟨1⟩ "pages" { store := .empty } =
      run status := rfl
  simp only [ran] at decided
  have legible : Text.ofUtf8? (foreignReply 200).body = some foreignRow.text := by decide +kernel
  have read : Row.readBytes (foreignReply 200).body = .ok foreignRow :=
    (Row.readBytes_of_text legible).trans read_foreignRow
  have brought : (run 200).1 = .ok { foreignRow with processorId := "pages" } :=
    ((decided 200).1 _).mpr ⟨foreignRow, ⟨⟨⟨_, rfl, by decide, by decide, rfl, read⟩, rfl⟩, rfl⟩, rfl⟩
  have refused : ∃ message source, (run 503).1 = .error (.retryable message source) := by
    refine (decided 503).2.2.1.mpr ?_
    rintro ⟨row, ⟨⟨⟨response, same, -, most, -⟩, -⟩, -⟩ | ⟨⟨⟨response, same, -, most, -⟩, -⟩, -⟩⟩
    · cases same
      exact absurd most (by decide)
    · cases same
      exact absurd most (by decide)
  have saved (status : Nat) :
      (run status).2.saved = [] ++ (added ⟨1⟩ "pages" (dayClock 0) (run status).1).rows :=
    (decided status).2.2.2.1.saved
  obtain ⟨message, source, refused⟩ := refused
  refine ⟨brought, ?_, ⟨message, source, refused⟩, ?_⟩
  · rw [saved, brought]
    rfl
  · rw [saved, refused]
    rfl

end Service

end Dossier
