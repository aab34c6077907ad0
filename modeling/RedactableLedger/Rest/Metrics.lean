import RedactableLedger.Transaction.Kind

namespace RedactableLedger

structure Metrics where
  prepared : TxKind → Nat
  submitted : Nat
  submissionFailures : Nat
  redacted : Nat
  /-- Redactions that were timed, whether or not they succeeded. -/
  timedRedactions : Nat

namespace Metrics

def zero : Metrics := ⟨fun _ => 0, 0, 0, 0, 0⟩

instance : Inhabited Metrics := ⟨zero⟩

def countPrepared (m : Metrics) (kind : TxKind) : Metrics :=
  { m with prepared := fun k => if k = kind then m.prepared k + 1 else m.prepared k }

def countSubmitted (m : Metrics) : Metrics := { m with submitted := m.submitted + 1 }

def countSubmissionFailure (m : Metrics) : Metrics :=
  { m with submissionFailures := m.submissionFailures + 1 }

def countRedacted (m : Metrics) : Metrics := { m with redacted := m.redacted + 1 }

def countTimed (m : Metrics) : Metrics := { m with timedRedactions := m.timedRedactions + 1 }

def family (name help type : String) (values : List String) : List String :=
  let fullName := "chameleon_" ++ name
  if values.isEmpty then []
  else
    ["# HELP " ++ fullName ++ " " ++ help, "# TYPE " ++ fullName ++ " " ++ type] ++
      values.map (fullName ++ ·)

def kindsByName : List TxKind := [.accountCreation, .config, .fundsTransfer, .stake, .update]

def preparedValues (m : Metrics) : List String :=
  kindsByName.filterMap fun kind =>
    if m.prepared kind = 0 then none
    else some ("\x7bkind=\"" ++ kind.name ++ "\"\x7d " ++ toString (m.prepared kind))

def lines (m : Metrics) : List String :=
  family "redaction_seconds" "Redaction latency in seconds" "histogram"
      ["_count " ++ toString m.timedRedactions] ++
    family "submission_failures_total" "Transaction sends that failed at the transport"
    "counter"
      [" " ++ toString m.submissionFailures] ++
    family "transactions_prepared_total" "Transactions staged for signing" "counter"
      m.preparedValues ++
    family "transactions_redacted_total" "Successful redactions" "counter"
      [" " ++ toString m.redacted] ++
    family "transactions_submitted_total" "Transactions sent to the bootstrap node" "counter"
      [" " ++ toString m.submitted]

def text (m : Metrics) : String := String.join (m.lines.map (· ++ "\n"))

end Metrics

end RedactableLedger
