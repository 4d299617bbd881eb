import Mathlib.Data.Int.Notation
import Mathlib.Order.Defs.LinearOrder
import ProxyPay.Library.Text

/-! `runAccountMergeJob`: the configured accounts whose safety checks let them pass are put on the queue of the merge
worker. -/

namespace ProxyPay.AccountMerge

open ProxyPay.Library.Text

/-- What the language and the Stellar kit are asked for. A number or a date that is none is `NaN`. -/
structure Runtime (Number : Type) where
  parseFloat : String → Option Number
  /-- The public key of a secret. -/
  fromSecret : String → Except String String
  isValidEd25519PublicKey : String → Bool
  /-- The time so many days of the calendar before another. -/
  setDate : ℤ → ℤ → Option ℤ
  /-- `BASE_FEE` -/
  baseFee : ℕ

structure Environment where
  auxiliaryAccountSecrets : Option String
  accountMergeDestination : Option String
  issuerSecret : Option String
  inactivityDays : Option String
  dryRun : Option String
  skipSafetyChecks : Option String
  manualReviewThreshold : Option String

/-- The answers of the database about an account: the counts as they are spelled in each row, and the balances of its rows
in `account_merge_candidates`. -/
structure Queries where
  activeDisputes : Except String (List String)
  pendingTransactions : Except String (List String)
  nativeBalance : Except String (List (Option String))
  recentDisputes : Except String (List String)
  complianceFlag : Except String (List String)

/-- Each text once, in the order of their first places. -/
def unique : List String → List String
  | [] => []
  | text :: rest => text :: (unique rest).filter (· ≠ text)

def parseAuxiliaryAccountSecrets (value : Option String) : List String :=
  match truthy value with
  | none => []
  | some value => unique (((value.toList.splitOn ',').map fun item => trim (String.ofList item)).filter (· ≠ ""))

variable {Number : Type} [LinearOrder Number] [Zero Number] [ToString Number]

variable (runtime : Runtime Number)

def resolveMergeDestinationPublicKey (destination issuerSecret : Option String) :
    Except String (Option String) :=
  match truthy (destination.map trim) with
  | some publicKey =>
    if runtime.isValidEd25519PublicKey publicKey then .ok (some publicKey)
    else .error "STELLAR_ACCOUNT_MERGE_DESTINATION must be a valid Stellar public key"
  | none =>
    match truthy (issuerSecret.map trim) with
    | none => .ok none
    | some secret => (runtime.fromSecret secret).map some

/-- The number that a query reports, where it succeeds and its first row has one. -/
def reported : Except String (List String) → Option ℤ
  | .ok (count :: _) => parseInt count
  | _ => none

variable (answer : Except String (List String))

def found : Bool :=
  (reported answer).any fun count => 0 < count

structure Check where
  has : Bool
  count : Option ℤ

/-- A failure is logged, and counts as none found. -/
def check : Check where
  has := found answer
  count := match answer with
    | .ok (count :: _) => parseInt count
    | _ => some 0

def checkActiveDisputes (queries : Queries) : Check :=
  check queries.activeDisputes

def checkPendingTransactions (queries : Queries) : Check :=
  check queries.pendingTransactions

def isOver (threshold : String) (balance : Option String) : Bool :=
  match runtime.parseFloat ((orElse balance (some "0")).getD ""), runtime.parseFloat threshold with
  | some balance, some threshold => threshold < balance
  | _, _ => false

def printed (text : String) : String :=
  ((runtime.parseFloat text).map toString).getD "NaN"

def manualReviewThreshold (env : Environment) : String :=
  (orElse env.manualReviewThreshold (some "100")).getD ""

def balanceReasons (threshold : String) : List (Option String) → List String
  | [] => []
  | row :: _ =>
    if isOver runtime threshold row then
      ["Balance " ++ printed runtime ((orElse row (some "0")).getD "") ++ " XLM exceeds manual review threshold of " ++
        printed runtime threshold ++ " XLM"]
    else []

variable (env : Environment)

/-- The reasons that were gathered before a query failed stand. -/
def checkManualReviewRequired (queries : Queries) : List String :=
  match queries.nativeBalance with
  | .error _ => []
  | .ok rows =>
    let balance := balanceReasons runtime (manualReviewThreshold env) rows
    match queries.recentDisputes with
    | .ok (recent :: _) =>
      let disputes :=
        if found queries.recentDisputes then
          ["Has " ++ recent ++ " recently resolved disputes within last 7 days"]
        else []
      match queries.complianceFlag with
      | .ok (_ :: _) =>
        balance ++ disputes ++ if found queries.complianceFlag then ["Has active AML/compliance alerts"] else []
      | _ => balance ++ disputes
    | _ => balance

structure MergeSafetyCheckResult where
  eligible : Bool
  hasActiveDisputes : Bool
  hasPendingTransactions : Bool
  requiresManualReview : Bool
  activeDisputeCount : Option ℤ
  pendingTransactionCount : Option ℤ
  reasons : List String

def spell (count : Option ℤ) : String :=
  (count.map toString).getD "NaN"

def runMergeSafetyChecks (queries : Queries) : MergeSafetyCheckResult :=
  let disputes := checkActiveDisputes queries
  let pending := checkPendingTransactions queries
  let manualReview := checkManualReviewRequired runtime env queries
  { eligible := !disputes.has && !pending.has && manualReview.isEmpty
    hasActiveDisputes := disputes.has
    hasPendingTransactions := pending.has
    requiresManualReview := !manualReview.isEmpty
    activeDisputeCount := disputes.count
    pendingTransactionCount := pending.count
    reasons :=
      (if disputes.has then ["Has " ++ spell disputes.count ++ " active dispute(s)"] else []) ++
      (if pending.has then ["Has " ++ spell pending.count ++ " pending transaction(s)"] else []) ++ manualReview }

structure AccountMergeJobData where
  sourceSecret : String
  destinationPublicKey : String
  inactivityDays : Option ℤ
  dryRun : Bool

def days : Option ℤ :=
  parseInt ((orElse env.inactivityDays (some "30")).getD "")

/-- The loop over the secrets. A secret that the kit does not read ends the run before anything is queued. -/
def qualifiedJobs (runtime : Runtime Number) (env : Environment) (answers : String → Queries) (destination : String) :
    List String → Except String (List AccountMergeJobData)
  | [] => .ok []
  | secret :: rest =>
    match runtime.fromSecret secret with
    | .error message => .error message
    | .ok publicKey =>
      (qualifiedJobs runtime env answers destination rest).map fun jobs =>
        if env.skipSafetyChecks = some "true" || (runMergeSafetyChecks runtime env (answers publicKey)).eligible then
          ⟨secret, destination, days env, env.dryRun = some "true"⟩ :: jobs
        else jobs

def runAccountMergeJob (answers : String → Queries) :
    Except String (List AccountMergeJobData) :=
  let sourceSecrets := parseAuxiliaryAccountSecrets env.auxiliaryAccountSecrets
  if sourceSecrets = [] then .ok []
  else
    match resolveMergeDestinationPublicKey runtime env.accountMergeDestination env.issuerSecret with
    | .error message => .error message
    | .ok none => .ok []
    | .ok (some destination) => qualifiedJobs runtime env answers destination sourceSecrets

end ProxyPay.AccountMerge

/-! An attempt of the merge worker at a job. -/

namespace ProxyPay.AccountMerge

open ProxyPay.Library.Text

structure Balance where
  assetType : String
  balance : String

structure Account where
  balances : List Balance
  subentryCount : ℕ

structure HorizonError where
  status : Option ℕ
  message : String

/-- The answers of Horizon to the calls of an attempt, with the clock. The latest transactions are known by the times that
their dates stand for. -/
structure Horizon where
  loadAccount : Except HorizonError Account
  transactions : Except HorizonError (List (Option ℤ))
  now : ℤ
  submitTransaction : Except HorizonError String

def stroopsPerXlm : ℕ := 10000000

/-- Nothing where the amount is invalid. -/
def xlmToStroops (amount : String) : Option ℕ :=
  let normalized := (trim amount).toList
  let whole := normalized.takeWhile Char.isDigit
  if whole = [] then none
  else
    match normalized.dropWhile Char.isDigit with
    | [] => some (natural 10 whole * stroopsPerXlm)
    | '.' :: fraction =>
      if fraction ≠ [] ∧ fraction.length ≤ 7 ∧ fraction.all Char.isDigit then
        some (natural 10 whole * stroopsPerXlm + natural 10 (fraction ++ List.replicate (7 - fraction.length) '0'))
      else none
    | _ => none

def stroopsToXlm (stroops : ℕ) : String :=
  let whole := toString (stroops / stroopsPerXlm)
  match ((pad 10 7 (stroops % stroopsPerXlm)).reverse.dropWhile (· = '0')).reverse with
  | [] => whole
  | fraction => whole ++ "." ++ String.ofList fraction

structure AccountMergeCandidate where
  nativeBalance : String
  subentryCount : ℕ
  hasNonNativeBalances : Bool
  /-- A date may be invalid. -/
  lastActivityAt : Option (Option ℤ)

structure AccountMergeEvaluation where
  eligible : Bool
  reason : Option String
  reclaimableBalance : String

variable {Number : Type} [LinearOrder Number] [Zero Number]

/-- An invalid date is neither before another nor after it. -/
def isAfter : Option ℤ → Option ℤ → Bool
  | some date, some other => other < date
  | _, _ => false

def inactivityCutoff (runtime : Runtime Number) (inactivityDays : Option ℤ) (now : ℤ) : Option ℤ :=
  inactivityDays.bind (runtime.setDate now)

def evaluateAccountMergeCandidate (runtime : Runtime Number) (candidate : AccountMergeCandidate)
    (inactivityDays : Option ℤ) (now : ℤ) : Except String AccountMergeEvaluation :=
  match xlmToStroops candidate.nativeBalance with
  | none => .error ("Invalid XLM amount: " ++ candidate.nativeBalance)
  | some nativeBalance =>
    let reclaimableBalance := if runtime.baseFee < nativeBalance then stroopsToXlm (nativeBalance - runtime.baseFee) else "0"
    if nativeBalance ≤ runtime.baseFee then
      .ok ⟨false, some "native balance is too low to reclaim after fees", reclaimableBalance⟩
    else if 0 < candidate.subentryCount then
      .ok ⟨false, some ("account still has " ++ toString candidate.subentryCount ++ " subentries"), reclaimableBalance⟩
    else if candidate.hasNonNativeBalances then
      .ok ⟨false, some "account still holds non-native assets", reclaimableBalance⟩
    else if candidate.lastActivityAt.any fun date => isAfter date (inactivityCutoff runtime inactivityDays now) then
      .ok ⟨false, some ("account was active within the last " ++ spell inactivityDays ++ " day(s)"), reclaimableBalance⟩
    else .ok ⟨true, none, reclaimableBalance⟩

def getNativeBalance (account : Account) : String :=
  ((account.balances.find? fun balance => balance.assetType = "native").map (·.balance)).getD "0"

def hasNonNativeBalances (runtime : Runtime Number) (account : Account) : Bool :=
  account.balances.any fun balance =>
    balance.assetType ≠ "native" && (runtime.parseFloat balance.balance).any fun amount => 0 < amount

/-- A failing call is taken for an account without transactions. -/
def fetchLastActivityAt (horizon : Horizon) : Option (Option ℤ) :=
  match horizon.transactions with
  | .ok records => records.head?
  | .error _ => none

def candidate (runtime : Runtime Number) (horizon : Horizon) (account : Account) : AccountMergeCandidate where
  nativeBalance := getNativeBalance account
  subentryCount := account.subentryCount
  hasNonNativeBalances := hasNonNativeBalances runtime account
  lastActivityAt := fetchLastActivityAt horizon

structure AccountMergeJobResult where
  success : Bool
  sourcePublicKey : String
  destinationPublicKey : String
  reclaimedXLM : String
  transactionHash : Option String
  error : Option String
  skipped : Bool
  skipReason : Option String

/-- The merge that is submitted, and the result that is returned or the error that is thrown for the queue to retry. -/
structure Attempt where
  merge : Option (String × String)
  result : Except String AccountMergeJobResult

def skip (sourcePublicKey destinationPublicKey : String) (reason : Option String) : AccountMergeJobResult :=
  ⟨false, sourcePublicKey, destinationPublicKey, "0", none, reason, true, reason⟩

/-- The catch block. -/
def failed (sourcePublicKey destinationPublicKey : String) (error : HorizonError) : Except String AccountMergeJobResult :=
  if error.status = some 404 then
    .ok ⟨false, sourcePublicKey, destinationPublicKey, "0", none, some "Account not found on Horizon", true,
      some "Account not found"⟩
  else .error error.message

def accountMergeWorker (runtime : Runtime Number) (job : AccountMergeJobData) (horizon : Horizon) : Attempt :=
  let destination := job.destinationPublicKey
  match runtime.fromSecret job.sourceSecret with
  | .error _ => ⟨none, .ok ⟨false, "invalid", destination, "0", none, some "Invalid source secret", false, none⟩⟩
  | .ok source =>
    if source = destination then ⟨none, .ok (skip source destination (some "Source matches destination"))⟩
    else
      match horizon.loadAccount with
      | .error error => ⟨none, failed source destination error⟩
      | .ok account =>
        match evaluateAccountMergeCandidate runtime (candidate runtime horizon account) job.inactivityDays horizon.now with
        | .error message => ⟨none, .error message⟩
        | .ok evaluation =>
          if !evaluation.eligible then ⟨none, .ok (skip source destination evaluation.reason)⟩
          else if job.dryRun then
            ⟨none, .ok ⟨true, source, destination, evaluation.reclaimableBalance, none, none, true, some "Dry run mode"⟩⟩
          else
            { merge := some (source, destination)
              result :=
                match horizon.submitTransaction with
                | .error error => failed source destination error
                | .ok hash => .ok ⟨true, source, destination, evaluation.reclaimableBalance, some hash, none, false, none⟩ }

end ProxyPay.AccountMerge
