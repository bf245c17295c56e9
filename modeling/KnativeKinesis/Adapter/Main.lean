/-
The receive adapter's startup: `main` reads its environment into an `Adapter`, and `Start`
picks the credentials to reach the stream with.

The process environment is the container's `env` list as the kubelet hands it over: a later
entry with the same name wins.  `getRequiredEnv` ends the process when a name is missing;
that is the `Except.error` of `main`, carrying the fatal message.  `Start`'s dealings with AWS
and with the KCL worker are inputs of the model (`StartAnswers`); its own decision is which of
the two credential modes to use, or to give up.
-/
import KnativeKinesis.Resources.ReceiveAdapter

namespace KnativeKinesis

/-- `os.LookupEnv` on a container's environment. -/
def lookupEnv (env : List EnvVar) (key : String) : Option String :=
  env.foldl (fun v e => if e.name = key then some e.value else v) none

def envCredsFile : String := "AWS_APPLICATION_CREDENTIALS"

def envKclIamRoleArn : String := "KCL_IAM_ROLE_ARN"

def envStreamName : String := "STREAM_NAME"

def envRegion : String := "REGION"

def envSinkURI : String := "SINK_URI"

def envConsumerName : String := "CONSUMER_NAME"

/-- `getRequiredEnv`: the value, or the message `log.Fatalf` exits with. -/
def getRequiredEnv (env : List EnvVar) (key : String) : Except String String :=
  match lookupEnv env key with
  | some v => .ok v
  | none => .error ("required environment variable not defined '" ++ key ++ "'")

/-- `getOptionalEnv`: the value, or the empty string. -/
def getOptionalEnv (env : List EnvVar) (key : String) : String :=
  (lookupEnv env key).getD ""

/-- `Adapter`, as `main` fills it in. -/
structure Adapter where
  streamName : String
  region : String
  sinkURI : String
  kclIamRoleArn : String
  credsFile : String
  consumerName : String
  deriving DecidableEq, Repr

/-- `main`: the adapter built from the environment, or the fatal error the process exits with. -/
def main (env : List EnvVar) : Except String Adapter := do
  let kclIamRoleArn := getOptionalEnv env envKclIamRoleArn
  let credsFile := getOptionalEnv env envCredsFile
  let streamName ← getRequiredEnv env envStreamName
  let region ← getRequiredEnv env envRegion
  let sinkURI ← getRequiredEnv env envSinkURI
  let consumerName ← getRequiredEnv env envConsumerName
  pure { kclIamRoleArn, credsFile, streamName, region, sinkURI, consumerName }

@[simp] theorem except_ok_bind {ε α β : Type} (a : α) (f : α → Except ε β) :
    (Except.ok a >>= f) = f a := rfl

/-- `main` succeeds once the four required variables are there. -/
theorem main_eq {env : List EnvVar} {streamName region sinkURI consumerName : String}
    (hs : lookupEnv env envStreamName = some streamName)
    (hr : lookupEnv env envRegion = some region)
    (hu : lookupEnv env envSinkURI = some sinkURI)
    (hc : lookupEnv env envConsumerName = some consumerName) :
    main env = .ok ⟨streamName, region, sinkURI, getOptionalEnv env envKclIamRoleArn,
      getOptionalEnv env envCredsFile, consumerName⟩ := by
  simp [main, getRequiredEnv, hs, hr, hu, hc]

@[simp] theorem except_error_bind {ε α β : Type} (e : ε) (f : α → Except ε β) :
    (Except.error e >>= f) = Except.error e := rfl

/-- `main` fails only on a required variable that is missing, and its message names it. -/
theorem main_error {env : List EnvVar} {msg : String} (h : main env = .error msg) :
    ∃ key ∈ [envStreamName, envRegion, envSinkURI, envConsumerName], lookupEnv env key = none ∧
      msg = "required environment variable not defined '" ++ key ++ "'" := by
  simp only [main, getRequiredEnv] at h
  rcases hs : lookupEnv env envStreamName with _ | _
  · simp only [hs, except_error_bind, Except.error.injEq] at h
    exact ⟨_, by simp, hs, h.symm⟩
  rcases hr : lookupEnv env envRegion with _ | _
  · simp only [hs, hr, except_ok_bind, except_error_bind, Except.error.injEq] at h
    exact ⟨_, by simp, hr, h.symm⟩
  rcases hu : lookupEnv env envSinkURI with _ | _
  · simp only [hs, hr, hu, except_ok_bind, except_error_bind, Except.error.injEq] at h
    exact ⟨_, by simp, hu, h.symm⟩
  rcases hc : lookupEnv env envConsumerName with _ | _
  · simp only [hs, hr, hu, hc, except_ok_bind, except_error_bind, Except.error.injEq] at h
    exact ⟨_, by simp, hc, h.symm⟩
  simp [hs, hr, hu, hc] at h

/-- The credentials `Start` reaches the stream with. -/
inductive Credentials
  | sharedConfigFile (file : String)
  | assumeRole (roleArn : String)
  deriving DecidableEq, Repr

/-- `Start`'s choice of credentials: the shared credentials file if one is named, else the
role to assume, else the startup error. -/
def Adapter.credentials (a : Adapter) : Except String Credentials :=
  if a.credsFile.length > 0 then .ok (.sharedConfigFile a.credsFile)
  else if a.kclIamRoleArn.length > 0 then .ok (.assumeRole a.kclIamRoleArn)
  else .error "Neither AWS_APPLICATION_CREDENTIALS nor KCL_IAM_ROLE_ARN is found in ENV"

/-- What the outside world answers `Start`: whether the CloudEvents client could be made,
what `DescribeStream` returns for the chosen credentials, and whether the worker started. -/
structure StartAnswers where
  initClient : Option String
  describeStream : Credentials → Except String String
  workerStart : Option String

/-- A started adapter: the adapter, its credentials, and the stream's ARN. -/
structure Session where
  adapter : Adapter
  credentials : Credentials
  streamARN : String

/-- `Start`, up to the point where it blocks on the stop channel. -/
def Adapter.start (a : Adapter) (w : StartAnswers) : Except String Session := do
  if let some err := w.initClient then throw err
  let creds ← a.credentials
  let streamARN ← w.describeStream creds
  if let some err := w.workerStart then throw err
  pure ⟨a, creds, streamARN⟩

theorem Adapter.credentials_ok_iff (a : Adapter) :
    (∃ c, a.credentials = .ok c) ↔ a.credsFile ≠ "" ∨ a.kclIamRoleArn ≠ "" := by
  unfold Adapter.credentials
  by_cases h1 : a.credsFile = "" <;> by_cases h2 : a.kclIamRoleArn = "" <;>
    simp [h1, h2]

end KnativeKinesis
