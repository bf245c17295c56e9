/-
The environment contract between the controller and the receive adapter.

The controller writes the adapter's configuration into the container's `env` in
`makeDeploymentSpec`, and the adapter's `main` reads it back with `getRequiredEnv` and
`getOptionalEnv`; the two binaries spell the variable names separately.
`main_reads_receive_adapter` is the round trip: every required variable is there, and the
adapter gets back exactly the stream, region, sink and consumer name, and the credentials of
the branch the builder took.

The credential mode is where the two sides part.  The builder always writes exactly one of
`AWS_APPLICATION_CREDENTIALS` and `KCL_IAM_ROLE_ARN`, but the value can be empty: the secret
branch needs a name and a key, and the KIAM branch passes the role ARN as it finds it.
`createReceiveAdapter` only refuses a Source whose four credential fields are all empty, so it
lets through a Source that `Start` then refuses.
-/
import KnativeKinesis.Adapter.Main
import KnativeKinesis.Reconciler.Reconcile

namespace KnativeKinesis

/-- The container's environment in the secret branch. -/
private theorem env_of_secret (args : ReceiveAdapterArgs)
    (h : args.source.spec.awsCredsSecret.name ≠ "" ∧
      args.source.spec.awsCredsSecret.key ≠ "") :
    (makeReceiveAdapter args).spec.template.spec =
      { serviceAccountName := args.source.spec.serviceAccountName
        containers := [
          { name := "receive-adapter"
            image := args.image
            env := [
              ⟨"AWS_APPLICATION_CREDENTIALS",
                "/var/secrets/aws/" ++ args.source.spec.awsCredsSecret.key⟩,
              ⟨"STREAM_NAME", args.source.spec.streamName⟩,
              ⟨"REGION", args.source.spec.region⟩,
              ⟨"SINK_URI", args.sinkURI⟩, ⟨"CONSUMER_NAME", args.source.name⟩]
            volumeMounts := [⟨"aws-credentials", "/var/secrets/aws"⟩] }]
        volumes :=
          [⟨"aws-credentials", some ⟨args.source.spec.awsCredsSecret.name⟩⟩] } := by
  simp [makeReceiveAdapter, makeDeploymentSpec, h, String.append_assoc]

/-- The credentials file of the secret branch is never the empty path. -/
private theorem credsFile_ne_empty (key : String) : "/var/secrets/aws/" ++ key ≠ "" := by
  intro h
  have := congrArg String.length h
  simp only [String.length_append, String.length_empty, Nat.add_eq_zero] at this
  exact absurd this.1 (by decide)

/-- The container's environment in the KIAM branch. -/
private theorem env_of_kiam (args : ReceiveAdapterArgs)
    (h : ¬(args.source.spec.awsCredsSecret.name ≠ "" ∧
      args.source.spec.awsCredsSecret.key ≠ "")) :
    (makeReceiveAdapter args).spec.template.spec =
      { serviceAccountName := args.source.spec.serviceAccountName
        containers := [
          { name := "receive-adapter"
            image := args.image
            env := [⟨"STREAM_NAME", args.source.spec.streamName⟩,
              ⟨"KCL_IAM_ROLE_ARN", args.source.spec.kiamOptions.kclIamRoleArn⟩,
              ⟨"REGION", args.source.spec.region⟩, ⟨"SINK_URI", args.sinkURI⟩,
              ⟨"CONSUMER_NAME", args.source.name⟩] }] } := by
  simp only [makeReceiveAdapter, makeDeploymentSpec, length_pos_iff_ne_empty, gt_iff_lt]
  rw [if_neg h]

/-- **The adapter reads back what the controller wrote.**  `main`, run on the environment of
the Deployment `MakeReceiveAdapter` builds, finds every required variable and gets the
Source's stream, region and name and the sink URI.  With a secret name and key it reads the
key's file under the secret's mount, the pod's only volume, and no role; otherwise it reads no
file and the KIAM role ARN. -/
theorem main_reads_receive_adapter (args : ReceiveAdapterArgs) :
    ∃ c a, (makeReceiveAdapter args).spec.template.spec.containers = [c] ∧
      main c.env = .ok a ∧
      a.streamName = args.source.spec.streamName ∧ a.region = args.source.spec.region ∧
      a.sinkURI = args.sinkURI ∧ a.consumerName = args.source.name ∧
      if args.source.spec.awsCredsSecret.name ≠ "" ∧
          args.source.spec.awsCredsSecret.key ≠ "" then
        a.credsFile = "/var/secrets/aws/" ++ args.source.spec.awsCredsSecret.key ∧
          a.kclIamRoleArn = "" ∧
          (makeReceiveAdapter args).spec.template.spec.volumes =
            [⟨"aws-credentials", some ⟨args.source.spec.awsCredsSecret.name⟩⟩] ∧
          c.volumeMounts = [⟨"aws-credentials", "/var/secrets/aws"⟩]
      else a.credsFile = "" ∧ a.kclIamRoleArn = args.source.spec.kiamOptions.kclIamRoleArn := by
  by_cases h : args.source.spec.awsCredsSecret.name ≠ "" ∧
    args.source.spec.awsCredsSecret.key ≠ ""
  · rw [env_of_secret args h]
    refine ⟨_, _, rfl, main_eq rfl rfl rfl rfl, ?_⟩
    simp [h, getOptionalEnv, lookupEnv, envCredsFile, envKclIamRoleArn]
  · rw [env_of_kiam args h]
    refine ⟨_, _, rfl, main_eq rfl rfl rfl rfl, ?_⟩
    simp [h, getOptionalEnv, lookupEnv, envCredsFile, envKclIamRoleArn]

/-- **Which credential mode the adapter ends up in.**  The builder writes exactly one of the two
credential variables, and the adapter `main` makes gets past `Start`'s credential check exactly
when the Source names both a secret and a key, or a KCL role ARN. -/
theorem receive_adapter_credentials (args : ReceiveAdapterArgs) :
    ∃ c, (makeReceiveAdapter args).spec.template.spec.containers = [c] ∧
      (lookupEnv c.env envCredsFile).isSome ≠ (lookupEnv c.env envKclIamRoleArn).isSome ∧
      ((∃ a cr, main c.env = .ok a ∧ a.credentials = .ok cr) ↔
        (args.source.spec.awsCredsSecret.name ≠ "" ∧
            args.source.spec.awsCredsSecret.key ≠ "") ∨
          args.source.spec.kiamOptions.kclIamRoleArn ≠ "") := by
  by_cases h : args.source.spec.awsCredsSecret.name ≠ "" ∧
    args.source.spec.awsCredsSecret.key ≠ ""
  · rw [env_of_secret args h]
    refine ⟨_, rfl, by simp [lookupEnv, envCredsFile, envKclIamRoleArn], ?_⟩
    simp [main, getRequiredEnv, getOptionalEnv, lookupEnv, envCredsFile, envKclIamRoleArn,
      envStreamName, envRegion, envSinkURI, envConsumerName, Adapter.credentials_ok_iff, h,
      credsFile_ne_empty]
  · rw [env_of_kiam args h]
    refine ⟨_, rfl, by simp [lookupEnv, envCredsFile, envKclIamRoleArn], ?_⟩
    simp [main, getRequiredEnv, getOptionalEnv, lookupEnv, envCredsFile, envKclIamRoleArn,
      envStreamName, envRegion, envSinkURI, envConsumerName, Adapter.credentials_ok_iff, h]

/-- A Source that names a secret but no key. -/
def secretNameOnlySource : KinesisSource where
  name := "source-name"
  ns := "source-namespace"
  uid := "1234-5678-90"
  spec := { streamName := "kinesis-name", region := "us-west-2"
            awsCredsSecret := { name := "kinesis-secret-name" } }

/-- `createReceiveAdapter`'s check lets `secretNameOnlySource` through, its Deployment sets
`KCL_IAM_ROLE_ARN` to the empty string, and the adapter stops at `Start`'s credential check. -/
theorem secret_name_only_fails_start :
    credentialsMissing secretNameOnlySource.spec = false ∧
      ∃ c a, (makeReceiveAdapter ⟨"test-image", secretNameOnlySource,
          getLabels secretNameOnlySource, "http://addressable.sink.svc.cluster.local/"⟩
          ).spec.template.spec.containers = [c] ∧
        lookupEnv c.env envKclIamRoleArn = some "" ∧ main c.env = .ok a ∧
        a.credentials =
          .error "Neither AWS_APPLICATION_CREDENTIALS nor KCL_IAM_ROLE_ARN is found in ENV" :=
  ⟨by decide, _, _, rfl, by decide, main_eq rfl rfl rfl rfl, rfl⟩

end KnativeKinesis
