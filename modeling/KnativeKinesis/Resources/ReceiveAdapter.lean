/-
The receive adapter's Deployment, as `MakeReceiveAdapter` builds it.

The Deployment types keep the fields the builder sets, and what the reconciler reads back from
a stored Deployment: its name, its labels and its owner references.  A Go `map[string]string`
is a list of entries with distinct keys; the builder only ever writes map literals.

The builder has two branches.  Given a secret name and a key it mounts the secret and points
`AWS_APPLICATION_CREDENTIALS` at the key's file; otherwise it annotates the pod with the KIAM
role and passes `KCL_IAM_ROLE_ARN`.
-/
import KnativeKinesis.Apis.KinesisTypes

namespace KnativeKinesis

/-- `map[string]string`. -/
abbrev StringMap := List (String × String)

/-- `corev1.EnvVar` with a literal value; the builder never sets `ValueFrom`. -/
structure EnvVar where
  name : String
  value : String
  deriving DecidableEq, Repr

/-- `corev1.VolumeMount`: the volume's name and where the container mounts it. -/
structure VolumeMount where
  name : String
  mountPath : String
  deriving DecidableEq, Repr

/-- `corev1.SecretVolumeSource`: the name of the Secret. -/
structure SecretVolumeSource where
  secretName : String
  deriving DecidableEq, Repr

/-- `corev1.Volume`, with the one source the builder uses, a Secret. -/
structure Volume where
  name : String
  /-- `VolumeSource.Secret`. -/
  secret : Option SecretVolumeSource := none
  deriving DecidableEq, Repr

/-- `corev1.Container`: the fields the builder sets. -/
structure Container where
  name : String
  image : String
  env : List EnvVar := []
  volumeMounts : List VolumeMount := []
  deriving DecidableEq, Repr

/-- `corev1.PodSpec`: the fields the builder sets. -/
structure PodSpec where
  serviceAccountName : String := ""
  containers : List Container := []
  volumes : List Volume := []
  deriving DecidableEq, Repr

/-- `corev1.PodTemplateSpec`: the template's annotations and labels, and the pod spec. -/
structure PodTemplateSpec where
  annotations : StringMap := []
  labels : StringMap := []
  spec : PodSpec := {}
  deriving DecidableEq, Repr

/-- `v1.DeploymentSpec`: the selector, the replica count and the pod template. -/
structure DeploymentSpec where
  /-- `Selector.MatchLabels`. -/
  selector : StringMap := []
  replicas : Nat := 1
  template : PodTemplateSpec := {}
  deriving DecidableEq, Repr

/-- `metav1.OwnerReference`: whose object it is, and whether that owner is the controller. -/
structure OwnerReference where
  uid : String
  controller : Bool
  deriving DecidableEq, Repr

/-- `v1.Deployment`: the object metadata the reconciler reads and writes, and the spec. -/
structure Deployment where
  name : String := ""
  /-- `Namespace`. -/
  ns : String
  generateName : String := ""
  labels : StringMap := []
  ownerReferences : List OwnerReference := []
  spec : DeploymentSpec := {}
  deriving DecidableEq, Repr

structure ReceiveAdapterArgs where
  image : String
  source : KinesisSource
  labels : StringMap
  sinkURI : String

def makeDeploymentSpec (args : ReceiveAdapterArgs) : DeploymentSpec :=
  let replicas := 1
  let spec := args.source.spec
  if spec.awsCredsSecret.name.length > 0 ∧ spec.awsCredsSecret.key.length > 0 then
    let credsVolume := "aws-credentials"
    let credsMountPath := "/var/secrets/aws"
    let credsFile := credsMountPath ++ "/" ++ spec.awsCredsSecret.key
    { selector := args.labels
      replicas := replicas
      template :=
        { annotations := [("sidecar.istio.io/inject", "true")]
          labels := args.labels
          spec :=
            { serviceAccountName := spec.serviceAccountName
              containers := [
                { name := "receive-adapter"
                  image := args.image
                  env := [⟨"AWS_APPLICATION_CREDENTIALS", credsFile⟩,
                    ⟨"STREAM_NAME", spec.streamName⟩, ⟨"REGION", spec.region⟩,
                    ⟨"SINK_URI", args.sinkURI⟩, ⟨"CONSUMER_NAME", args.source.name⟩]
                  volumeMounts := [⟨credsVolume, credsMountPath⟩] }]
              volumes := [⟨credsVolume, some ⟨spec.awsCredsSecret.name⟩⟩] } } }
  else
    { selector := args.labels
      replicas := replicas
      template :=
        { annotations := [("sidecar.istio.io/inject", "true"),
            ("iam.amazonaws.com/role", spec.kiamOptions.assignedIamRole)]
          labels := args.labels
          spec :=
            { serviceAccountName := spec.serviceAccountName
              containers := [
                { name := "receive-adapter"
                  image := args.image
                  env := [⟨"STREAM_NAME", spec.streamName⟩,
                    ⟨"KCL_IAM_ROLE_ARN", spec.kiamOptions.kclIamRoleArn⟩,
                    ⟨"REGION", spec.region⟩, ⟨"SINK_URI", args.sinkURI⟩,
                    ⟨"CONSUMER_NAME", args.source.name⟩] }] } } }

/-- `MakeReceiveAdapter`: the Deployment, to be named by the server from `GenerateName`. -/
def makeReceiveAdapter (args : ReceiveAdapterArgs) : Deployment where
  ns := args.source.ns
  generateName := "kinesis-" ++ args.source.name ++ "-"
  labels := args.labels
  spec := makeDeploymentSpec args

/-- The builder's labels reach the Deployment, its selector and its pod template alike. -/
theorem makeReceiveAdapter_labels (args : ReceiveAdapterArgs) :
    (makeReceiveAdapter args).labels = args.labels ∧
      (makeReceiveAdapter args).spec.selector = args.labels ∧
      (makeReceiveAdapter args).spec.template.labels = args.labels := by
  simp only [makeReceiveAdapter, makeDeploymentSpec]
  split <;> simp

/-- The pod runs one container, the receive adapter in the given image. -/
theorem makeReceiveAdapter_container (args : ReceiveAdapterArgs) :
    ∃ c, (makeReceiveAdapter args).spec.template.spec.containers = [c] ∧
      c.name = "receive-adapter" ∧ c.image = args.image := by
  simp only [makeReceiveAdapter, makeDeploymentSpec]
  split <;> simp

end KnativeKinesis
