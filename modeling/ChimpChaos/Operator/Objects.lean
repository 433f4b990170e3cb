/-
This file holds the Kubernetes objects the operator reads and builds, with the fields it
sets or looks at. A field the operator leaves at its default is absent.
-/

import ChimpChaos.Operator.Types

namespace ChimpChaos

structure OwnerReference where
  apiVersion : String
  kind : String
  name : String
  uid : String
  controller : Option Bool
  blockOwnerDeletion : Option Bool
  deriving DecidableEq, Repr

structure ObjectMeta where
  name : Option String := none
  ns : Option String := none
  uid : Option String := none
  labels : Option Labels := none
  annotations : Option Labels := none
  ownerReferences : Option (List OwnerReference) := none
  finalizers : Option (List String) := none
  deletionTimestamp : Option String := none
  deriving DecidableEq, Repr

structure EnvVar where
  name : String
  value : Option String
  deriving DecidableEq, Repr

structure ContainerPort where
  containerPort : Int
  name : Option String
  deriving DecidableEq, Repr

structure SecurityContext where
  privileged : Option Bool
  deriving DecidableEq, Repr

structure Container where
  name : String
  image : Option String
  args : Option (List String)
  env : Option (List EnvVar)
  ports : Option (List ContainerPort)
  securityContext : Option SecurityContext
  deriving DecidableEq, Repr

structure PodSpec where
  containers : List Container
  nodeName : Option String
  restartPolicy : Option String
  serviceAccountName : Option String
  deriving DecidableEq, Repr

structure PodTemplateSpec where
  metadata : Option ObjectMeta
  spec : Option PodSpec
  deriving DecidableEq, Repr

structure JobSpec where
  backoffLimit : Option Int
  ttlSecondsAfterFinished : Option Int
  template : PodTemplateSpec
  deriving DecidableEq, Repr

structure JobStatus where
  succeeded : Option Int
  failed : Option Int
  deriving DecidableEq, Repr

structure Job where
  metadata : ObjectMeta
  spec : Option JobSpec
  status : Option JobStatus := none
  deriving DecidableEq, Repr

/-- The node a Job's pod template is pinned to. -/
def Job.nodeName (job : Job) : Option String :=
  job.spec.bind fun spec => spec.template.spec.bind PodSpec.nodeName

/-- The value of a label of a Job. -/
def Job.label (job : Job) (key : String) : Option String :=
  job.metadata.labels.bind (List.lookup key)

/-- What a listing of VirtualServices tells of each of them. -/
structure VirtualServiceInfo where
  name : String
  labels : Labels
  deriving DecidableEq, Repr

end ChimpChaos
